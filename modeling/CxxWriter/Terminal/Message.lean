/-
  Messages for the terminal.

  A message is written in a markup: a tag in brackets, such as `[red]`, sets a
  style and is not shown.  A backslash in front of a tag makes it text, and two
  backslashes there stand for one.  Where no terminal shows styles, what is
  left of a message is `visible`.

  `escape` makes a text part of a message, so that what is shown is the text;
  some texts are shown otherwise: those with a backslash in front of a bracket
  that starts no tag, those that end with a backslash, and those that hold
  names of emoji, tabs, or characters that move the cursor.
-/
import CxxWriter.Console
import CxxWriter.Terminal.Emoji
import CxxWriter.Terminal.Width

namespace CxxWriter.Terminal

/-- What follows the first closing bracket, if no opening one comes before. -/
def afterBracket? : List Char → Option (List Char × List Char)
  | [] => none
  | c :: cs =>
    if c = ']' then some ([c], cs)
    else if c = '[' then none
    else (afterBracket? cs).map fun p => (c :: p.1, p.2)

/-- A character that the name of a tag starts with. -/
def startsTag (c : Char) : Bool := c.isLower || c == '#' || c == '/' || c == '@'

/-- A tag at the front of a text, and what follows it. -/
def tag? : List Char → Option (List Char × List Char)
  | '[' :: c :: cs =>
    if startsTag c then (afterBracket? cs).map fun p => ('[' :: c :: p.1, p.2) else none
  | _ => none

theorem afterBracket?_length {cs : List Char} {p : List Char × List Char}
    (h : afterBracket? cs = some p) : p.2.length < cs.length := by
  induction cs generalizing p with
  | nil => simp [afterBracket?] at h
  | cons c cs ih =>
    simp only [afterBracket?] at h
    split at h
    · cases h; simp
    · split at h
      · cases h
      · obtain ⟨q, hq, rfl⟩ := Option.map_eq_some_iff.1 h
        have := ih hq
        simp only [List.length_cons]
        omega

theorem tag?_length {cs : List Char} {p : List Char × List Char} (h : tag? cs = some p) :
    p.2.length < cs.length := by
  unfold tag? at h
  split at h
  · split at h
    · obtain ⟨q, hq, rfl⟩ := Option.map_eq_some_iff.1 h
      have := afterBracket?_length hq
      simp only [List.length_cons]
      omega
    · cases h
  · cases h

/-- A part of a message, with the number of backslashes in front of it. -/
inductive Piece where
  | char (slashes : Nat) (c : Char)
  | tag (slashes : Nat) (text : List Char)
  /-- The end of the message. -/
  | finish (slashes : Nat)
deriving DecidableEq, Repr

/-- The parts of a message, after a number of backslashes. -/
def pieces (slashes : Nat) : List Char → List Piece
  | [] => [.finish slashes]
  | c :: cs =>
    if c = '\\' then pieces (slashes + 1) cs
    else match _h : tag? (c :: cs) with
      | some (tag, rest) => .tag slashes tag :: pieces 0 rest
      | none => .char slashes c :: pieces 0 cs
termination_by cs => cs.length
decreasing_by
  · simp
  · exact tag?_length _h
  · simp

/-- A number of backslashes. -/
def slashText (n : Nat) : List Char := List.replicate n '\\'

/-- A part that is to be shown as it is. -/
def Piece.escaped : Piece → List Char
  | char n c => slashText n ++ [c]
  | tag n t => slashText (2 * n + 1) ++ t
  | finish n => slashText (if n = 1 then 2 else n)

/-- Makes a text part of a message. -/
def escape (s : String) : String :=
  String.ofList ((pieces 0 s.toList).flatMap Piece.escaped)

/-- What is shown of a part.  In front of any bracket a backslash is lost. -/
def Piece.shown : Piece → List Char
  | char n c => slashText (if c = '[' then n - 1 else n) ++ [c]
  | tag n t => slashText (n / 2) ++ (if n % 2 = 1 then replaceEmoji t else [])
  | finish n => slashText n

/-- What is shown of the parts of a message, after some text that no tag
    divides from them.  Names of emoji are looked for between tags. -/
def shownAfter (plain : List Char) : List Piece → List Char
  | [] => replaceEmoji plain
  | .tag n t :: ps => replaceEmoji plain ++ (Piece.tag n t).shown ++ shownAfter [] ps
  | p :: ps => shownAfter (plain ++ p.shown) ps

/-- Characters that move the cursor other than to a new line or column. -/
def movesCursor (c : Char) : Bool :=
  c == '\x07' || c == '\x08' || c == '\x0b' || c == '\x0c' || c == '\x0d'

/-- The distance of tab stops. -/
def tabWidth : Nat := 8

/-- Fills tabs with spaces up to the next tab stop.  A column is a cell. -/
def expandTabs (column : Nat) : List Char → List Char
  | [] => []
  | c :: cs =>
    if c = '\t' then
      let width := tabWidth - column % tabWidth
      List.replicate width ' ' ++ expandTabs (column + width) cs
    else if c = '\n' then c :: expandTabs 0 cs
    else c :: expandTabs (column + cellWidth c) cs

/-- A message as it is seen where no styles are shown, with a line feed. -/
def visible (message : String) : String :=
  let cs := (shownAfter [] (pieces 0 message.toList)).filter (!movesCursor ·)
  String.ofList (expandTabs 0 cs ++ ['\n'])

/-- A console that is no terminal and shows every message. -/
def console : Console where
  isTerminal := false
  escape := escape
  print _ _
    | .markup s => .ok (visible s)
    | .plain s | .framed _ s => .ok s

end CxxWriter.Terminal
