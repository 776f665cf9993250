/-
  Emoji in messages.

  A name of an emoji between colons, such as `:heart:`, stands for the emoji.
  The name may be in any case, and may end in `-text` or `-emoji`, which ask
  for the emoji as a character of text or as a picture.
-/
import CxxWriter.Terminal.EmojiTable
import CxxWriter.Text.Blank
import CxxWriter.Text.LetterCase

namespace CxxWriter.Terminal

/-- The value that comes right after a name in a list of names and values. -/
def valueAfter? (name : String) : List String → Option String
  | k :: v :: rest => if k = name then some v else valueAfter? name rest
  | _ => none

/-- The emoji of a name in lower case. -/
def emoji? (name : String) : Option String :=
  emojiLines.findSome? fun line => valueAfter? name (Text.splitString ' ' line)

/-- A name without the ending that asks for a form, and the mark of the
    form. -/
def splitForm (name : String) : String × String :=
  if name.endsWith "-text" then ((name.dropEnd 5).toString, "\ufe0e")
  else if name.endsWith "-emoji" then ((name.dropEnd 6).toString, "\ufe0f")
  else (name, "")

/-- What a name between colons stands for. -/
def emojiFor? (name : String) : Option String :=
  let (name, form) := splitForm name
  (emoji? (Text.toLower name)).map (· ++ form)

/-- The name up to the next colon, if no white space comes before it, and what
    follows the colon. -/
def takeName? : List Char → Option (List Char × List Char)
  | [] => none
  | c :: cs =>
    if c = ':' then some ([], cs)
    else if Text.isSpace c then none
    else (takeName? cs).map fun p => (c :: p.1, p.2)

theorem takeName?_length {cs : List Char} {p : List Char × List Char}
    (h : takeName? cs = some p) : p.2.length < cs.length := by
  induction cs generalizing p with
  | nil => simp [takeName?] at h
  | cons c cs ih =>
    simp only [takeName?] at h
    split at h
    · cases h; simp
    · split at h
      · cases h
      · obtain ⟨q, hq, rfl⟩ := Option.map_eq_some_iff.1 h
        have := ih hq
        simp only [List.length_cons]
        omega

/-- Puts emoji in the place of their names; names that stand for nothing are
    kept. -/
def replaceEmoji : List Char → List Char
  | [] => []
  | c :: cs =>
    if c = ':' then
      match _h : takeName? cs with
      | some (name, rest) =>
        ((emojiFor? (String.ofList name)).map (·.toList)).getD (':' :: name ++ [':']) ++
          replaceEmoji rest
      | none => c :: replaceEmoji cs
    else c :: replaceEmoji cs
termination_by cs => cs.length
decreasing_by
  · have h : rest.length < cs.length := takeName?_length _h
    simp only [List.length_cons]
    omega
  · simp
  · simp

end CxxWriter.Terminal
