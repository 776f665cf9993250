/-
  The tokens of a text.

  A text is cut at its tags: `{{ }}` prints, `{% %}` is a statement, `{# #}` a
  comment, and between `{% raw %}` and `{% endraw %}` nothing is a tag.
  White space around tags is trimmed by these rules:

  * a `-` at the edge of a tag strips all white space next to it;
  * unless a `+` stands there, spaces before a tag other than `{{` go if only
    they stand before it on its line;
  * one line feed right after a statement or a comment goes;
  * one line feed at the end of the text goes.
-/
import CxxWriter.Template.Token.Literal
import CxxWriter.Text.Blank
import CxxWriter.Text.Word

namespace CxxWriter.Template

open Text (isSpace isWord isIdentifier trimEnd dropPrefix?)

/-! ## Line feeds -/

/-- Drops one line feed at the end. -/
def dropLastLineFeed (cs : List Char) : List Char :=
  if cs.getLast? = some '\n' then cs.dropLast else cs

/-! ## The edges of tags -/

/-- A mark at the edge of a tag. -/
inductive Mark where
  | plain
  | keep
  | strip
deriving DecidableEq

/-- A mark at the front. -/
def takeMark : List Char → Mark × List Char
  | '-' :: cs => (.strip, cs)
  | '+' :: cs => (.keep, cs)
  | cs => (.plain, cs)

/-- What a tag is the start of. -/
inductive Opening where
  | raw
  | print
  | comment
  | statement
deriving DecidableEq

/-- Drops a line feed at the front. -/
def dropLineFeed : List Char → List Char
  | '\n' :: cs => cs
  | cs => cs

/-- The end of a tag at the front, closed by the two characters of `close`;
    what follows it, and what follows after trimming.  `keeps` tells whether
    a `+` may stand there, `trims` whether a line feed after it goes. -/
def takeClose? (close : List Char) (keeps trims : Bool) (cs : List Char) : Option (List Char) :=
  match dropPrefix? close cs with
  | some rest => some (if trims then dropLineFeed rest else rest)
  | none =>
    match cs with
    | '-' :: cs => (dropPrefix? close cs).map (·.dropWhile isSpace)
    | '+' :: cs => if keeps then dropPrefix? close cs else none
    | _ => none

def closeStatement? (cs : List Char) : Option (List Char) :=
  takeClose? ['%', '\x7d'] true true cs

def closeComment? (cs : List Char) : Option (List Char) :=
  takeClose? ['#', '\x7d'] true true cs

def closePrint? (cs : List Char) : Option (List Char) :=
  takeClose? ['\x7d', '\x7d'] false false cs

/-- The rest of a `raw` tag after its mark. -/
def takeRaw? (cs : List Char) : Option (List Char) :=
  match dropPrefix? ['r', 'a', 'w'] (cs.dropWhile isSpace) with
  | some rest => takeClose? ['%', '\x7d'] false false (rest.dropWhile isSpace)
  | none => none

/-- The start of a tag at the front, with its mark. -/
def opening? : List Char → Option (Opening × Mark × List Char)
  | '\x7b' :: '%' :: cs =>
    let (mark, rest) := takeMark cs
    match takeRaw? rest with
    | some rest => some (.raw, mark, rest)
    | none => some (.statement, mark, rest)
  | '\x7b' :: '\x7b' :: cs =>
    let (mark, rest) := takeMark cs
    some (.print, mark, rest)
  | '\x7b' :: '#' :: cs =>
    let (mark, rest) := takeMark cs
    some (.comment, mark, rest)
  | _ => none

/-- An `endraw` tag at the front. -/
def closeRaw? : List Char → Option (Mark × List Char)
  | '\x7b' :: '%' :: cs =>
    let (mark, rest) := takeMark cs
    match dropPrefix? ['e', 'n', 'd', 'r', 'a', 'w'] (rest.dropWhile isSpace) with
    | some rest => (closeStatement? (rest.dropWhile isSpace)).map (mark, ·)
    | none => none
  | _ => none

/-- Cuts a text at the first place where `at?` finds something. -/
def cutAt {α : Type} (at? : List Char → Option α) : List Char → List Char × Option α
  | [] => ([], at? [])
  | c :: cs =>
    match at? (c :: cs) with
    | some a => ([], some a)
    | none =>
      let (t, found) := cutAt at? cs
      (c :: t, found)

/-- Drops the white space after the last line feed, if nothing else stands
    there and it starts a line. -/
def dropIndentation (lineStart : Bool) (t : List Char) : List Char :=
  let tail := (t.reverse.takeWhile (· != '\n')).reverse
  if (lineStart || t.contains '\n') && tail.all isSpace then t.take (t.length - tail.length) else t

/-- The text before a tag, trimmed as the mark of the tag says. -/
def trimBefore (mark : Mark) (indents lineStart : Bool) (t : List Char) : List Char :=
  match mark with
  | .strip => trimEnd isSpace t
  | .keep => t
  | .plain => if indents then dropIndentation lineStart t else t

/-! ## Scanning -/

/-- Where a scanner stands. -/
inductive Mode where
  | outside
  | comment
  | raw
  | inside (print : Bool)
deriving DecidableEq

/-- A scanner and the text before it. -/
structure Scanner where
  mode : Mode
  /-- The line that the rest starts in. -/
  line : Nat
  /-- The closing brackets that are awaited, the innermost first. -/
  awaited : List Char
  /-- Did the last match end with a line feed? -/
  lineStart : Bool
  /-- The last character before the rest. -/
  previous : Option Char
  rest : List Char

/-- What a step of a scanner comes to. -/
inductive Scanned where
  | done
  | fault (f : Malformed)
  | next (found : Option (Except Failure Token)) (s : Scanner)

namespace Scanner

/-- Moves on to `rest` in another mode. -/
def goto (s : Scanner) (mode : Mode) (rest : List Char) : Scanner :=
  let consumed := s.rest.take (s.rest.length - rest.length)
  let last := consumed.getLast?
  { mode, line := s.line + consumed.count '\n', awaited := s.awaited,
    lineStart := last == some '\n', previous := last, rest }

def dataOf (t : List Char) : Option (Except Failure Token) :=
  if t.isEmpty then none else some (.ok (.data (String.ofList t)))

/-- A step outside of tags: the text up to the next tag.  The token that
    opens the tag is given by the step after it. -/
def stepOutside (s : Scanner) : Scanned :=
  let (t, found) := cutAt opening? s.rest
  match found with
  | none => if t.isEmpty then .done else .next (dataOf t) (s.goto .outside [])
  | some (opening, mark, rest) =>
    let data := dataOf (trimBefore mark (opening != .print) s.lineStart t)
    match opening with
    | .raw => .next data (s.goto .raw rest)
    | .comment => .next data (s.goto .comment rest)
    | .print => .next data (s.goto (.inside true) rest)
    | .statement => .next data (s.goto (.inside false) rest)

/-- A step in a comment: to its end. -/
def stepComment (s : Scanner) : Scanned :=
  match (cutAt closeComment? s.rest).2 with
  | some rest => .next none (s.goto .outside rest)
  | none => if s.rest.isEmpty then .done else .fault .unclosedComment

/-- A step in a raw part: to its end. -/
def stepRaw (s : Scanner) : Scanned :=
  let (t, found) := cutAt closeRaw? s.rest
  match found with
  | some (mark, rest) => .next (dataOf (trimBefore mark true s.lineStart t)) (s.goto .outside rest)
  | none => if s.rest.isEmpty then .done else .fault .unclosedRaw

/-- The symbol at the front. -/
def takeSymbol? (cs : List Char) : Option (String × List Char) :=
  let double := ["//", "**", "==", "!=", ">=", "<="]
  let single := "+-/*%~[]()\x7b\x7d><=.:|,;".toList
  match cs with
  | [] => none
  | [c] => if single.contains c then some (String.singleton c, []) else none
  | c :: d :: rest =>
    let two := String.ofList [c, d]
    if double.contains two then some (two, rest)
    else if single.contains c then some (String.singleton c, d :: rest)
    else none

/-- Keeps account of brackets. -/
def bracket (s : Scanner) (spelling : String) (after : Scanner) : Scanned :=
  let found : Option (Except Failure Token) := some (.ok (.symbol spelling))
  match spelling.toList with
  | ['('] => .next found { after with awaited := ')' :: s.awaited }
  | ['['] => .next found { after with awaited := ']' :: s.awaited }
  | ['\x7b'] => .next found { after with awaited := '\x7d' :: s.awaited }
  | [c] =>
    if c = ')' ∨ c = ']' ∨ c = '\x7d' then
      match s.awaited with
      | [] => .fault (.unexpectedBracket c)
      | e :: es => if e = c then .next found { after with awaited := es } else .fault (.mismatchedBracket c e)
    else .next found after
  | _ => .next found after

/-- A name, as long as it is an identifier. -/
def nameToken (w : List Char) : Except Failure Token :=
  if isIdentifier w then .ok (.name (String.ofList w)) else .error (.malformed .badIdentifier)

/-- A quoted text, if its escapes are good ones. -/
def textToken (t : List Char) : Except Failure Token :=
  match unescape t with
  | .ok s => .ok (.text s)
  | .error f => .error (.malformed f)

/-- A number, if it can be had. -/
def numberToken {α : Type} (token : α → Token) : Except ValueFault α → Except Failure Token
  | .ok n => .ok (token n)
  | .error f => .error (.value f)

/-- A step inside of a tag: its end, or a token.  `length` is the length of
    the whole text. -/
def stepInside (length : Nat) (print : Bool) (s : Scanner) : Scanned :=
  let close? := if s.awaited.isEmpty then (if print then closePrint? s.rest else closeStatement? s.rest) else none
  match close? with
  | some rest => .next (some (.ok (if print then .closePrint else .closeTag))) (s.goto .outside rest)
  | none =>
    match s.rest with
    | [] => .done
    | c :: cs =>
      let here (rest : List Char) := s.goto s.mode rest
      if isSpace c then .next none (here (cs.dropWhile isSpace))
      else
        match (if s.previous = some '.' then none else takeFloat? s.rest) with
        | some (x, rest) => .next (some (numberToken .float x)) (here rest)
        | none =>
          match takeInteger? s.rest with
          | some (n, rest) => .next (some (numberToken .integer n)) (here rest)
          | none =>
            if isWord c then
              .next (some (nameToken (s.rest.takeWhile isWord))) (here (s.rest.dropWhile isWord))
            else
              match (if c = '\'' ∨ c = '"' then takeQuoted? c cs else none) with
              | some (t, rest) => .next (some (textToken t)) (here rest)
              | none =>
                match takeSymbol? s.rest with
                | some (spelling, rest) => s.bracket spelling (here rest)
                | none => .fault (.unexpectedChar c (length - s.rest.length))

def step (length : Nat) (s : Scanner) : Scanned :=
  match s.mode with
  | .outside => s.stepOutside
  | .comment => s.stepComment
  | .raw => s.stepRaw
  | .inside print => s.stepInside length print

/-- The token that opens the tag a scanner has come to. -/
def entered? (before after : Scanner) : Option Token :=
  match before.mode, after.mode with
  | .outside, .inside true => some .openPrint
  | .outside, .inside false => some .openTag
  | _, _ => none

/-- The lexemes of a step. -/
def lexemes (before : Scanner) (found : Option (Except Failure Token)) (after : Scanner) :
    List Lexeme :=
  (found.map (⟨before.line, ·⟩)).toList ++
    ((before.entered? after).map (⟨after.line, .ok ·⟩)).toList

/-- The lexemes from here on.  Every step consumes characters, so that their
    number bounds the number of steps. -/
def run (length : Nat) : Nat → Scanner → List Lexeme
  | 0, s => [⟨s.line, .ok .finish⟩]
  | fuel + 1, s =>
    match s.step length with
    | .done => [⟨s.line, .ok .finish⟩]
    | .fault f => [⟨s.line, .error (.malformed f)⟩]
    | .next found after => s.lexemes found after ++ run length fuel after

end Scanner

/-- The lexemes of a template. -/
def scan (source : String) : List Lexeme :=
  let cs := dropLastLineFeed (Text.normalizeLines source.toList)
  Scanner.run cs.length (cs.length + 1)
    { mode := .outside, line := 1, awaited := [], lineStart := true, previous := none, rest := cs }

end CxxWriter.Template
