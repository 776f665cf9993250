/-
  Reading JSON.

  The numbers `NaN`, `Infinity` and `-Infinity` are read besides those of the
  format, and of two entries with the same key the later one counts, in the
  place of the first.  A fault tells what was expected and where.

  Texts are made of characters here.  Half of a surrogate pair is none: an escape
  that gives one alone is read as the replacement character.
-/
import CxxWriter.Template.Token.Literal
import CxxWriter.Text.Digit

namespace CxxWriter.Json

/-- What is wrong with a text. -/
inductive Fault where
  | byteOrderMark
  | expectedValue
  | expectedKey
  | expectedColon
  | expectedComma
  | extraData
  | unterminatedText
  | controlCharacter
  | badEscape
  | badUnicodeEscape
deriving DecidableEq, Repr

def Fault.message : Fault → String
  | .byteOrderMark => "Unexpected UTF-8 BOM (decode using utf-8-sig)"
  | .expectedValue => "Expecting value"
  | .expectedKey => "Expecting property name enclosed in double quotes"
  | .expectedColon => "Expecting ':' delimiter"
  | .expectedComma => "Expecting ',' delimiter"
  | .extraData => "Extra data"
  | .unterminatedText => "Unterminated string starting at"
  | .controlCharacter => "Invalid control character at"
  | .badEscape => "Invalid \\escape"
  | .badUnicodeEscape => "Invalid \\uXXXX escape"

/-- Why a text cannot be read. -/
inductive ReadError where
  /-- A fault at a character of the text, with its line and column. -/
  | fault (f : Fault) (line column position : Nat)
  /-- An integer with too many digits. -/
  | tooManyDigits
  /-- Lists and objects nest too deep. -/
  | tooDeep
deriving DecidableEq, Repr

/-- What is wrong, before the place is known: the fault with the number of
    characters that follow its place. -/
inductive Trouble where
  | fault (f : Fault) (left : Nat)
  | tooManyDigits
  | tooDeep

/-- White space between the parts of a document. -/
def isJsonSpace (c : Char) : Bool := c == ' ' || c == '\t' || c == '\n' || c == '\r'

def skipSpace (cs : List Char) : List Char := cs.dropWhile isJsonSpace

/-- A fault at the front of what is left. -/
def faultAt {α : Type} (f : Fault) (rest : List Char) : Except Trouble α :=
  .error (.fault f rest.length)

/-! ## Texts -/

/-- A letter after a backslash that stands for one character. -/
def shortEscape? (c : Char) : Option Char :=
  match c with
  | '"' => some '"'
  | '\\' => some '\\'
  | '/' => some '/'
  | 'b' => some '\x08'
  | 'f' => some '\x0c'
  | 'n' => some '\n'
  | 'r' => some '\r'
  | 't' => some '\t'
  | _ => none

/-- The value of four hexadecimal digits at the front, after which the text
    has to go on. -/
def takeUnit? (cs : List Char) : Option (Nat × List Char) :=
  match Template.takeHex? 4 cs with
  | some (n, c :: rest) => some (n, c :: rest)
  | _ => none

def isHighSurrogate (n : Nat) : Bool := 0xd800 ≤ n && n < 0xdc00

def isLowSurrogate (n : Nat) : Bool := 0xdc00 ≤ n && n < 0xe000

/-- The second half of a surrogate pair at the front. -/
def takeLow? (cs : List Char) : Except Trouble (Option (Nat × List Char)) :=
  match cs with
  | '\\' :: 'u' :: rest =>
    if rest.length < 5 then .ok none
    else match Template.takeHex? 4 rest with
      | none => faultAt .badUnicodeEscape ('u' :: rest)
      | some (n, after) => .ok (if isLowSurrogate n then some (n, after) else none)
  | _ => .ok none

/-- The character of an escape by number, after its `u`. -/
def unicodeEscape (cs : List Char) : Except Trouble (Char × List Char) :=
  match takeUnit? cs with
  | none => faultAt .badUnicodeEscape ('u' :: cs)
  | some (n, rest) => do
    if isHighSurrogate n then
      match ← takeLow? rest with
      | some (m, after) => return (Template.charOf (0x10000 + (n - 0xd800) * 0x400 + (m - 0xdc00)), after)
      | none => return (Template.charOf n, rest)
    else return (Template.charOf n, rest)

/-- The text up to its closing quote.  `start` is the number of characters
    from its opening quote on. -/
def readText (start : Nat) : Nat → List Char → Except Trouble (List Char × List Char)
  | 0, _ => .error (.fault .unterminatedText start)
  | _ + 1, [] => .error (.fault .unterminatedText start)
  | _ + 1, '"' :: rest => .ok ([], rest)
  | _ + 1, ['\\'] => .error (.fault .unterminatedText start)
  | fuel + 1, '\\' :: c :: cs =>
    if c = 'u' then do
      let (x, rest) ← unicodeEscape cs
      let (t, rest) ← readText start fuel rest
      return (x :: t, rest)
    else match shortEscape? c with
      | some x => do
        let (t, rest) ← readText start fuel cs
        return (x :: t, rest)
      | none => faultAt .badEscape ('\\' :: c :: cs)
  | fuel + 1, c :: cs =>
    if c.toNat < 0x20 then faultAt .controlCharacter (c :: cs)
    else do
      let (t, rest) ← readText start fuel cs
      return (c :: t, rest)

/-- The text after an opening quote. -/
def textAfterQuote (cs : List Char) : Except Trouble (String × List Char) := do
  let (t, rest) ← readText (cs.length + 1) (cs.length + 1) cs
  return (String.ofList t, rest)

/-! ## Numbers -/

/-- The whole part of a number: a zero, or digits that start with another
    one. -/
def takeWhole? (cs : List Char) : Option (List Char × List Char) :=
  match cs with
  | '0' :: rest => some (['0'], rest)
  | c :: _ =>
    if c.isDigit then some (cs.takeWhile Char.isDigit, cs.dropWhile Char.isDigit) else none
  | [] => none

/-- Is there a minus sign at the front?  And what follows it. -/
def takeSign (cs : List Char) : Bool × List Char :=
  match cs with
  | '-' :: r => (true, r)
  | r => (false, r)

/-- The digits behind a point at the front, and what follows them; without any,
    the point is not read. -/
def takeFraction (cs : List Char) : List Char × List Char :=
  match cs with
  | '.' :: r =>
    if r.head?.any Char.isDigit then (r.takeWhile Char.isDigit, r.dropWhile Char.isDigit)
    else ([], cs)
  | _ => ([], cs)

/-- A number at the front. -/
def readNumber (cs : List Char) : Except Trouble (Value × List Char) :=
  let sign := takeSign cs
  match takeWhole? sign.2 with
  | none => faultAt .expectedValue cs
  | some (whole, rest) =>
    let fraction := takeFraction rest
    let power := Double.takeExponent? fraction.2
    let value (ds : List Char) : Nat := (Double.takeDigits ds).1
    if fraction.1.isEmpty && power.isNone then
      if Text.maxDigits < whole.length then .error .tooManyDigits
      else .ok (.int (if sign.1 then -(value whole : Int) else value whole), fraction.2)
    else
      let (e, after) := power.getD (0, fraction.2)
      .ok (.float (Double.ofDecimal sign.1 (value (whole ++ fraction.1)) (e - fraction.1.length)),
        after)

/-! ## Documents -/

/-- The words that stand for values. -/
def words : List (String × Value) :=
  [("null", .null), ("true", .bool true), ("false", .bool false), ("NaN", .float (0.0 / 0.0)),
    ("Infinity", .float Double.infinity), ("-Infinity", .float (-Double.infinity))]

/-- A word at the front. -/
def takeWord? (cs : List Char) : Option (Value × List Char) :=
  words.findSome? fun w => (Text.dropPrefix? w.1.toList cs).map fun rest => (w.2, rest)

/-- How deep lists and objects may nest. -/
def maxDepth : Nat := 970

mutual

/-- A value at the front.  `fuel` bounds the number of parts that are read,
    `depth` how deep they nest. -/
def readValue : Nat → Nat → List Char → Except Trouble (Value × List Char)
  | 0, _, _ => .error .tooDeep
  | fuel + 1, depth, cs =>
    match cs with
    | '"' :: rest => do
      let (s, rest) ← textAfterQuote rest
      return (.text s, rest)
    | '\x7b' :: rest =>
      match depth, skipSpace rest with
      | 0, _ => .error .tooDeep
      | _, '\x7d' :: rest => .ok (.dict [], rest)
      | depth + 1, rest => readEntries fuel depth [] rest
    | '[' :: rest =>
      match depth, skipSpace rest with
      | 0, _ => .error .tooDeep
      | _, ']' :: rest => .ok (.list [], rest)
      | depth + 1, rest => readItems fuel depth [] rest
    | cs =>
      match takeWord? cs with
      | some r => .ok r
      | none => readNumber cs

/-- The items of a list, after those found so far. -/
def readItems : Nat → Nat → List Value → List Char → Except Trouble (Value × List Char)
  | 0, _, _, _ => .error .tooDeep
  | fuel + 1, depth, found, cs => do
    let (v, rest) ← readValue fuel depth cs
    match skipSpace rest with
    | ']' :: rest => return (.list (found ++ [v]), rest)
    | ',' :: rest => readItems fuel depth (found ++ [v]) (skipSpace rest)
    | rest => faultAt .expectedComma rest

/-- The entries of an object, after those found so far. -/
def readEntries : Nat → Nat → List (Value × Value) → List Char → Except Trouble (Value × List Char)
  | 0, _, _, _ => .error .tooDeep
  | fuel + 1, depth, found, cs =>
    match cs with
    | '"' :: rest => do
      let (key, rest) ← textAfterQuote rest
      match skipSpace rest with
      | ':' :: rest =>
        let (v, rest) ← readValue fuel depth (skipSpace rest)
        let found := Value.insertEntry (.text key) v found
        match skipSpace rest with
        | '\x7d' :: rest => return (.dict found, rest)
        | ',' :: rest => readEntries fuel depth found (skipSpace rest)
        | rest => faultAt .expectedComma rest
      | rest => faultAt .expectedColon rest
    | rest => faultAt .expectedKey rest

end

/-- A whole document. -/
def readDocument (cs : List Char) : Except Trouble Value := do
  if cs.head? = some '\ufeff' then faultAt .byteOrderMark cs
  else
    let (v, rest) ← readValue (2 * cs.length + 4) maxDepth (skipSpace cs)
    match skipSpace rest with
    | [] => return v
    | rest => faultAt .extraData rest

/-- Tells where a fault is. -/
def locate (cs : List Char) : Trouble → ReadError
  | .fault f left =>
    let position := cs.length - left
    let before := cs.take position
    .fault f (before.count '\n' + 1) ((before.reverse.takeWhile (· != '\n')).length + 1) position
  | .tooManyDigits => .tooManyDigits
  | .tooDeep => .tooDeep

/-- Reads a document. -/
def read (s : String) : Except ReadError Value :=
  (readDocument s.toList).mapError (locate s.toList)

/-- A fault with its place. -/
def placed (f : Fault) (line column position : Nat) : String :=
  f.message ++ ": line " ++ toString line ++ " column " ++ toString column ++ " (char " ++
    toString position ++ ")"

end CxxWriter.Json
