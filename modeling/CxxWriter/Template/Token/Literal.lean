/-
  Numbers and quoted texts inside of tags.

  Digits may be grouped by single underscores.  Integers are decimal without
  leading zeros, or have a base mark; floats have a fraction or an exponent.
  In a quoted text a backslash starts an escape; before any other character
  it stands for itself.
-/
import CxxWriter.Template.Token
import CxxWriter.Text.Digit

namespace CxxWriter.Template

/-! ## Numbers -/

/-- The value of a digit of a base up to sixteen.  In the bases that have all
    ten decimal digits, those of any script will do. -/
def digitOf? (base : Nat) (c : Char) : Option Nat :=
  let n :=
    if c.isDigit then c.toNat - 48
    else if 'a' ≤ c ∧ c ≤ 'f' then c.toNat - 87
    else if 'A' ≤ c ∧ c ≤ 'F' then c.toNat - 55
    else if 10 ≤ base then (Text.digitValue? c).getD base
    else base
  if n < base then some n else none

/-- Digits at the front, of which each but the first may follow an
    underscore. -/
def takeGrouped (base : Nat) : List Char → List Nat × List Char
  | [] => ([], [])
  | [c] =>
    match digitOf? base c with
    | some n => ([n], [])
    | none => ([], [c])
  | c :: d :: cs =>
    match digitOf? base c with
    | some n =>
      let (ns, rest) := takeGrouped base (d :: cs)
      (n :: ns, rest)
    | none =>
      if c = '_' ∧ (digitOf? base d).isSome then takeGrouped base (d :: cs) else ([], c :: d :: cs)

/-- Digits at the front, the first of which is not preceded by an
    underscore. -/
def takeNumber (base : Nat) (cs : List Char) : List Nat × List Char :=
  match cs with
  | '_' :: _ => ([], cs)
  | _ => takeGrouped base cs

/-- The value of digits. -/
def numberOf (base : Nat) (digits : List Nat) : Nat := digits.foldl (fun n d => n * base + d) 0

/-- A fraction at the front, as its digits. -/
def takeFraction? (cs : List Char) : Option (List Nat × List Char) :=
  match cs with
  | '.' :: rest =>
    let (ds, rest) := takeNumber 10 rest
    if ds.isEmpty then none else some (ds, rest)
  | _ => none

/-- An exponent at the front. -/
def takePower? (cs : List Char) : Option (Int × List Char) :=
  match cs with
  | e :: rest =>
    if e = 'e' ∨ e = 'E' then
      let (negative, rest) := match rest with
        | '-' :: r => (true, r)
        | '+' :: r => (false, r)
        | r => (false, r)
      let (ds, rest) := takeNumber 10 rest
      if ds.isEmpty then none
      else some ((if negative then -(numberOf 10 ds : Int) else numberOf 10 ds), rest)
    else none
  | [] => none

/-- A float at the front, whatever its digits are. -/
def takeAnyFloat? (cs : List Char) : Option (Float × List Char) :=
  let (whole, rest) := takeNumber 10 cs
  if whole.isEmpty then none
  else
    let value (fraction : List Nat) (power : Int) :=
      Double.ofDecimal false (numberOf 10 (whole ++ fraction)) (power - fraction.length)
    match takeFraction? rest with
    | some (fraction, rest) =>
      match takePower? rest with
      | some (power, rest) => some (value fraction power, rest)
      | none => some (value fraction 0, rest)
    | none => (takePower? rest).map fun (power, rest) => (value [] power, rest)

/-- A float at the front.  Only ASCII digits are good ones. -/
def takeFloat? (cs : List Char) : Option (Except ValueFault Float × List Char) :=
  (takeAnyFloat? cs).map fun (x, rest) =>
    let written := cs.take (cs.length - rest.length)
    (if written.all (·.toNat < 0x80) then .ok x else .error .badSyntax, rest)

/-- An integer written with decimal digits, which may not be too many. -/
def decimalNumber (digits : List Nat) : Except ValueFault Nat :=
  if digits.length > Text.maxDigits then .error .badValue else .ok (numberOf 10 digits)

/-- Digits after a base mark, if there are any. -/
def takeBased? (base : Nat) (cs : List Char) : Option (Except ValueFault Nat × List Char) :=
  let (ds, rest) := takeGrouped base cs
  if ds.isEmpty then none else some (.ok (numberOf base ds), rest)

/-- Zeros at the front. -/
def takeZeros (cs : List Char) : Except ValueFault Nat × List Char :=
  let (ds, rest) := takeNumber 1 cs
  (decimalNumber ds, rest)

/-- An integer at the front, whose first digit is an ASCII one. -/
def takeInteger? (cs : List Char) : Option (Except ValueFault Nat × List Char) :=
  match cs with
  | '0' :: mark :: rest =>
    let based :=
      if mark = 'b' ∨ mark = 'B' then takeBased? 2 rest
      else if mark = 'o' ∨ mark = 'O' then takeBased? 8 rest
      else if mark = 'x' ∨ mark = 'X' then takeBased? 16 rest
      else none
    some (based.getD (takeZeros cs))
  | ['0'] => some (.ok 0, [])
  | c :: _ =>
    if c.isDigit then
      let (ds, rest) := takeNumber 10 cs
      some (decimalNumber ds, rest)
    else none
  | [] => none

/-! ## Quoted text -/

/-- The text up to the closing quote, escapes and all, and the rest. -/
def takeQuoted? (mark : Char) : List Char → Option (List Char × List Char)
  | [] => none
  | [c] => if c = mark then some ([], []) else none
  | c :: d :: cs =>
    if c = mark then some ([], d :: cs)
    else if c = '\\' then (takeQuoted? mark cs).map fun (t, rest) => (c :: d :: t, rest)
    else (takeQuoted? mark (d :: cs)).map fun (t, rest) => (c :: t, rest)

/-- A character written in ASCII. -/
def asciiChar (c : Char) : List Char :=
  if c.toNat < 0x80 then [c]
  else if c.toNat < 0x100 then '\\' :: 'x' :: Text.hexDigits 2 c.toNat
  else if c.toNat < 0x10000 then '\\' :: 'u' :: Text.hexDigits 4 c.toNat
  else '\\' :: 'U' :: Text.hexDigits 8 c.toNat

/-- The character with the given code point; the replacement character if no
    character has it. -/
def charOf (n : Nat) : Char := if n.isValidChar then Char.ofNat n else '\ufffd'

/-- The value of `width` hexadecimal digits at the front. -/
def takeHex? (width : Nat) (cs : List Char) : Option (Nat × List Char) :=
  let ds := (cs.take width).filterMap (digitOf? 16)
  if ds.length = width then some (numberOf 16 ds, cs.drop width) else none

/-- The letter after a backslash that stands for one character. -/
def simpleEscape? (c : Char) : Option Char :=
  match c with
  | '\\' => some '\\'
  | '\'' => some '\''
  | '"' => some '"'
  | 'a' => some '\x07'
  | 'b' => some '\x08'
  | 'f' => some '\x0c'
  | 'n' => some '\n'
  | 'r' => some '\r'
  | 't' => some '\t'
  | 'v' => some '\x0b'
  | _ => none

/-- Resolves the escapes of a text written in ASCII.  Every escape takes a
    character, so that the length of the text bounds the number of rounds. -/
def unescapeFrom : Nat → List Char → Except Malformed (List Char)
  | 0, _ => .ok []
  | _ + 1, [] => .ok []
  | _ + 1, ['\\'] => .ok ['\\']
  | fuel + 1, '\\' :: c :: cs =>
    let hex (width : Nat) (why : String) : Except Malformed (List Char) :=
      match takeHex? width cs with
      | some (n, rest) =>
        if n < 0x110000 then (charOf n :: ·) <$> unescapeFrom fuel rest
        else .error (.badEscape "illegal Unicode character")
      | none => .error (.badEscape why)
    match simpleEscape? c with
    | some e => (e :: ·) <$> unescapeFrom fuel cs
    | none =>
      if c = '\n' then unescapeFrom fuel cs
      else if c = 'x' then hex 2 "truncated \\xXX escape"
      else if c = 'u' then hex 4 "truncated \\uXXXX escape"
      else if c = 'U' then hex 8 "truncated \\UXXXXXXXX escape"
      else if c = 'N' then
        .error (.badEscape (if cs.head? = some '\x7b' ∧ cs.contains '\x7d'
          then "unknown Unicode character name" else "malformed \\N character escape"))
      else match digitOf? 8 c with
        | some _ =>
          let ds := ((c :: cs).take 3).takeWhile fun d => (digitOf? 8 d).isSome
          (charOf (numberOf 8 (ds.filterMap (digitOf? 8))) :: ·) <$>
            unescapeFrom fuel ((c :: cs).drop ds.length)
        | none => (['\\', c] ++ ·) <$> unescapeFrom fuel cs
  | fuel + 1, c :: cs => (c :: ·) <$> unescapeFrom fuel cs

/-- The text that a quoted text stands for.  Escapes are resolved after it
    has been written in ASCII. -/
def unescape (cs : List Char) : Except Malformed String :=
  let ascii := cs.flatMap asciiChar
  String.ofList <$> unescapeFrom ascii.length ascii

end CxxWriter.Template
