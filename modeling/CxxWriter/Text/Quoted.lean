/-
  Quoted text and bytes.

  A text is shown between apostrophes, or between double quotes if it holds an
  apostrophe and no double quote.  The mark itself, backslashes and characters
  that are not printable are escaped; bytes are escaped unless they are
  printable ASCII.
-/
import CxxWriter.Text.Printable

namespace CxxWriter.Text

/-- A digit below sixteen. -/
def hexDigit (n : Nat) : Char := Char.ofNat (if n < 10 then 48 + n else 87 + n)

/-- The last `width` hexadecimal digits of `n`. -/
def hexDigits : Nat → Nat → List Char
  | 0, _ => []
  | width + 1, n => hexDigits width (n / 16) ++ [hexDigit (n % 16)]

/-- The mark that a text is quoted with. -/
def quoteMark (cs : List Char) : Char :=
  if cs.contains '\'' && !cs.contains '"' then '"' else '\''

/-- A character between the quotes `mark`. -/
def quoteChar (mark c : Char) : List Char :=
  if c = mark ∨ c = '\\' then ['\\', c]
  else if c = '\t' then ['\\', 't']
  else if c = '\n' then ['\\', 'n']
  else if c = '\r' then ['\\', 'r']
  else if isPrintable c then [c]
  else if c.toNat < 0x100 then '\\' :: 'x' :: hexDigits 2 c.toNat
  else if c.toNat < 0x10000 then '\\' :: 'u' :: hexDigits 4 c.toNat
  else '\\' :: 'U' :: hexDigits 8 c.toNat

/-- A text with its quotes. -/
def quote (s : String) : String :=
  let cs := s.toList
  let mark := quoteMark cs
  String.ofList (mark :: cs.flatMap (quoteChar mark) ++ [mark])

/-- A byte between the quotes `mark`. -/
def quoteByte (mark : Char) (b : UInt8) : List Char :=
  let c := Char.ofNat b.toNat
  if b < 0x7f then quoteChar mark c else '\\' :: 'x' :: hexDigits 2 b.toNat

/-- Bytes with their quotes, after a `b`. -/
def quoteBytes (bytes : ByteArray) : String :=
  let l := bytes.data.toList
  let mark := quoteMark (l.map fun b => Char.ofNat b.toNat)
  String.ofList ('b' :: mark :: l.flatMap (quoteByte mark) ++ [mark])

end CxxWriter.Text
