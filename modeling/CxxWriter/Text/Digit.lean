/-
  Decimal digits and the reading of integers.

  Unicode has many sets of ten decimal digits; each is ten consecutive code
  points.  `readInt?` reads an integer written with digits of any of them.
-/
import CxxWriter.Text.Blank
import CxxWriter.Text.Printable

namespace CxxWriter.Text

/-- The zeros of the sets of decimal digits in Unicode 14. -/
def zeroDigits : Array Nat := #[
  0x30, 0x660, 0x6f0, 0x7c0, 0x966, 0x9e6, 0xa66, 0xae6, 0xb66, 0xbe6, 0xc66, 0xce6, 0xd66,
  0xde6, 0xe50, 0xed0, 0xf20, 0x1040, 0x1090, 0x17e0, 0x1810, 0x1946, 0x19d0, 0x1a80, 0x1a90,
  0x1b50, 0x1bb0, 0x1c40, 0x1c50, 0xa620, 0xa8d0, 0xa900, 0xa9d0, 0xa9f0, 0xaa50, 0xabf0,
  0xff10, 0x104a0, 0x10d30, 0x11066, 0x110f0, 0x11136, 0x111d0, 0x112f0, 0x11450, 0x114d0,
  0x11650, 0x116c0, 0x11730, 0x118e0, 0x11950, 0x11c50, 0x11d50, 0x11da0, 0x16a60, 0x16ac0,
  0x16b50, 0x1d7ce, 0x1d7d8, 0x1d7e2, 0x1d7ec, 0x1d7f6, 0x1e140, 0x1e2f0, 0x1e950, 0x1fbf0]

/-- The value of a decimal digit of any script. -/
def digitValue? (c : Char) : Option Nat :=
  (zeroDigits.find? fun z => z ≤ c.toNat && c.toNat ≤ z + 9).map (c.toNat - ·)

/-- Ranges of the characters of Unicode 14 that show a digit but are none, such
    as superscripts. -/
def digitSignRuns : Array (Nat × Nat) := #[
  (0xb2, 0xb3), (0xb9, 0xb9), (0x1369, 0x1371), (0x19da, 0x19da), (0x2070, 0x2070),
  (0x2074, 0x2079), (0x2080, 0x2089), (0x2460, 0x2468), (0x2474, 0x247c), (0x2488, 0x2490),
  (0x24ea, 0x24ea), (0x24f5, 0x24fd), (0x24ff, 0x24ff), (0x2776, 0x277e), (0x2780, 0x2788),
  (0x278a, 0x2792), (0x10a40, 0x10a43), (0x10e60, 0x10e68), (0x11052, 0x1105a),
  (0x1f100, 0x1f10a)]

/-- Does the character show a digit? -/
def showsDigit (c : Char) : Bool :=
  (digitValue? c).isSome || inRuns digitSignRuns c.toNat

/-- The value of digits in which single underscores may stand between two
    digits, `acc` being the value of those read so far.  `afterDigit` tells
    whether a digit came just before. -/
def readDigits? (acc : Nat) (afterDigit : Bool) : List Char → Option Nat
  | [] => if afterDigit then some acc else none
  | c :: cs =>
    if c = '_' then
      if afterDigit then readDigits? acc false cs else none
    else match digitValue? c with
      | some d => readDigits? (acc * 10 + d) true cs
      | none => none

/-- The largest number of digits of an integer that is read. -/
def maxDigits : Nat := 4300

/-- White space around an integer: of the ASCII characters the blank ones. -/
def isIntSpace (c : Char) : Bool := isBlank c || (0x80 ≤ c.toNat && isSpace c)

/-- Reads an integer: an optional sign and digits, with white space around
    it, as in `-1_000`. -/
def readInt? (s : String) : Option Int :=
  let body := trim isIntSpace s.toList
  let (negative, digits) := match body with
    | '-' :: r => (true, r)
    | '+' :: r => (false, r)
    | r => (false, r)
  if (digits.filter (· ≠ '_')).length > maxDigits then none
  else (readDigits? 0 false digits).map fun n => if negative then -(n : Int) else n

end CxxWriter.Text
