/-
  Doubles as text.

  `Double.toText` writes the shortest digits that read back, positionally from
  `0.0001` to below `10 ^ 16` and else with an exponent of at least two digits.
  `Double.readFloat?` reads a decimal number, `inf` and `nan`.
-/
import CxxWriter.Number.Shortest

namespace CxxWriter.Double

/-- Decimal digits of a natural. -/
def natText (n : Nat) : String := toString n

/-- `count` zeros. -/
def zeros (count : Nat) : String := String.ofList (List.replicate count '0')

/-- Where the decimal point stands in positional notation: after this many
    digits, from the smallest to the largest position allowed. -/
def minPoint : Int := -3
def maxPoint : Int := 16

/-- An exponent with its sign and at least two digits. -/
def exponentText (e : Int) : String :=
  let digits := natText e.natAbs
  (if e < 0 then "e-" else "e+") ++ (if digits.length < 2 then "0" ++ digits else digits)

/-- The text of a positive decimal. -/
def digitsText (d : Digits) : String :=
  let ds := natText d.digits
  let point : Int := ds.length + d.exponent
  if minPoint ≤ point ∧ point ≤ maxPoint then
    if point ≤ 0 then "0." ++ zeros (-point).toNat ++ ds
    else if point < ds.length then
      (ds.take point.toNat).toString ++ "." ++ (ds.drop point.toNat).toString
    else ds ++ zeros (point - ds.length).toNat ++ ".0"
  else
    let fraction := (ds.drop 1).toString
    (ds.take 1).toString ++ (if fraction.isEmpty then "" else "." ++ fraction) ++
      exponentText (point - 1)

/-- The text of a double. -/
def toText (x : Float) : String :=
  match parts x with
  | .nan => "nan"
  | .infinite negative => if negative then "-inf" else "inf"
  | .finite negative m q =>
    (if negative then "-" else "") ++ (if m = 0 then "0.0" else digitsText (shortest m q))

/-- Is the sign of a double a minus?  Not-a-number has none. -/
def isNegative (x : Float) : Bool :=
  match parts x with
  | .nan => false
  | .infinite negative => negative
  | .finite negative _ _ => negative

/-- The text of a double, a whole number without its fraction. -/
def toShortText (x : Float) : String :=
  let s := toText x
  if s.endsWith ".0" then (s.dropEnd 2).toString else s

/-! ## Reading -/

/-- The value of a run of ASCII digits at the front, with its length, and the
    rest. -/
def takeDigits (cs : List Char) : Nat × Nat × List Char :=
  let ds := cs.takeWhile Char.isDigit
  (ds.foldl (fun n c => n * 10 + (c.toNat - 48)) 0, ds.length, cs.dropWhile Char.isDigit)

/-- An exponent such as `e-5` at the front; `none` if there is none. -/
def takeExponent? : List Char → Option (Int × List Char)
  | e :: cs =>
    if e = 'e' ∨ e = 'E' then
      let (negative, cs) := match cs with
        | '-' :: r => (true, r)
        | '+' :: r => (false, r)
        | r => (false, r)
      let (n, count, rest) := takeDigits cs
      if count = 0 then none else some (if negative then -(n : Int) else n, rest)
    else none
  | [] => none

/-- Reads digits with an optional fraction and exponent. -/
def readUnsigned? (negative : Bool) (cs : List Char) : Option Float :=
  let (whole, wholeCount, rest) := takeDigits cs
  let (fraction, fractionCount, rest) := match rest with
    | '.' :: r => takeDigits r
    | r => (0, 0, r)
  let (exponent, rest) := (takeExponent? rest).getD (0, rest)
  if wholeCount + fractionCount = 0 ∨ !rest.isEmpty then none
  else some (ofDecimal negative (whole * tenTo fractionCount + fraction) (exponent - fractionCount))

/-- Reads a double. -/
def readFloat? (s : String) : Option Float :=
  let (negative, body) := match s.toList with
    | '-' :: r => (true, r)
    | '+' :: r => (false, r)
    | r => (false, r)
  if body = "inf".toList then some (if negative then -infinity else infinity)
  else if body = "nan".toList then some (0.0 / 0.0)
  else readUnsigned? negative body

end CxxWriter.Double
