/-
  Doubles with a fixed number of digits.

  A double is written with so many digits after the point, or with so many in
  all, either positionally or with an exponent.  The exact value is rounded, a
  half to the even digit.
-/
import CxxWriter.Number.FloatText

namespace CxxWriter.Double

/-- The double `m * 2 ^ e` as a ratio of naturals. -/
def ratio (m : Nat) (e : Int) : Nat × Nat := (m * twoTo e.toNat, twoTo (-e).toNat)

/-- `num / den * 10 ^ shift` rounded to a natural. -/
def scaledDiv (num den : Nat) (shift : Int) : Nat :=
  roundDiv (num * tenTo shift.toNat) (den * tenTo (-shift).toNat)

/-- Digits with a point before the last `places` of them, and zeros in front
    if there are too few.  `always` keeps a point that nothing follows. -/
def withPoint (always : Bool) (digits places : Nat) : String :=
  let ds := natText digits
  let ds := zeros (places + 1 - ds.length) ++ ds
  let whole := (ds.take (ds.length - places)).toString
  let fraction := (ds.drop (ds.length - places)).toString
  if fraction.isEmpty && !always then whole else whole ++ "." ++ fraction

/-- The positional text of `num / den` with `places` digits after the point. -/
def fixedText (always : Bool) (num den places : Nat) : String :=
  withPoint always (scaledDiv num den places) places

/-- The first `places + 1` digits of `num / den`, rounded, and the exponent of
    the first of them. -/
def leadingDigits (num den places : Nat) : Nat × Int :=
  if num = 0 then (0, 0)
  else
    let e := floorLogTen num den
    let n := scaledDiv num den (places - e)
    if tenTo (places + 1) ≤ n then (n / 10, e + 1) else (n, e)

/-- The text of `num / den` with an exponent and `places` digits after the
    point. -/
def scientificText (always : Bool) (num den places : Nat) : String :=
  let (n, e) := leadingDigits num den places
  withPoint always n places ++ exponentText e

/-- Drops the zeros at the end of a fraction, and a point that nothing
    follows. -/
def dropFractionZeros (s : String) : String :=
  if s.contains '.' then
    String.ofList ((s.toList.reverse.dropWhile (· == '0')).dropWhile (· == '.')).reverse
  else s

/-- The exponents from which numbers are written positionally. -/
def minGeneral : Int := -4

/-- The text of `num / den` with at most `count` digits in all. -/
def generalText (always : Bool) (num den count : Nat) : String :=
  let count := max count 1
  let (n, e) := leadingDigits num den (count - 1)
  let strip (s : String) := if always then s else dropFractionZeros s
  if minGeneral ≤ e ∧ e < count then strip (fixedText always num den (count - 1 - e).toNat)
  else strip (withPoint always n (count - 1)) ++ exponentText e

/-- A way to write doubles. -/
inductive Style where
  | fixed
  | scientific
  | general
deriving DecidableEq, Repr

/-- A double in a style. -/
def styledText (style : Style) (always : Bool) (places : Nat) (x : Float) : String :=
  match parts x with
  | .nan => "nan"
  | .infinite negative => if negative then "-inf" else "inf"
  | .finite negative m e =>
    let (num, den) := ratio m e
    (if negative then "-" else "") ++ (match style with
      | .fixed => fixedText always num den places
      | .scientific => scientificText always num den places
      | .general => generalText always num den places)

end CxxWriter.Double
