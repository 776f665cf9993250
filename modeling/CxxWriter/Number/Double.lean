/-
  Double precision numbers and exact ratios.

  A finite double is an integer times a power of two.  `parts` takes a double
  apart, `ofRatio` gives the double nearest to a ratio of naturals, a tie going
  to the even significand.
-/
import CxxWriter.Number.Power

namespace CxxWriter.Double

/-- What a double stands for. -/
inductive Parts where
  | nan
  | infinite (negative : Bool)
  /-- The number `± significand * 2 ^ exponent`. -/
  | finite (negative : Bool) (significand : Nat) (exponent : Int)

/-- The significands of normal doubles start here. -/
def hidden : Nat := twoTo 52

/-- The exponent of the smallest doubles. -/
def minExponent : Int := -1074

/-- Takes a double apart. -/
def parts (x : Float) : Parts :=
  let bits := x.toBits.toNat
  let negative := bits / twoTo 63 == 1
  let field := bits / hidden % 2048
  let fraction := bits % hidden
  if field = 2047 then
    if fraction = 0 then .infinite negative else .nan
  else if field = 0 then .finite negative fraction minExponent
  else .finite negative (hidden + fraction) (minExponent + (field - 1 : Nat))

/-- The quotient rounded to the nearest natural, a tie to the even one. -/
def roundDiv (num den : Nat) : Nat :=
  let q := num / den
  let r := num % den
  if 2 * r < den then q else if den < 2 * r then q + 1 else q + q % 2

/-- `num / den * 2 ^ (-e)` as a ratio of naturals. -/
def scaleTwo (num den : Nat) (e : Int) : Nat × Nat :=
  if 0 ≤ e then (num, den * twoTo e.toNat) else (num * twoTo (-e).toNat, den)

/-- The exponent `e` with `2 ^ e ≤ num / den < 2 ^ (e + 1)`, for positive
    naturals. -/
def floorLogTwo (num den : Nat) : Int :=
  let e : Int := num.log2 - den.log2
  let (a, b) := scaleTwo num den e
  if b ≤ a then e else e - 1

/-- Positive infinity. -/
def infinity : Float := Float.ofBits 0x7ff0000000000000

/-- The double nearest to `num / den`; infinity beyond the largest. -/
def ofRatio (num den : Nat) : Float :=
  if num = 0 then 0.0
  else
    let q := max (floorLogTwo num den - 52) minExponent
    let (a, b) := scaleTwo num den q
    let bits := (q - minExponent).toNat * hidden + roundDiv a b
    if bits < 2047 * hidden then Float.ofBits (UInt64.ofNat bits) else infinity

/-- The double nearest to `± num / den`. -/
def ofSignedRatio (negative : Bool) (num den : Nat) : Float :=
  if negative then -(ofRatio num den) else ofRatio num den

/-- The double nearest to an integer, if it is finite. -/
def ofInt? (n : Int) : Option Float :=
  let x := ofSignedRatio (n < 0) n.natAbs 1
  if x.isFinite then some x else none

/-- How many decimal digits a natural has; zero has none. -/
def digitCount (n : Nat) : Nat :=
  if n = 0 then 0 else digitCount (n / 10) + 1

/-- The double nearest to `± digits * 10 ^ exponent`.  Exponents that lead far
    out of range are not expanded. -/
def ofDecimal (negative : Bool) (digits : Nat) (exponent : Int) : Float :=
  let top := digitCount digits + exponent
  if digits = 0 ∨ top < -330 then ofSignedRatio negative 0 1
  else if 330 < top then (if negative then -infinity else infinity)
  else if 0 ≤ exponent then ofSignedRatio negative (digits * tenTo exponent.toNat) 1
  else ofSignedRatio negative digits (tenTo (-exponent).toNat)

/-! ## Remainders -/

/-- The remainder of the magnitudes of two finite doubles, exactly: both are
    integers at the smaller of the two exponents. -/
def remainderRatio (a : Nat) (d : Int) (b : Nat) (e : Int) : Nat × Int :=
  let low := min d e
  ((a * twoTo (d - low).toNat) % (b * twoTo (e - low).toNat), low)

/-- `x` less the multiple of `y` that leaves the smallest remainder with the
    sign of `x`; for finite `x` and finite `y` other than zero. -/
def truncRemainder (x y : Float) : Float :=
  match parts x, parts y with
  | .finite negative a d, .finite _ b e =>
    let (r, low) := remainderRatio a d b e
    if 0 ≤ low then ofSignedRatio negative (r * twoTo low.toNat) 1
    else ofSignedRatio negative r (twoTo (-low).toNat)
  | .finite .., .infinite _ => x
  | _, _ => 0.0 / 0.0

/-- The remainder that has the sign of `y`, and the quotient it leaves before
    it is rounded. -/
def floorRemainder (x y : Float) : Float × Float :=
  let m := truncRemainder x y
  let q := (x - m) / y
  if m == 0.0 then (if y < 0.0 then -0.0 else 0.0, q)
  else if (y < 0.0) != (m < 0.0) then (m + y, q - 1.0)
  else (m, q)

/-- Division rounded down to a whole number. -/
def floorDiv (x y : Float) : Float :=
  let q := (floorRemainder x y).2
  if q == 0.0 then (if (x / y).toBits.toNat / twoTo 63 == 1 then -0.0 else 0.0)
  else
    let f := q.floor
    if q - f > 0.5 then f + 1.0 else f

end CxxWriter.Double
