/-
  Powers of decimals.

  An integer power is a product whose factors are rounded to some digits more
  than a result has.  Any other power is `exp (y * ln x)`, computed to so many
  places that the result is the exact one, rounded; it has all digits that a
  result can have.
-/
import CxxWriter.Number.DecimalArithmetic

namespace CxxWriter.Decimal

open Double (digitCount)

/-! ## Fixed-point logarithms and exponentials

Numbers are counted in units: `unit` stands for one. -/

/-- The sum of `x, x³/3, x⁵/5, …` from the term with the odd denominator `k`
    on, where `term` is the power of `x = num / den`. -/
def artanhFrom (num den : Nat) : Nat → Nat → Nat → Nat
  | 0, _, _ => 0
  | fuel + 1, k, term =>
    if term = 0 then 0
    else term / k + artanhFrom num den fuel (k + 2) (term * num * num / (den * den))

/-- Half the logarithm of `(den + num) / (den - num)`, with no more terms than
    told. -/
def artanh (unit terms num den : Nat) : Nat := artanhFrom num den terms 1 (unit * num / den)

/-- The logarithm of two. -/
def logTwo (unit terms : Nat) : Nat := 2 * artanh unit terms 1 3

/-- The logarithm of ten, which is that of `2³ * 5 / 4`. -/
def logTen (unit terms : Nat) : Nat := 3 * logTwo unit terms + 2 * artanh unit terms 1 9

/-- The logarithm of a positive number.  Its coefficient is taken as a fraction
    below one and doubled until it is close to one. -/
def logOf (unit terms : Nat) (c : Nat) (e : Int) : Int :=
  let digits := digitCount c
  let one := tenTo digits
  let doublings := if 2 * one ≤ 3 * c then 0 else if 2 * one ≤ 6 * c then 1
    else if 2 * one ≤ 12 * c then 2 else 3
  let x := c * twoTo doublings
  let near : Int := if one ≤ x then 2 * artanh unit terms (x - one) (x + one)
    else -(2 * artanh unit terms (one - x) (x + one) : Nat)
  near - doublings * logTwo unit terms + (e + digits) * logTen unit terms

/-- The sum of `term, term * x / k, …`. -/
def expFrom (unit x : Nat) : Nat → Nat → Nat → Nat
  | 0, _, _ => 0
  | fuel + 1, k, term =>
    if term = 0 then 0 else term + expFrom unit x fuel (k + 1) (term * x / (unit * k))

/-- The exponential of a number, as a coefficient and an exponent. -/
def expOf (places terms : Nat) (x : Int) : Nat × Int :=
  let unit := tenTo places
  let ten : Int := logTen unit terms
  let n := x.fdiv ten
  (expFrom unit (x - n * ten).toNat terms 1 unit, n - places)

/-! ## Integer powers -/

/-- The integer that a finite decimal is, if it is one. -/
def integer? (c : Nat) (e : Int) : Option Nat :=
  if 0 ≤ e then some (c * tenTo e.toNat)
  else if digitCount c < (-e).toNat then none
  else
    let unit := tenTo (-e).toNat
    if c % unit = 0 then some (c / unit) else none

/-- The kind of an exponent: is it an integer, and is it odd then? -/
def parity? (c : Nat) (e : Int) : Option Bool :=
  if 0 < e then some false else (integer? c e).map (· % 2 == 1)

/-- A power of a number, with results rounded to a number of digits on the
    way.  The exponent bounds the number of rounds. -/
def powerFrom (digits c : Nat) (e : Int) : Nat → Nat → Nat × Int
  | 0, _ => (1, 0)
  | fuel + 1, n =>
    if n = 0 then (1, 0)
    else if n = 1 then (c, e)
    else
      let (d, f) := powerFrom digits c e fuel (n / 2)
      let (d, f) := roundTo digits (d * d) (f + f)
      if n % 2 = 1 then roundTo digits (d * c) (f + e) else (d, f)

/-- A positive number to a power other than zero: its inverse to the opposite
    one if that is negative. -/
def integerPower (c : Nat) (e : Int) (negative : Bool) (n size : Nat) : Nat × Int :=
  let digits := precision + size + (if negative then 3 else 2)
  let (c, e) :=
    if negative then
      let (q, low) := quotient digits 1 0 c e
      roundTo digits q low
    else (c, e)
  powerFrom digits c e (n.log2 + 1) n

/-- A positive number to a power that is no integer. -/
def anyPower (c : Nat) (e : Int) (negative : Bool) (d : Nat) (f : Int) : Nat × Int :=
  let places := 60 + (digitCount d + f).toNat
  let terms := 2 * places
  let log := logOf (tenTo places) terms c e
  let product := signed negative d * log * tenTo f.toNat
  expOf places terms (product.fdiv (tenTo (-f).toNat))

/-! ## Powers -/

/-- One with as many digits as a result can have. -/
def longOne : Decimal := .finite false (tenTo (precision - 1)) (-(precision - 1 : Nat))

/-- A power of one, whose exponent tells how many zeros it shows. -/
def powerOfOne (negative : Bool) (e : Int) (power : Option Int) : Decimal :=
  match power with
  | some k =>
    if k < 0 then .finite negative 1 0
    else
      let zeros := min (-e * k).toNat (precision - 1)
      .finite negative (tenTo zeros) (-zeros)
  | none => longOne

/-- An order of magnitude that the logarithm to base ten of a positive number
    other than one is not below. -/
def logOrder (c : Nat) (e : Int) : Int :=
  let top := digitCount c + e
  if top ≠ 1 ∧ top ≠ 0 then 0
  else
    let low := min e 0
    let x := c * tenTo (e - low).toNat
    let one := tenTo (-low).toNat
    digitCount (max x one - min x one) + low - 3

/-- Powers whose logarithms are of this order are out of range. -/
def rangeOrder : Int := 7

/-- A result that is beyond the largest or below the smallest one. -/
def outOfRange (negative large : Bool) : Except ValueFault Decimal :=
  if large then .error .decimalOverflow else .ok (.finite negative 0 minExponent)

/-- A positive finite number to a finite power other than zero. -/
def powFinite (negative : Bool) (c : Nat) (e : Int) (n : Bool) (d : Nat) (f : Int) :
    Except ValueFault Decimal :=
  match ExactReal.compareSizes c 0 e 1 0 0 with
  | .eq =>
    let power := match parity? d f with
      | some _ => some (signed n (if f ≤ 30 then (integer? d f).getD 0 else tenTo 30))
      | none => none
    .ok (powerOfOne negative e power)
  | order =>
    if rangeOrder ≤ logOrder c e + (digitCount d + f - 1) then
      outOfRange negative ((order == .gt) != n)
    else
      let (p, g) := match integer? d f with
        | some k => integerPower c e n k (digitCount d + f).toNat
        | none => anyPower c e n d f
      fit negative p g

def pow (a b : Decimal) : Except ValueFault Decimal :=
  match passOn? a b with
  | some r => r
  | none =>
    match a, b with
    | .finite m c e, .finite n d f =>
      let parity := parity? d f
      let negative := m && parity == some true
      if c = 0 then
        if d = 0 then .error .invalidDecimal
        else .ok (if n then .infinite negative else .finite negative 0 0)
      else if d = 0 then .ok (.finite false 1 0)
      else if m && parity.isNone then .error .invalidDecimal
      else powFinite negative c e n d f
    | .finite m c e, .infinite n =>
      if c = 0 then .ok (if n then .infinite false else .finite false 0 0)
      else if m then .error .invalidDecimal
      else match ExactReal.compareSizes c 0 e 1 0 0 with
        | .eq => .ok longOne
        | order => .ok (if (order == .gt) != n then .infinite false else .finite false 0 0)
    | .infinite m, .finite n d f =>
      let parity := parity? d f
      let negative := m && parity == some true
      if m && parity.isNone then .error .invalidDecimal
      else if d = 0 then .ok (.finite false 1 0)
      else .ok (if n then .finite negative 0 0 else .infinite negative)
    | .infinite m, .infinite n =>
      if m then .error .invalidDecimal
      else .ok (if n then .finite false 0 0 else .infinite false)
    | a, _ => .ok a

end CxxWriter.Decimal
