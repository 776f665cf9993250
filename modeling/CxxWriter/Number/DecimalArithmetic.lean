/-
  Arithmetic on decimals.

  A result has at most 28 digits; one with more is rounded, a half to the even
  digit.  Sums and products keep the exponents that their operands were
  written with as far as the digits allow.  An operation without a result, a
  division by zero, and a result beyond the largest exponent are faults.
-/
import CxxWriter.Fault
import CxxWriter.Number.Exact

namespace CxxWriter.Decimal

open Double (digitCount roundDiv)

/-- The number of digits of a result. -/
def precision : Nat := 28

/-- The largest exponent of the first digit of a result; the smallest is its
    opposite. -/
def maxExponent : Int := 999999

/-- The exponent of the last digit of the smallest results. -/
def minExponent : Int := -maxExponent - (precision - 1 : Nat)

/-- Divides a coefficient by a power of ten, a half going to the even one. -/
def shiftRight (c : Nat) (places : Nat) : Nat :=
  if digitCount c + 1 < places then 0 else roundDiv c (tenTo places)

/-- A number with its coefficient moved to another exponent. -/
def rescale (c : Nat) (e target : Int) : Nat :=
  if c = 0 then 0
  else if target ≤ e then c * tenTo (e - target).toNat
  else shiftRight c (target - e).toNat

/-- A number with at most `digits` digits. -/
def roundTo (digits : Nat) (c : Nat) (e : Int) : Nat × Int :=
  let extra := digitCount c - digits
  if extra = 0 then (c, e)
  else
    let r := shiftRight c extra
    if digits < digitCount r then (r / 10, e + extra + 1) else (r, e + extra)

/-- A result made to fit. -/
def fit (negative : Bool) (c : Nat) (e : Int) : Except ValueFault Decimal :=
  if c = 0 then .ok (.finite negative 0 (min (max e minExponent) maxExponent))
  else
    let (r, f) := roundTo precision c e
    if maxExponent < f + digitCount r - 1 then .error .decimalOverflow
    else if f < minExponent then .ok (.finite negative (rescale c e minExponent) minExponent)
    else .ok (.finite negative r f)

/-- A decimal made to fit; zero loses its sign. -/
def plus : Decimal → Except ValueFault Decimal
  | .finite negative c e => fit (negative && c != 0) c e
  | .infinite negative => .ok (.infinite negative)
  | .nan _ true _ => .error .invalidDecimal
  | d => .ok d

/-- A decimal with its sign changed. -/
def opposite : Decimal → Decimal
  | .finite negative c e => .finite (!negative) c e
  | .infinite negative => .infinite (!negative)
  | .nan negative signaling payload => .nan (!negative) signaling payload

/-- A decimal with its sign changed, made to fit. -/
def minus : Decimal → Except ValueFault Decimal
  | .nan negative signaling payload => plus (.nan negative signaling payload)
  | d => plus d.opposite

/-- The result of an operation on not-a-number: a signaling one is a fault,
    and else the first one is passed on. -/
def passOn? (a b : Decimal) : Option (Except ValueFault Decimal) :=
  match a, b with
  | .nan _ true _, _ | _, .nan _ true _ => some (.error .invalidDecimal)
  | .nan .., _ => some (.ok a)
  | _, .nan .. => some (.ok b)
  | _, _ => none

/-- A signed coefficient. -/
def signed (negative : Bool) (c : Nat) : Int := if negative then -(c : Int) else c

/-- If the second of two numbers is far below the first, a stand-in for it that
    rounds the same way. -/
def standIn (c : Nat) (e : Int) (d : Nat) (f : Int) : Nat × Int :=
  let top := digitCount c + e
  let low := min e (top - precision) - 3
  if digitCount d + f < low then (1, low) else (d, f)

/-- The sum of two finite decimals. -/
def addFinite (m : Bool) (c : Nat) (e : Int) (n : Bool) (d : Nat) (f : Int) :
    Except ValueFault Decimal :=
  if c = 0 ∧ d = 0 then fit (m && n) 0 (min e f)
  else if c = 0 then
    let target := max (min e f) (f - (precision + 1 : Nat))
    fit n (rescale d f target) (if d = 0 then target else min target f)
  else if d = 0 then
    let target := max (min e f) (e - (precision + 1 : Nat))
    fit m (rescale c e target) target
  else
    let (d, f) := standIn c e d f
    let (c, e) := standIn d f c e
    let low := min e f
    let sum := signed m (rescale c e low) + signed n (rescale d f low)
    fit (if sum = 0 then m && n else sum < 0) sum.natAbs low

def add (a b : Decimal) : Except ValueFault Decimal :=
  match passOn? a b with
  | some r => r
  | none =>
    match a, b with
    | .finite m c e, .finite n d f => addFinite m c e n d f
    | .infinite m, .infinite n => if m = n then .ok a else .error .invalidDecimal
    | .infinite _, _ => .ok a
    | _, b => .ok b

def sub (a b : Decimal) : Except ValueFault Decimal :=
  match passOn? a b with
  | some r => r
  | none => add a b.opposite

def mul (a b : Decimal) : Except ValueFault Decimal :=
  match passOn? a b with
  | some r => r
  | none =>
    match a, b with
    | .finite m c e, .finite n d f => fit (m != n) (c * d) (e + f)
    | .infinite m, .infinite n => .ok (.infinite (m != n))
    | .infinite m, .finite n d _ =>
      if d = 0 then .error .invalidDecimal else .ok (.infinite (m != n))
    | .finite m c _, .infinite n =>
      if c = 0 then .error .invalidDecimal else .ok (.infinite (m != n))
    | a, _ => .ok a

/-- Moves zeros at the end of a coefficient into its exponent, as long as it
    stays below `target`. -/
def dropZeros (target : Int) : Nat → Nat → Int → Nat × Int
  | 0, c, e => (c, e)
  | fuel + 1, c, e =>
    if e < target ∧ c % 10 = 0 then dropZeros target fuel (c / 10) (e + 1) else (c, e)

/-- A quotient of two numbers other than zero that rounds to `digits` digits as
    the exact one does. -/
def quotient (digits : Nat) (c : Nat) (e : Int) (d : Nat) (f : Int) : Nat × Int :=
  let shift : Int := digitCount d - digitCount c + (digits + 1 : Nat)
  let low := e - f - shift
  let num := c * tenTo shift.toNat
  let den := d * tenTo (-shift).toNat
  let q := num / den
  if num % den = 0 then dropZeros (e - f) (digitCount q) q low
  else (if q % 5 = 0 then q + 1 else q, low)

def div (a b : Decimal) : Except ValueFault Decimal :=
  match passOn? a b with
  | some r => r
  | none =>
    match a, b with
    | .finite m c e, .finite n d f =>
      if d = 0 then .error (if c = 0 then .invalidDecimal else .decimalDivisionByZero)
      else if c = 0 then fit (m != n) 0 (e - f)
      else
        let (q, low) := quotient precision c e d f
        fit (m != n) q low
    | .infinite _, .infinite _ => .error .invalidDecimal
    | .infinite m, .finite n _ _ => .ok (.infinite (m != n))
    | .finite m _ _, .infinite n => .ok (.finite (m != n) 0 minExponent)
    | a, _ => .ok a

/-- The quotient rounded towards zero and the remainder, of finite decimals
    the second of which is not zero. -/
def divideFinite (c : Nat) (e : Int) (d : Nat) (f : Int) :
    Except ValueFault (Nat × Nat × Int) :=
  let low := min e f
  let difference := (digitCount c + e) - (digitCount d + f)
  if c = 0 ∨ difference ≤ -2 then
    if low < e ∧ precision < digitCount c + (e - low).toNat then .ok (0, c, e)
    else .ok (0, rescale c e low, low)
  else if (precision : Int) < difference then .error .invalidDecimal
  else
    let num := rescale c e low
    let den := rescale d f low
    let q := num / den
    if tenTo precision ≤ q then .error .invalidDecimal else .ok (q, num % den, low)

/-- Division rounded towards zero. -/
def floorDiv (a b : Decimal) : Except ValueFault Decimal :=
  match passOn? a b with
  | some r => r
  | none =>
    match a, b with
    | .finite m c e, .finite n d f =>
      if d = 0 then .error (if c = 0 then .invalidDecimal else .decimalDivisionByZero)
      else do
        let (q, _) ← divideFinite c e d f
        return .finite (m != n) q 0
    | .infinite _, .infinite _ => .error .invalidDecimal
    | .infinite m, .finite n _ _ => .ok (.infinite (m != n))
    | .finite m _ _, .infinite n => .ok (.finite (m != n) 0 0)
    | a, _ => .ok a

/-- The remainder of the division rounded towards zero. -/
def mod (a b : Decimal) : Except ValueFault Decimal :=
  match passOn? a b with
  | some r => r
  | none =>
    match a, b with
    | .finite m c e, .finite _ d f =>
      if d = 0 then .error .invalidDecimal
      else do
        let (_, r, low) ← divideFinite c e d f
        fit m r low
    | .infinite _, _ => .error .invalidDecimal
    | .finite m c e, .infinite _ => fit m c e
    | a, _ => .ok a

end CxxWriter.Decimal
