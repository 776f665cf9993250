/-
  Arithmetic on complex numbers and powers of doubles.

  A complex number is a pair of doubles.  A power of a negative double with an
  exponent that is no whole number is complex.
-/
import CxxWriter.Fault
import CxxWriter.Number.FloatText

namespace CxxWriter

/-- A complex number. -/
structure Complex where
  re : Float
  im : Float

namespace Complex

def ofDouble (x : Float) : Complex := ⟨x, 0.0⟩

def one : Complex := ⟨1.0, 0.0⟩

def add (a b : Complex) : Complex := ⟨a.re + b.re, a.im + b.im⟩

def sub (a b : Complex) : Complex := ⟨a.re - b.re, a.im - b.im⟩

def mul (a b : Complex) : Complex := ⟨a.re * b.re - a.im * b.im, a.re * b.im + a.im * b.re⟩

def neg (a : Complex) : Complex := ⟨-a.re, -a.im⟩

/-- The quotient, by a divisor scaled by its larger part. -/
def div (a b : Complex) : Except ValueFault Complex :=
  if b.im.abs ≤ b.re.abs then
    if b.re == 0.0 then .error .divisionByZero
    else
      let ratio := b.im / b.re
      let den := b.re + b.im * ratio
      .ok ⟨(a.re + a.im * ratio) / den, (a.im - a.re * ratio) / den⟩
  else if b.re.abs ≤ b.im.abs then
    let ratio := b.re / b.im
    let den := b.re * ratio + b.im
    .ok ⟨(a.re * ratio + a.im) / den, (a.im * ratio - a.re) / den⟩
  else .ok ⟨0.0 / 0.0, 0.0 / 0.0⟩

/-- A power with a natural exponent by squaring.  `fuel` bounds the number of
    binary digits of the exponent. -/
def powNat : Nat → Complex → Nat → Complex → Complex
  | 0, _, _, acc => acc
  | fuel + 1, p, n, acc =>
    if n = 0 then acc
    else powNat fuel (mul p p) (n / 2) (if n % 2 = 1 then mul acc p else acc)

/-- The distance from zero. -/
def abs (a : Complex) : Float :=
  let x := max a.re.abs a.im.abs
  let y := min a.re.abs a.im.abs
  if y == 0.0 then x
  else
    let r := y / x
    x * Float.sqrt (1.0 + r * r)

/-- A power by logarithms of a base other than zero. -/
def powPolar (a b : Complex) : Complex :=
  let size := a.abs
  let angle := Float.atan2 a.im a.re
  let length := Float.pow size b.re
  let phase := angle * b.re
  let (length, phase) :=
    if b.im != 0.0 then (length / Float.exp (angle * b.im), phase + b.im * Float.log size)
    else (length, phase)
  ⟨length * Float.cos phase, length * Float.sin phase⟩

/-- The whole number that a double is, if it is a small one. -/
def whole? (x : Float) : Option Int :=
  if x == x.floor && x.abs ≤ 100.0 then some x.toInt64.toInt else none

/-- A power. -/
def pow (a b : Complex) : Except ValueFault Complex := do
  let r ← match (if b.im == 0.0 then whole? b.re else none) with
    | some (.ofNat (n + 1)) => pure (powNat 8 a (n + 1) one)
    | some n => div one (powNat 8 a n.natAbs one)
    | none =>
      if b.re == 0.0 && b.im == 0.0 then pure one
      else if a.re == 0.0 && a.im == 0.0 then
        if b.im != 0.0 || b.re < 0.0 then throw .divisionByZero else pure ⟨0.0, 0.0⟩
      else pure (powPolar a b)
  if r.re.isInf || r.im.isInf then throw .overflow
  return r

end Complex

namespace Double

/-- Is a double an odd whole number? -/
def isOdd (x : Float) : Bool :=
  match parts x with
  | .finite _ m e =>
    if 0 ≤ e then e == 0 && m % 2 == 1
    else m % twoTo (-e).toNat == 0 && m / twoTo (-e).toNat % 2 == 1
  | _ => false

/-- A power of doubles, which may be complex. -/
def power (x y : Float) : Except ValueFault (Float ⊕ Complex) :=
  if y == 0.0 then .ok (.inl 1.0)
  else if x.isNaN then .ok (.inl x)
  else if y.isNaN then .ok (.inl (if x == 1.0 then 1.0 else y))
  else if y.isInf then
    if x.abs == 1.0 then .ok (.inl 1.0)
    else .ok (.inl (if (y > 0.0) == (x.abs > 1.0) then y.abs else 0.0))
  else if x.isInf then
    if y > 0.0 then .ok (.inl (if isOdd y then x else x.abs))
    else .ok (.inl (if isOdd y && x < 0.0 then -0.0 else 0.0))
  else if x == 0.0 then
    if y < 0.0 then .error .divisionByZero else .ok (.inl (if isOdd y then x else 0.0))
  else if x < 0.0 && y != y.floor then .inr <$> Complex.pow ⟨x, 0.0⟩ ⟨y, 0.0⟩
  else
    let negative := x < 0.0 && isOdd y
    let r := if x.abs == 1.0 then 1.0 else Float.pow x.abs y
    if r.isInf then .error .overflow else .ok (.inl (if negative then -r else r))

end Double

end CxxWriter
