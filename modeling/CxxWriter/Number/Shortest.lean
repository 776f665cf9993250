/-
  The shortest decimal that reads back as a given double.

  All reals nearer to a double than to its neighbours, and the end points if
  its significand is even, read back as it.  `shortest` takes the coarsest
  decimal grid that has a point in this interval and of its points the nearest
  one, a tie going to the even digit.
-/
import CxxWriter.Number.Double

namespace CxxWriter.Double

/-- A decimal number `digits * 10 ^ exponent`. -/
structure Digits where
  digits : Nat
  exponent : Int

/-- Moves trailing zeros of the digits into the exponent. -/
def Digits.normalize (fuel : Nat) (d : Digits) : Digits :=
  match fuel with
  | 0 => d
  | fuel + 1 =>
    if d.digits % 10 = 0 then Digits.normalize fuel ⟨d.digits / 10, d.exponent + 1⟩ else d

/-- The interval of the reals that read back as `value / den`, as numerators
    over `den`. -/
structure Interval where
  low : Nat
  value : Nat
  high : Nat
  den : Nat
  /-- Do the end points belong to it? -/
  closed : Bool

/-- The interval of the double `m * 2 ^ q`.  The gap below a power of two is
    half the gap above it, unless the double is one of the smallest. -/
def interval (m : Nat) (q : Int) : Interval :=
  let low := if m = hidden ∧ minExponent < q then 4 * m - 1 else 4 * m - 2
  let e := q - 2
  let up := twoTo e.toNat
  { low := low * up, value := 4 * m * up, high := (4 * m + 2) * up,
    den := twoTo (-e).toNat, closed := m % 2 = 0 }

/-- The exponent `e` with `10 ^ e ≤ num / den < 10 ^ (e + 1)`, for positive
    naturals. -/
def floorLogTen (num den : Nat) : Int :=
  if den ≤ num then digitCount (num / den) - 1
  else -(digitCount ((den + num - 1) / num - 1) : Int)

/-- Does `n * 10 ^ g`, scaled to numerators over `unit`, lie in the interval
    scaled by `s`? -/
def Interval.holds (i : Interval) (s unit n : Nat) : Bool :=
  if i.closed then i.low * s ≤ n * unit && n * unit ≤ i.high * s
  else i.low * s < n * unit && n * unit < i.high * s

/-- The point of the grid `10 ^ g` that reads back and is nearest to the
    value, if a point of this grid reads back. -/
def Interval.onGrid? (i : Interval) (g : Int) : Option Nat :=
  let s := tenTo (-g).toNat
  let unit := i.den * tenTo g.toNat
  let n := i.value * s / unit
  let below := i.holds s unit n && n != 0
  let above := i.holds s unit (n + 1)
  let r := i.value * s % unit
  if below && above then
    if 2 * r < unit then some n else if unit < 2 * r then some (n + 1) else some (n + n % 2)
  else if below then some n
  else if above then some (n + 1)
  else none

/-- The first grid below `10 ^ g` with a point that reads back, looked for in
    `count` grids. -/
def Interval.search (i : Interval) : Nat → Int → Digits
  | 0, g => ⟨i.value * tenTo (-g).toNat / (i.den * tenTo g.toNat), g⟩
  | count + 1, g =>
    match i.onGrid? g with
    | some n => ⟨n, g⟩
    | none => i.search count (g - 1)

/-- The shortest decimal that reads back as the double `m * 2 ^ q`, for a
    positive `m`.  Seventeen digits always do. -/
def shortest (m : Nat) (q : Int) : Digits :=
  let i := interval m q
  (i.search 17 (floorLogTen i.value i.den)).normalize 20

end CxxWriter.Double
