/-
  Exact comparison of numbers of different kinds.

  Integers, doubles and decimals stand for real numbers or infinities.  They
  are compared as such: nothing is rounded.
-/
import CxxWriter.Number.Decimal

namespace CxxWriter

/-- A real number `± coefficient * 2 ^ two * 10 ^ ten`, or an infinity. -/
inductive ExactReal where
  | finite (negative : Bool) (coefficient : Nat) (two ten : Int)
  | infinite (negative : Bool)
deriving DecidableEq, Repr

namespace ExactReal

def ofInt (n : Int) : ExactReal := .finite (n < 0) n.natAbs 0 0

/-- What a double stands for, unless it is not a number. -/
def ofDouble? (x : Float) : Option ExactReal :=
  match Double.parts x with
  | .nan => none
  | .infinite negative => some (.infinite negative)
  | .finite negative m e => some (.finite negative m e 0)

/-- What a decimal stands for, unless it is not a number. -/
def ofDecimal? : Decimal → Option ExactReal
  | .finite negative c e => some (.finite negative c 0 e)
  | .infinite negative => some (.infinite negative)
  | .nan .. => none

/-- The exponent `e` with `10 ^ e ≤ c * 2 ^ two * 10 ^ ten < 10 ^ (e + 1)`,
    for a positive `c`. -/
def magnitude (c : Nat) (two ten : Int) : Int :=
  if two = 0 then Double.digitCount c + ten - 1
  else if 0 < two then Double.digitCount (c * twoTo two.toNat) + ten - 1
  else Double.floorLogTen c (twoTo (-two).toNat) + ten

/-- Compares two positive numbers.  Powers are expanded only if the numbers
    are of one magnitude, so that they are small. -/
def compareSizes (c : Nat) (two ten : Int) (d : Nat) (two' ten' : Int) : Ordering :=
  match compare (magnitude c two ten) (magnitude d two' ten') with
  | .eq =>
    let two := two - two'
    let ten := ten - ten'
    compare (c * twoTo two.toNat * tenTo ten.toNat)
      (d * twoTo (-two).toNat * tenTo (-ten).toNat)
  | o => o

/-- The sign of a number. -/
def sign : ExactReal → Int
  | .finite negative c _ _ => if c = 0 then 0 else if negative then -1 else 1
  | .infinite negative => if negative then -1 else 1

/-- Compares two numbers. -/
def order (x y : ExactReal) : Ordering :=
  match compare x.sign y.sign with
  | .eq =>
    match x, y with
    | .finite negative c two ten, .finite _ d two' ten' =>
      if c = 0 ∨ d = 0 then .eq
      else
        let o := compareSizes c two ten d two' ten'
        if negative then o.swap else o
    | .finite negative .., .infinite _ => if negative then .gt else .lt
    | .infinite negative, .finite .. => if negative then .lt else .gt
    | .infinite _, .infinite _ => .eq
  | o => o

end ExactReal

end CxxWriter
