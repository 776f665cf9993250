/-
  Decimal numbers of any precision.

  A finite decimal keeps the exponent it was written with, so `1.0` and `1.00`
  differ.  `toText` writes it positionally as long as the exponent is not
  positive and at most six zeros follow the point, else with one digit before
  the point and an exponent.
-/
import CxxWriter.Number.FloatText

namespace CxxWriter

/-- A decimal number, an infinity, or not-a-number with a payload. -/
inductive Decimal where
  /-- The number `± coefficient * 10 ^ exponent`. -/
  | finite (negative : Bool) (coefficient : Nat) (exponent : Int)
  | infinite (negative : Bool)
  | nan (negative signaling : Bool) (payload : Option Nat)
deriving DecidableEq, Repr

namespace Decimal

/-- A signed exponent. -/
def exponentText (e : Int) : String :=
  if e < 0 then "E-" ++ toString e.natAbs else "E+" ++ toString e.natAbs

/-- The text of a coefficient and an exponent. -/
def finiteText (coefficient : Nat) (exponent : Int) : String :=
  let ds := toString coefficient
  let size : Int := ds.length
  let left := exponent + size
  let point := if exponent ≤ 0 ∧ -6 < left then left else 1
  let body :=
    if point ≤ 0 then "0." ++ Double.zeros (-point).toNat ++ ds
    else if size ≤ point then ds ++ Double.zeros (point - size).toNat
    else (ds.take point.toNat).toString ++ "." ++ (ds.drop point.toNat).toString
  if left = point then body else body ++ exponentText (left - point)

/-- The text of a decimal. -/
def toText : Decimal → String
  | .finite negative c e => (if negative then "-" else "") ++ finiteText c e
  | .infinite negative => (if negative then "-" else "") ++ "Infinity"
  | .nan negative signaling payload =>
    (if negative then "-" else "") ++ (if signaling then "sNaN" else "NaN") ++
      (match payload with
        | some n => toString n
        | none => "")

/-- The payload after the word for not-a-number. -/
def readPayload? (negative signaling : Bool) (cs : List Char) : Option Decimal :=
  if cs.isEmpty then some (.nan negative signaling none)
  else
    let (n, _, rest) := Double.takeDigits cs
    if rest.isEmpty then some (.nan negative signaling (if n = 0 then none else some n)) else none

/-- Reads digits with an optional fraction and exponent. -/
def readFinite? (negative : Bool) (cs : List Char) : Option Decimal :=
  let (whole, wholeCount, rest) := Double.takeDigits cs
  let (fraction, fractionCount, rest) := match rest with
    | '.' :: r => Double.takeDigits r
    | r => (0, 0, r)
  let (exponent, rest) := (Double.takeExponent? rest).getD (0, rest)
  if wholeCount + fractionCount = 0 ∨ !rest.isEmpty then none
  else some (.finite negative (whole * tenTo fractionCount + fraction) (exponent - fractionCount))

/-- Reads a decimal; the words are read in any case. -/
def read? (s : String) : Option Decimal :=
  let (negative, body) := match s.toList with
    | '-' :: r => (true, r)
    | '+' :: r => (false, r)
    | r => (false, r)
  match body.map Char.toLower with
  | 'n' :: 'a' :: 'n' :: r => readPayload? negative false r
  | 's' :: 'n' :: 'a' :: 'n' :: r => readPayload? negative true r
  | word =>
    if word = "inf".toList ∨ word = "infinity".toList then some (.infinite negative)
    else readFinite? negative word

end Decimal

end CxxWriter
