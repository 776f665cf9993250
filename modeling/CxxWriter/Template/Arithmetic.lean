/-
  Arithmetic on values.

  Integers, doubles and complex numbers mix; decimals mix with integers only.
  Texts and lists can be joined and repeated.  To compute with a value that is
  not there fails with what was looked for.
-/
import CxxWriter.Number.Complex
import CxxWriter.Number.DecimalPower
import CxxWriter.Template.Expr
import CxxWriter.Template.Outcome

namespace CxxWriter.Template

/-- The outcome of an operation on numbers. -/
def ofNumeric {α : Type} : Except ValueFault α → Outcome α
  | .ok a => return a
  | .error f => faulty f

/-- A complex number as a value. -/
def complexOf (z : Complex) : Value := .complex z.re z.im

/-! ## Numbers -/

/-- A number. -/
inductive Numeric where
  | int (n : Int)
  | float (x : Float)
  | complex (z : Complex)
  | decimal (d : Decimal)

def numeric? : Value → Option Numeric
  | .float x => some (.float x)
  | .notNumber none _ => some (.float (0.0 / 0.0))
  | .complex re im => some (.complex ⟨re, im⟩)
  | .decimal d | .notNumber (some d) _ => some (.decimal d)
  | v => v.int?.map .int

/-- An integer as a double. -/
def toDouble (n : Int) : Outcome Float :=
  match Double.ofInt? n with
  | some x => return x
  | none => faulty .overflow

/-- The quotient of two integers as a double. -/
def quotient (a b : Int) : Outcome Value :=
  let x := Double.ofSignedRatio (decide (a < 0) != decide (b < 0)) a.natAbs b.natAbs
  if x.isFinite then return .float x else faulty .overflow

/-- A power of doubles. -/
def doublePower (x y : Float) : Outcome Value := do
  match ← ofNumeric (Double.power x y) with
  | .inl r => doubleOf r
  | .inr z => return complexOf z

/-- The largest exponent of a power that is computed. -/
def maxPower : Nat := 16777216

/-- A power of an integer.  It grows with the exponent unless the integer is
    one, zero or minus one. -/
def intPower (a : Int) (n : Nat) : Outcome Value :=
  if a.natAbs ≤ 1 then return .int (if n = 0 then 1 else if n % 2 = 0 then a * a else a)
  else if maxPower < n then faulty .tooLarge
  else return .int (a.pow n)

/-- An operator on two integers; division rounds down. -/
def intOp (op : Operator) (a b : Int) : Outcome Value := do
  match op with
  | .add => return .int (a + b)
  | .sub => return .int (a - b)
  | .mul => return .int (a * b)
  | .div => if b = 0 then faulty .divisionByZero else quotient a b
  | .floorDiv => if b = 0 then faulty .divisionByZero else return .int (a.fdiv b)
  | .mod => if b = 0 then faulty .divisionByZero else return .int (a.fmod b)
  | .pow =>
    if 0 ≤ b then intPower a b.toNat
    else doublePower (← toDouble a) (← toDouble b)

/-- An operator on two doubles. -/
def doubleOp (op : Operator) (x y : Float) : Outcome Value :=
  match op with
  | .add => doubleOf (x + y)
  | .sub => doubleOf (x - y)
  | .mul => doubleOf (x * y)
  | .div => if y == 0.0 then faulty .divisionByZero else doubleOf (x / y)
  | .floorDiv => if y == 0.0 then faulty .divisionByZero else doubleOf (Double.floorDiv x y)
  | .mod => if y == 0.0 then faulty .divisionByZero else doubleOf (Double.floorRemainder x y).1
  | .pow => doublePower x y

/-- An operator on two complex numbers. -/
def complexOp (op : Operator) (a b : Complex) : Outcome Value := do
  match op with
  | .add => return complexOf (a.add b)
  | .sub => return complexOf (a.sub b)
  | .mul => return complexOf (a.mul b)
  | .div => return complexOf (← ofNumeric (a.div b))
  | .pow => return complexOf (← ofNumeric (a.pow b))
  | .floorDiv | .mod => faulty .wrongKind

/-- An operator on two decimals. -/
def decimalOp (op : Operator) (a b : Decimal) : Outcome Value := do
  decimalOf (← ofNumeric (match op with
    | .add => a.add b
    | .sub => a.sub b
    | .mul => a.mul b
    | .div => a.div b
    | .floorDiv => a.floorDiv b
    | .mod => a.mod b
    | .pow => a.pow b))

/-- An integer as a decimal. -/
def decimalOfInt (n : Int) : Decimal := .finite (n < 0) n.natAbs 0

/-- A number as a complex number. -/
def toComplex : Numeric → Outcome Complex
  | .int n => return .ofDouble (← toDouble n)
  | .float x => return .ofDouble x
  | .complex z => return z
  | .decimal _ => faulty .wrongKind

/-- An operator on two numbers. -/
def numericOp (op : Operator) (a b : Numeric) : Outcome Value := do
  match a, b with
  | .int m, .int n => intOp op m n
  | .int m, .float y => doubleOp op (← toDouble m) y
  | .float x, .int n => doubleOp op x (← toDouble n)
  | .float x, .float y => doubleOp op x y
  | .decimal a, .decimal b => decimalOp op a b
  | .decimal a, .int n => decimalOp op a (decimalOfInt n)
  | .int m, .decimal b => decimalOp op (decimalOfInt m) b
  | .decimal _, _ | _, .decimal _ => faulty .wrongKind
  | a, b =>
    match op with
    | .floorDiv | .mod => faulty .wrongKind
    | op =>
      let x ← toComplex a
      complexOp op x (← toComplex b)

/-! ## Sequences -/

/-- The largest number of items that there is room for. -/
def maxItems : Nat := 1000000000

/-- Is a value made of characters or bytes? -/
def isString : Value → Bool
  | .text _ | .bytes _ => true
  | _ => false

/-- Does a value consist of items that can be repeated? -/
def isSequence : Value → Bool
  | .text _ | .bytes _ | .list _ | .tuple _ => true
  | _ => false

/-- Copies of a sequence. -/
def repeated (v : Value) (count : Int) : Outcome Value := do
  if maxLength < count.natAbs then
    if count < 0 then
      if count.natAbs = maxLength + 1 then pure () else faulty .overflow
    else faulty .overflow
  let n := count.toNat
  let size := n * (← lengthOf v)
  if maxLength < size && isString v then faulty .overflow
  else if maxItems < size then faulty .tooLarge
  else
    match v with
    | .text s => return .text (String.join (List.replicate n s))
    | .bytes b => return .bytes ⟨(List.replicate n b.data.toList).flatten.toArray⟩
    | .list items => return .list (List.replicate n items).flatten
    | .tuple items => return .tuple (List.replicate n items).flatten
    | _ => faulty .wrongKind

/-- An operator on two values other than two numbers. -/
def sequenceOp (op : Operator) (a b : Value) : Outcome Value := do
  match op, a, b with
  | .add, .text s, .text t => return .text (s ++ t)
  | .add, .bytes s, .bytes t => return .bytes (s ++ t)
  | .add, .list xs, .list ys => return .list (xs ++ ys)
  | .add, .tuple xs, .tuple ys => return .tuple (xs ++ ys)
  | .mul, a, b =>
    match isSequence a, b.int?, isSequence b, a.int? with
    | true, some n, _, _ => repeated a n
    | false, _, true, some n => repeated b n
    | _, _, _, _ => faulty .wrongKind
  | _, _, _ => faulty .wrongKind

/-! ## Operators -/

/-- Fails if one of two values is not there. -/
def present (a b : Value) : Outcome Unit :=
  match a, b with
  | .absent why _, _ => notThere why
  | _, .absent why _ => notThere why
  | _, _ => return ()

/-- An operator on two values; `%` here is the remainder of a division. -/
def binaryOp (op : Operator) (a b : Value) : Outcome Value := do
  present a b
  match numeric? a, numeric? b with
  | some x, some y => numericOp op x y
  | _, _ => sequenceOp op a b

/-- A number with its sign changed. -/
def negated (v : Value) : Outcome Value := do
  match v, numeric? v with
  | .absent why _, _ => notThere why
  | _, some (.int n) => return .int (-n)
  | _, some (.float x) => doubleOf (-x)
  | _, some (.complex z) => return complexOf z.neg
  | _, some (.decimal d) => decimalOf (← ofNumeric d.minus)
  | _, none => faulty .wrongKind

/-- A number as it is. -/
def posited (v : Value) : Outcome Value := do
  match v, numeric? v with
  | .absent why _, _ => notThere why
  | _, some (.int n) => return .int n
  | v, some (.float _) => return v
  | v, some (.complex _) => return v
  | _, some (.decimal d) => decimalOf (← ofNumeric d.plus)
  | _, none => faulty .wrongKind

end CxxWriter.Template
