/-
  Faults of operations on values.
-/

namespace CxxWriter

/-- Why an operation on values fails. -/
inductive ValueFault where
  /-- A value of a kind that does not have the operation. -/
  | wrongKind
  /-- A value that the operation is not defined for. -/
  | badValue
  | divisionByZero
  | overflow
  /-- Deeper nesting than can be followed. -/
  | tooDeep
  | notUtf8
  /-- A constant that is infinite or not a number. -/
  | notFinite
  /-- A template that cannot be written as a program. -/
  | badSyntax
  /-- A template whose statements nest deeper than those of a program can. -/
  | tooManyLevels
  /-- A dictionary without the key that is asked for. -/
  | noKey
  /-- A value without the attribute that is needed. -/
  | noAttribute
  /-- A name that the part of a template it stands in does not know. -/
  | unknownName
  /-- A result that is larger than memory. -/
  | tooLarge
  /-- An operation on decimals that has no result. -/
  | invalidDecimal
  | decimalDivisionByZero
  | decimalOverflow
deriving DecidableEq, Repr

end CxxWriter
