/-
  Operations that keep records and may fail.

  A `Reporting α` gives the records that were kept up to its end, whether it
  ends with a result or with an error.
-/
import CxxWriter.Declaration
import CxxWriter.Error
import CxxWriter.Fragment
import CxxWriter.Literal
import CxxWriter.Log

namespace CxxWriter

/-- An operation that keeps records and ends with a result or an error. -/
abbrev Reporting (α : Type) := ExceptT Error (StateM Log) α

namespace Reporting

/-- Keeps a record. -/
def record (level : Level) (component : Component) (message : String) : Reporting Unit :=
  modify fun (log : Log) => log ++ [⟨level, component, message⟩]

/-- Keeps a record of an error and ends with it. -/
def fail {α : Type} (component : Component) (message : String) (e : Error) : Reporting α := do
  record .error component message
  throw e

/-- Fails if a result is an error. -/
def ofExcept {α : Type} (f : ε → Error) : Except ε α → Reporting α
  | .ok a => return a
  | .error e => throw (f e)

/-- The outcome and the records of an operation. -/
def outcome {α : Type} (r : Reporting α) : Except Error α × Log := r.run.run []

/-- The records of a value that is not a fragment.  Numbers are let through, but
    may turn out to be too long to be written out. -/
def rejection (v : Value) : Log :=
  if v.isNumber then [] else [⟨.error, .buffer, Error.rejection v⟩]

/-- The source text of a value that has to be a fragment. -/
def fragment (v : Value) : Reporting String :=
  match v.fragment? with
  | some s => return s
  | none => do
    modify fun (log : Log) => log ++ rejection v
    throw (Error.unfit v)

/-- The text of a value that has to be a unit of indentation. -/
def unitText (v : Value) : Reporting String :=
  match v.asText? with
  | some s => return s
  | none => fail .buffer ("Rejected indent unit of type " ++ v.kindName) (Error.unfit v)

/-- Splits a value that has to be a declaration. -/
def declaration (v : Value) : Reporting Declaration := do
  let s ← fragment v
  match Declaration.split? s with
  | some d => return d
  | none => fail .declaration ("Malformed declaration: " ++ Text.quote s) (.noCall s)

/-- A value as a string literal. -/
def literal (v : Value) : Reporting String := Literal.ofString <$> fragment v

end Reporting

end CxxWriter
