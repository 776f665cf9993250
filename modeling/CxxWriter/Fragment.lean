/-
  Fragments: values that can stand as source text.

  Texts and numbers are fragments; truth values are not numbers here.  A number
  that is too long to be written out has no source text.
-/
import CxxWriter.Value

namespace CxxWriter.Value

/-- The source text of a value, if the value can stand as source text. -/
def fragment? : Value → Option String
  | .text s => some s
  | .int n => if isShort n then some (toString n) else none
  | .float x => some (Double.toText x)
  | .decimal d => some d.toText
  | .notNumber none _ => some "nan"
  | .notNumber (some d) _ => some d.toText
  | _ => none

/-- Is the value a number? -/
def isNumber : Value → Bool
  | .int _ | .float _ | .decimal _ | .notNumber .. => true
  | _ => false

/-- Is the value a text?  Units of indentation have to be. -/
def asText? : Value → Option String
  | .text s => some s
  | _ => none

end CxxWriter.Value
