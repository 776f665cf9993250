/-
  Tokens of a template.

  Outside of tags a template is text; inside of them it consists of names,
  literals and symbols.  A `Lexeme` is a token or the fault that is found in
  its place, with its line: faults count only once a reader comes to them.
-/
import CxxWriter.Template.Failure

namespace CxxWriter.Template

/-- A token. -/
inductive Token where
  /-- Text outside of tags. -/
  | data (s : String)
  | openPrint
  | closePrint
  | openTag
  | closeTag
  | name (s : String)
  | text (s : String)
  | integer (n : Nat)
  | float (x : Float)
  | symbol (s : String)
  | finish

namespace Token

/-- What messages call a token. -/
def description : Token → String
  | .data _ => "template data / text"
  | .openPrint => "begin of print statement"
  | .closePrint => "end of print statement"
  | .openTag => "begin of statement block"
  | .closeTag => "end of statement block"
  | .name s => s
  | .text _ => "string"
  | .integer _ => "integer"
  | .float _ => "float"
  | .symbol s => s
  | .finish => "end of template"

def isName (word : String) : Token → Bool
  | .name s => s == word
  | _ => false

def isSymbol (spelling : String) : Token → Bool
  | .symbol s => s == spelling
  | _ => false

end Token

/-- A token, or the fault in its place. -/
structure Lexeme where
  /-- The line that it starts in. -/
  line : Nat
  found : Except Failure Token

end CxxWriter.Template
