/-
  Errors of the library.

  Every error tells its cause; `message?` words it.  Some causes lie in the
  operations on values and files that a caller asked for; those are passed on
  without words.
-/
import CxxWriter.Fault
import CxxWriter.Files.Basic
import CxxWriter.Json.Reader
import CxxWriter.Template.Failure

namespace CxxWriter

/-- Why a document of settings or variables cannot be had from a file. -/
inductive DocumentFault where
  | missing
  /-- The name of the file does not end as it should. -/
  | wrongSuffix
  | malformed (f : Json.Fault) (line column position : Nat)
  | unreadable (e : FileError)
  | notObject
deriving DecidableEq, Repr

/-- Why settings cannot be had. -/
inductive ConfigFault where
  | document (path : Path) (fault : DocumentFault)
  /-- A setting of another kind than expected. -/
  | wrongKind (key expected : String) (value : Value)
  | unwritable (path : Path) (e : FileError)

/-- Why a command cannot be carried out. -/
inductive CommandFault where
  | templateMissing (path : Path)
  | guardWithoutOutput
  | badIndentation (text : String)
  | noIndentation (width : Int)
deriving DecidableEq, Repr

/-- An error. -/
inductive Error where
  /-- A value that is not a fragment where one is needed. -/
  | notFragment (value : Value)
  /-- A declaration without a name before a parenthesis. -/
  | noCall (declaration : String)
  | alreadyWritten
  | notOutermost
  | config (fault : ConfigFault)
  /-- A failure of a template; `none` for one that was given as text. -/
  | template (name : Option String) (failure : Template.Failure)
  | context (path : Path) (fault : DocumentFault)
  | sourceWrite (path : Path) (e : FileError)
  | command (fault : CommandFault)
  /-- An error that a caller raised. -/
  | user (message : String)
  | unknownHandle
  | value (fault : ValueFault)
  /-- A path that cannot even be looked up. -/
  | file (e : FileError)

namespace Error

/-- The record of a value that is not a fragment. -/
def rejection (v : Value) : String := "Rejected fragment of type " ++ v.kindName

/-- The error for a value that is not a fragment, which tells the text of the value. -/
def unfit (v : Value) : Error := if v.isWritable then .notFragment v else .value .badValue

def subjectText : Option String → String
  | some name => "template " ++ name
  | none => "template string"

/-- A fault of a document of settings. -/
def configMessage (path : Path) : DocumentFault → String
  | .missing => "Configuration file not found: " ++ path.toString
  | .wrongSuffix => "Configuration file must be JSON: " ++ path.toString
  | .malformed f l c p =>
    "Invalid JSON in configuration file " ++ path.toString ++ ": " ++ Json.placed f l c p
  | .unreadable e => "Failed to load configuration file " ++ path.toString ++ ": " ++ e.message
  | .notObject => "Configuration file must contain a JSON object: " ++ path.toString

/-- A fault of a document of variables. -/
def contextMessage (path : Path) : DocumentFault → String
  | .missing => "Context file not found: " ++ path.toString
  | .wrongSuffix => "Context file must be JSON: " ++ path.toString
  | .malformed f l c p => "Invalid JSON in file " ++ path.toString ++ ": " ++ Json.placed f l c p
  | .unreadable e => "Error reading file " ++ path.toString ++ ": " ++ e.message
  | .notObject => "Context file must contain a JSON object: " ++ path.toString

def commandMessage : CommandFault → String
  | .templateMissing path => "Template not found: " ++ path.toString
  | .guardWithoutOutput => "--auto-guard requires --output"
  | .badIndentation s =>
    "Invalid indentation unit: " ++ Text.quote s ++ " (use 'tab' or a number)"
  | .noIndentation n => "Indentation width must be positive: " ++ toString n

/-- The words for an error; an error of an operation that the caller asked for
    has none. -/
def message? : Error → Option String
  | .notFragment v =>
    some ("Expected a text fragment, got " ++ v.kindName ++ ": " ++ v.quoted)
  | .noCall s =>
    some ("Cannot find a function name followed by '(' in declaration: " ++ Text.quote s)
  | .alreadyWritten => some "Initializer has already been rendered"
  | .notOutermost => some "Nested initializers are rendered by their outermost initializer"
  | .config (.document path fault) => some (configMessage path fault)
  | .config (.wrongKind key expected v) =>
    some ("Configuration key " ++ Text.quote key ++ " must be " ++ expected ++ ", got " ++
      v.kindName ++ ": " ++ v.quoted)
  | .config (.unwritable path e) =>
    some ("Failed to save configuration to " ++ path.toString ++ ": " ++ e.message)
  | .template name failure =>
    failure.message?.map fun m => "Failed to render " ++ subjectText name ++ ": " ++ m
  | .context path fault => some (contextMessage path fault)
  | .sourceWrite path e => some ("Error writing file " ++ path.toString ++ ": " ++ e.message)
  | .command fault => some (commandMessage fault)
  | .user message => some message
  | .unknownHandle => none
  | .value _ => none
  | .file _ => none

/-- The error that a failure to render a template is to the caller: a failure
    in an operation on values is passed on as what it is. -/
def ofFailure (name : Option String) : Template.Failure → Error
  | .notFragment v => unfit v
  | .value fault => .value fault
  | .malformed .tooDeep => .value .tooDeep
  | failure => .template name failure

/-- Can a caller handle the error as one of the library or its own?  Errors of
    operations on values and files pass through. -/
def isOwn : Error → Bool
  | .unknownHandle | .value _ | .file _ => false
  | _ => true

end Error

end CxxWriter
