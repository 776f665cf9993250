/-
  Why a template cannot be read or rendered.

  `Malformed` holds the faults of the text of a template, `Failure` those and
  the ones that show only when it is rendered.  Some failures are about the
  template; the others arise in an operation on values and are passed on to
  the caller as they are.
-/
import CxxWriter.Fault
import CxxWriter.Value

namespace CxxWriter.Template

/-- A fault of the text of a template.  Tokens are given by their
    descriptions. -/
inductive Malformed where
  | unexpectedChar (c : Char) (position : Nat)
  | unclosedComment
  | unclosedRaw
  | unexpectedBracket (found : Char)
  | mismatchedBracket (found expected : Char)
  | badIdentifier
  | badEscape (why : String)
  | expectedToken (expected found : String)
  | unexpectedEnd (expected : String)
  | expectedExpression (found : String)
  | unexpectedToken (found : String)
  | expectedTagName
  /-- A tag that is unknown, or not allowed here. -/
  | unknownTag (name : String) (awaited : List String) (mistaken : Bool) (innermost : Option String)
  /-- The end of the template inside a tag that has to be closed. -/
  | unclosedTag (awaited : List String) (innermost : Option String)
  | notAssignable (kind : String)
  | expectedMember
  | badCall
  | chainedTests
  | hyphenInBlockName
  /-- A block that has to be replaced, but is not empty. -/
  | filledBlock
  | unknownFilter (name : String)
  | unknownTest (name : String)
  | blockTwice (name : String)
  | nestedExtends
  | loopAssigned
  /-- Deeper nesting than the reader follows. -/
  | tooDeep
deriving DecidableEq, Repr

/-- Tags joined for a message. -/
def awaitedText (tags : List String) : String :=
  String.intercalate " or " (tags.map Text.quote)

/-- The sentence about the tag that has to be closed. -/
def innermostText : Option String → String
  | some tag => " The innermost block that needs to be closed is " ++ Text.quote tag ++ "."
  | none => ""

namespace Malformed

def message : Malformed → String
  | .unexpectedChar c position =>
    "unexpected char " ++ Text.quote (String.singleton c) ++ " at " ++ toString position
  | .unclosedComment => "Missing end of comment tag"
  | .unclosedRaw => "Missing end of raw directive"
  | .unexpectedBracket c => "unexpected '" ++ String.singleton c ++ "'"
  | .mismatchedBracket c e =>
    "unexpected '" ++ String.singleton c ++ "', expected '" ++ String.singleton e ++ "'"
  | .badIdentifier => "Invalid character in identifier"
  | .badEscape why => why
  | .expectedToken expected found =>
    "expected token " ++ Text.quote expected ++ ", got " ++ Text.quote found
  | .unexpectedEnd expected =>
    "unexpected end of template, expected " ++ Text.quote expected ++ "."
  | .expectedExpression found => "Expected an expression, got " ++ Text.quote found
  | .unexpectedToken found => "unexpected " ++ Text.quote found
  | .expectedTagName => "tag name expected"
  | .unknownTag name awaited mistaken innermost =>
    "Encountered unknown tag " ++ Text.quote name ++ "." ++
      (if awaited.isEmpty then ""
       else if mistaken then
        " You probably made a nesting mistake. Jinja is expecting this tag, but currently " ++
          "looking for " ++ awaitedText awaited ++ "."
       else " Jinja was looking for the following tags: " ++ awaitedText awaited ++ ".") ++
      innermostText innermost
  | .unclosedTag awaited innermost =>
    "Unexpected end of template." ++
      (if awaited.isEmpty then ""
       else " Jinja was looking for the following tags: " ++ awaitedText awaited ++ ".") ++
      innermostText innermost
  | .notAssignable kind => "can't assign to " ++ Text.quote kind
  | .expectedMember => "expected name or number"
  | .badCall => "invalid syntax for function call expression"
  | .chainedTests => "You cannot chain multiple tests with is"
  | .hyphenInBlockName =>
    "Block names in Jinja have to be valid Python identifiers and may not contain hyphens, " ++
      "use an underscore instead."
  | .filledBlock => "Required blocks can only contain comments or whitespace"
  | .unknownFilter name => "No filter named " ++ Text.quote name ++ "."
  | .unknownTest name => "No test named " ++ Text.quote name ++ "."
  | .blockTwice name => "block " ++ Text.quote name ++ " defined twice"
  | .nestedExtends => "cannot use extend from a non top-level scope"
  | .loopAssigned => "Can't assign to special loop variable in for-loop target"
  | .tooDeep => "maximum recursion depth exceeded"

end Malformed

end CxxWriter.Template

namespace CxxWriter

/-- The words for a place. -/
def Place.text (p : Place) : String :=
  "line " ++ toString p.line ++ (match p.template with
    | some name => " in '" ++ name ++ "'"
    | none => "")

/-- The sentence about a value that is not there; `none` if the key that was
    looked for is too long to be written out. -/
def Absence.message? : Absence → Option String
  | .variable name => some (Text.quote name ++ " is undefined")
  | .member owner name => some (Text.quote owner ++ " has no attribute " ++ Text.quote name)
  | .element owner key => key.map fun key => owner ++ " has no element " ++ key
  | .previousItem => some "there is no previous item"
  | .nextItem => some "there is no next item"
  | .parentBlock name => some ("there is no parent block called " ++ Text.quote name ++ ".")
  | .alternative place =>
    some ("the inline if-expression on " ++ place.text ++
      " evaluated to false and no else section was defined.")

end CxxWriter

namespace CxxWriter.Template

/-- Why a template cannot be rendered. -/
inductive Failure where
  | malformed (fault : Malformed)
  /-- A value is used that is not there; the sentence tells which. -/
  | absent (message : String)
  /-- A template is asked for that is not there; the text is what it is called
      by. -/
  | notFound (name : String)
  | noneFound (names : List String)
  | extendedTwice
  /-- A block that has to be replaced, but is not. -/
  | requiredBlock (name : String)
  /-- A filter that is unknown, found out only when it is reached. -/
  | noFilter (name : String)
  | noTest (name : String)
  /-- A value that is not a fragment where one is needed. -/
  | notFragment (value : Value)
  /-- A fault of an operation on values. -/
  | value (fault : ValueFault)

namespace Failure

/-- The failure to use a value that is not there. -/
def ofAbsence (why : Absence) : Failure :=
  match why.message? with
  | some m => .absent m
  | none => .value .badValue

/-- The message of a failure of the template itself; `none` for a failure of
    an operation on values. -/
def message? : Failure → Option String
  | .malformed .tooDeep => none
  | .malformed fault => some fault.message
  | .absent m => some m
  | .notFound name => some name
  | .noneFound [] => some "Tried to select from an empty list of templates."
  | .noneFound names =>
    some ("none of the templates given were found: " ++ String.intercalate ", " names)
  | .extendedTwice => some "extended multiple times"
  | .requiredBlock name => some ("Required block " ++ Text.quote name ++ " not found")
  | .noFilter name => some ("No filter named " ++ Text.quote name ++ " found.")
  | .noTest name => some ("No test named " ++ Text.quote name ++ " found.")
  | _ => none

end Failure

end CxxWriter.Template
