/-
  Writing source text.

  The values that callers give have to be fragments.  Declarations are written
  as lines at the current indentation; a body is an action that is carried out
  one level deeper, and whatever it fails with ends the declaration too.
-/
import CxxWriter.Action.Basic

namespace CxxWriter.Action

/-- Writes a text as a block with a line feed after it. -/
def emitText (s : String) : Action Unit := changeBuffer (·.emit s)

/-- Writes a fragment as a block with a line feed after it. -/
def emit (code : Value) : Action Unit := do emitText (← report (.fragment code))

/-- Writes a fragment as a block. -/
def emitOpen (code : Value) : Action Unit := do
  let s ← report (.fragment code)
  changeBuffer (·.emitOpen s)

/-- Writes a fragment as it is. -/
def emitRaw (text : Value) : Action Unit := do
  let s ← report (.fragment text)
  changeBuffer (·.emitRaw s)

/-- Writes a comment. -/
def comment (text : Value) : Action Unit := do
  let s ← report (.fragment text)
  changeBuffer (·.emitComment s)

/-- Writes an empty line. -/
def separator : Action Unit := emitText ""

/-- Changes the unit of indentation for what follows. -/
def setUnit (unit : Value) : Action Unit := do
  let unit ← report (.unitText unit)
  let b := (← get).buffer
  if b.mixesUnits unit then
    report (.record .warning .buffer ("Indent string changed to " ++ Text.quote unit ++
      " after output was written; existing lines keep their indentation"))
  changeBuffer (·.withUnit unit)

/-! ## Preprocessor lines -/

/-- Includes a header, given with its brackets or quotes. -/
def includeHeader (header : Value) : Action Unit := do
  let s ← report (.fragment header)
  emitText ("#include " ++ s)

/-- Defines a macro whose name and value are the text. -/
def defineText (s : String) : Action Unit := emitText ("#define " ++ s)

/-- Defines a macro. -/
def define (definition : Value) : Action Unit := do defineText (← report (.fragment definition))

/-- Defines a macro whose value is a string literal. -/
def defineString (name value : Value) : Action Unit := do
  let name ← report (.fragment name)
  let literal ← report (.literal value)
  defineText (name ++ " " ++ literal)

/-- Guards what an action writes against being included twice. -/
def guarded (name : Value) (body : Action Unit) : Action Unit := do
  let name ← report (.fragment name)
  emitText ("#ifndef " ++ name)
  defineText name
  separator
  body
  separator
  emitText ("#endif /* " ++ name ++ " */")

/-! ## Types -/

/-- Writes a structure whose members an action writes. -/
def struct (name : Value) (body : Action Unit) : Action Unit := do
  let name ← report (.fragment name)
  emitText ("struct " ++ name ++ " \x7b")
  indented body
  emitText "\x7d;"

/-- Writes the definition of a type that is a structure.  Its name is looked
    at only after the members. -/
def typedefStruct (name : Value) (body : Action Unit) : Action Unit := do
  emitText "typedef struct \x7b"
  indented body
  let name ← report (.fragment name)
  emitText ("\x7d " ++ name ++ ";")

/-! ## Functions -/

/-- Writes the return type of a declaration on a line of its own. -/
def returnType (d : Declaration) : Action Unit :=
  if d.returnType.isEmpty then return () else emitText d.returnType

/-- Writes a function whose body an action writes. -/
def function (declaration : Value) (body : Action Unit) : Action Unit := do
  let d ← report (.declaration declaration)
  returnType d
  emitText (d.signature ++ " \x7b")
  indented body
  emitText "\x7d"
  separator

/-- The value of a member: a block whose lines after the first are indented
    as the buffer is. -/
def memberValue (b : Buffer) (s : String) : String :=
  let block := Block.unindent s.toList
  let first := block.takeWhile (· != '\n')
  let rest := (block.dropWhile (· != '\n')).drop 1
  if rest.isEmpty then String.ofList first
  else String.ofList (first ++ '\n' :: Block.reindent b.indentation.toList b.unit.toList rest)

/-- Writes the initial values of members, each on a line of its own.  `lead`
    stands before the first. -/
def members (lead : String) : List (Value × Value) → Action Unit
  | [] => return ()
  | (name, value) :: rest => do
    let name ← report (.fragment name)
    let value ← report (.fragment value)
    let trail := if rest.isEmpty then "" else ","
    changeBuffer fun b =>
      (b.emitRaw (b.indentation ++ lead ++ name ++ "(" ++ memberValue b value ++ ")" ++ trail)).newline
    members "  " rest

/-- Writes a constructor with the initial values of members and a body that
    an action writes. -/
def constructor (declaration : Value) (initial : List (Value × Value)) (body : Action Unit) :
    Action Unit := do
  let d ← report (.declaration declaration)
  returnType d
  emitText d.signature
  indented (members ": " initial)
  emitText "\x7b"
  indented body
  emitText "\x7d"
  separator

/-! ## Variables -/

/-- Writes a declaration without a value. -/
def declare (declaration : Value) : Action Unit := do
  let s ← report (.fragment declaration)
  emitText (s ++ ";")

/-- Writes a declaration with a fragment as its value. -/
def declareValue (declaration value : Value) : Action Unit := do
  let s ← report (.fragment declaration)
  let v ← report (.fragment value)
  emitText (s ++ " = " ++ v ++ ";")

/-- Writes a declaration whose value an action writes. -/
def declareWith (declaration : Value) (value : Action Unit) : Action Unit := do
  let s ← report (.fragment declaration)
  changeBuffer fun b => (b.emitOpen (s ++ " =")).emitRaw " "
  value
  changeBuffer fun b => (b.stripNewlines.emitRaw ";").newline

end CxxWriter.Action
