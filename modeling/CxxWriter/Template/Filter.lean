/-
  Filters, tests and functions of templates.
-/
import CxxWriter.Fragment
import CxxWriter.Literal
import CxxWriter.Naming
import CxxWriter.Template.Comparison
import CxxWriter.Template.Format

namespace CxxWriter.Template

/-- The arguments of a call after evaluation. -/
structure Call where
  plain : List Value
  named : List (String × Value)

/-- The arguments for parameters in order.  Fails if there are too many, or
    one for an unknown parameter, or two for the same. -/
def Call.bind (call : Call) (params : List String) : Outcome (List (Option Value)) :=
  let taken := params.take call.plain.length
  if params.length < call.plain.length then faulty .wrongKind
  else if call.named.any (fun a => !params.contains a.1 || taken.contains a.1) then
    faulty .wrongKind
  else return call.plain.map some ++
    (params.drop call.plain.length).map fun p => (call.named.reverse.find? (·.1 == p)).map (·.2)

/-! ## Filters -/

/-- A part of a path: a text that shows digits alone is an index. -/
def pathPart (s : String) : Outcome Value :=
  let cs := s.toList
  if cs.isEmpty || !cs.all Text.showsDigit then return .text s
  else
    match Text.readDigits? 0 false cs with
    | some n => if Text.maxDigits < cs.length then faulty .badValue else return .int n
    | none => faulty .badValue

/-- The parts of a path of members and items. -/
def pathParts (path : Value) : Outcome (List Value) :=
  match path with
  | .null => return []
  | .text s => (Text.splitString '.' s).mapM pathPart
  | v => return [v]

/-- The value at a path. -/
def valueAt (path : List Value) (v : Value) : Outcome Value := path.foldlM subscripted v

/-- Joins the items of a value. -/
def joinItems (v separator path : Value) : Outcome Value := do
  match path with
  | .null =>
    let sep ← printed separator
    return .text (String.intercalate sep (← (← itemsOf v).mapM printed))
  | path =>
    let parts ← pathParts path
    let items ← itemsOf v
    let sep ← printed separator
    return .text (String.intercalate sep (← items.mapM fun x => do printed (← valueAt parts x)))

/-- The number of replacements that an argument asks for; none means all. -/
def countOf : Value → Outcome (Option Nat)
  | .null => return none
  | v =>
    match v.int? with
    | some n =>
      if maxLength < n ∨ n < -(maxLength : Int) - 1 then faulty .overflow
      else return if n < 0 then none else some n.toNat
    | none => faulty .wrongKind

/-- Trims white space, or the given characters. -/
def trimmed (v chars : Value) : Outcome Value := do
  let s ← printed v
  match chars with
  | .null => return .text (Text.trimString Text.isSpace s)
  | .text cs => return .text (Text.trimString (cs.toList.contains ·) s)
  | _ => faulty .wrongKind

/-- A value, or another one if it is not there; if told so, also if it is not
    true. -/
def defaulted (v other boolean : Value) : Outcome Value := do
  match v with
  | .absent .. => return other
  | v =>
    if ← truth boolean then
      if ← truth v then return v else return other
    else return v

/-- A filter without parameters that works on text. -/
def textFilter (f : String → String) (v : Value) (call : Call) : Outcome Value := do
  discard (call.bind [])
  return .text (f (← printed v))

/-- A value as a string literal. -/
def literalOf (v : Value) : Outcome Value := do
  match v.fragment? with
  | some s => return .text (Literal.ofString s)
  | none => if v.isNumber then faulty .badValue else throw (.notFragment v)

/-- The filters that templates can use. -/
def filterNames : List String :=
  ["c_string", "snake_case", "pascal_case", "macro_case", "upper", "lower", "length", "count",
    "join", "default", "d", "replace", "trim"]

/-- The tests that templates can use. -/
def testNames : List String := ["defined", "undefined"]

/-- Applies a filter. -/
def applyFilter (name : String) (v : Value) (call : Call) : Outcome Value := do
  if name = "c_string" then
    discard (call.bind [])
    literalOf v
  else if name = "snake_case" then textFilter Naming.snakeCase v call
  else if name = "pascal_case" then textFilter Naming.pascalCase v call
  else if name = "macro_case" then textFilter Naming.macroCase v call
  else if name = "upper" then textFilter Text.toUpper v call
  else if name = "lower" then textFilter Text.toLower v call
  else if name = "length" ∨ name = "count" then
    discard (call.bind [])
    return .int (← lengthOf v)
  else if name = "join" then
    match ← call.bind ["d", "attribute"] with
    | [d, path] => joinItems v (d.getD (.text "")) (path.getD .null)
    | _ => faulty .wrongKind
  else if name = "default" ∨ name = "d" then
    match ← call.bind ["default_value", "boolean"] with
    | [other, boolean] => defaulted v (other.getD (.text "")) (boolean.getD (.bool false))
    | _ => faulty .wrongKind
  else if name = "replace" then
    match ← call.bind ["old", "new", "count"] with
    | [some old, some new, count] =>
      let s ← printed v
      let old ← printed old
      let new ← printed new
      return .text (Text.replace s old new (← countOf (count.getD .null)))
    | _ => faulty .wrongKind
  else if name = "trim" then
    match ← call.bind ["chars"] with
    | [chars] => trimmed v (chars.getD .null)
    | _ => faulty .wrongKind
  else if call.named.isEmpty then throw (.noFilter name)
  else faulty .wrongKind

/-! ## Tests -/

/-- Is the value one that is not there? -/
def isAbsent : Value → Bool
  | .absent .. => true
  | _ => false

/-- Applies a test. -/
def applyTest (name : String) (v : Value) (call : Call) : Outcome Bool := do
  if name = "defined" then
    discard (call.bind [])
    return !isAbsent v
  else if name = "undefined" then
    discard (call.bind [])
    return isAbsent v
  else if call.named.isEmpty then throw (.noTest name)
  else faulty .wrongKind

/-! ## Functions -/

/-- Makes a range. -/
def makeRange (call : Call) : Outcome Value :=
  if !call.named.isEmpty then faulty .wrongKind
  else match call.plain.map Value.int? with
    | [some stop] => return .range 0 stop 1
    | [some start, some stop] => return .range start stop 1
    | [some start, some stop, some step] =>
      if step = 0 then faulty .badValue else return .range start stop step
    | _ => faulty .wrongKind

/-- Calls a method of a dictionary. -/
def callDictMethod (entries : List (Value × Value)) (name : String) (call : Call) :
    Outcome Value := do
  if name = "items" then
    discard (call.bind [])
    viewOf .items entries
  else if name = "keys" then
    discard (call.bind [])
    viewOf .keys entries
  else if name = "values" then
    discard (call.bind [])
    viewOf .values entries
  else if name = "get" then
    unless call.named.isEmpty do faulty .wrongKind
    match ← call.bind ["key", "default"] with
    | [some key, other] =>
      checkKey key
      return (Value.lookup? entries key).getD (other.getD .null)
    | _ => faulty .wrongKind
  else faulty .wrongKind

/-- The argument whose turn it is in a loop. -/
def cycled (label : Nat) (call : Call) : Outcome Value := do
  let l ← loopState label
  match call.plain[(l.taken - 1) % call.plain.length]? with
  | some v => if call.named.isEmpty then return v else faulty .wrongKind
  | none => faulty .wrongKind

/-- Makes a cycler. -/
def makeCycler (call : Call) : Outcome Value :=
  if call.named.isEmpty then newCycler call.plain else faulty .wrongKind

/-- Calls a method of a cycler. -/
def callCycler (label : Nat) (name : String) (call : Call) : Outcome Value := do
  if ["next", "__next__"].contains name then
    discard (call.bind [])
    nextOf label
  else if name = "reset" then
    discard (call.bind [])
    setPosition label 0
    return .null
  else faulty .wrongKind

/-- Calls a value other than a block. -/
def applyCall (f : Value) (call : Call) : Outcome Value :=
  match f with
  | .absent why _ => notThere why
  | .builtin .range => makeRange call
  | .builtin .cycler => makeCycler call
  | .builtin .dict =>
    if call.plain.isEmpty then
      return .object (call.named.foldl (fun es (k, v) => (es.filter (·.1 != k)) ++ [(k, v)]) [])
    else faulty .wrongKind
  | .method (.dict entries) name => callDictMethod entries name call
  | .method (.loop label) "cycle" => cycled label call
  | .method (.cycler label) name => callCycler label name call
  | _ => faulty .wrongKind

end CxxWriter.Template
