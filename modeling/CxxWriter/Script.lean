/-
  Scripts: operations on a session as data.

  The body of an operation that encloses others is a list of operations.
  Operations outside of `noted` leave no trace.
-/
import CxxWriter.Action.Initializer
import CxxWriter.Action.Template

namespace CxxWriter

/-- An operation on a session. -/
inductive Op where
  /-- An operation whose end is noted under a label. -/
  | noted (label : String) (op : Op)
  -- text
  | newline
  | stripNewlines
  | emit (code : Value)
  | emitOpen (code : Value)
  | emitRaw (text : Value)
  | comment (text : Value)
  | separator
  | setUnit (unit : Value)
  -- questions
  | snapshot
  | state
  | literal (value : Value)
  -- control
  | indented (body : List Op) (reply : Value)
  | attempt (body : List Op)
  | fail (message : String)
  -- declarations
  | includeHeader (header : Value)
  | define (definition : Value)
  | defineString (name value : Value)
  | guarded (name : Value) (body : List Op)
  | struct (name : Value) (body : List Op)
  | typedefStruct (name : Value) (body : List Op)
  | function (declaration : Value) (body : List Op)
  | constructor (declaration : Value) (initial : List (Value × Value)) (body : List Op)
  | declare (declaration : Value)
  | declareValue (declaration value : Value)
  | declareWith (declaration : Value) (body : List Op)
  | declareInitializer (declaration : Value) (handle : String)
  -- initializers
  | beginInitializer (brackets : Brackets) (handle : String)
  | element (handle : String) (code : Value)
  | stringElement (handle : String) (text : Value)
  /-- A nested composite that is an element from the start. -/
  | nested (handle : String) (brackets : Brackets) (child : String)
  /-- A nested composite that is an element once its body has ended. -/
  | nestedWith (handle : String) (brackets : Brackets) (child : String) (body : List Op)
  | writeInitializer (handle : String)
  /-- A root that is built by a body and then written. -/
  | initializer (brackets : Brackets) (handle : String) (body : List Op)
  | elementCount (handle : String)
  | isRoot (handle : String)
  | treeOf (handle : String)
  | writeTree (tree : Tree)
  -- templates
  | template (source : String) (given : List (String × Value))
  | templateFile (name : String) (given : List (String × Value))
  | addTemplate (name source : String)
  | hasTemplate (name : String)
deriving Inhabited

namespace Op

/-- An action that gives nothing back. -/
def silent (a : Action Unit) : Action Reply := do
  a
  return .nothing

mutual

/-- Carries out an operation. -/
def perform : Op → Action Reply
  | noted label op => op.perform.noted label
  | newline => silent (.changeBuffer (·.newline))
  | stripNewlines => silent (.changeBuffer (·.stripNewlines))
  | emit code => silent (.emit code)
  | emitOpen code => silent (.emitOpen code)
  | emitRaw text => silent (.emitRaw text)
  | comment text => silent (.comment text)
  | separator => silent .separator
  | setUnit unit => silent (.setUnit unit)
  | snapshot => do
    Action.changeBuffer (·.joined)
    return .value (.text (← get).buffer.text)
  | state => do return .buffer (← get).buffer
  | literal value => do return .value (.text (← Action.report (.literal value)))
  | indented body reply => do
    Action.indented (performAll body)
    return .value reply
  | attempt body => Action.attempt (performAll body)
  | fail message => throw (.user message)
  | includeHeader header => silent (.includeHeader header)
  | define definition => silent (.define definition)
  | defineString name value => silent (.defineString name value)
  | guarded name body => silent (.guarded name (performAll body))
  | struct name body => silent (.struct name (performAll body))
  | typedefStruct name body => silent (.typedefStruct name (performAll body))
  | function declaration body => silent (.function declaration (performAll body))
  | constructor declaration initial body =>
    silent (.constructor declaration initial (performAll body))
  | declare declaration => silent (.declare declaration)
  | declareValue declaration value => silent (.declareValue declaration value)
  | declareWith declaration body => silent (.declareWith declaration (performAll body))
  | declareInitializer declaration handle => do
    let place ← Action.placeOf handle
    silent (.declareWith declaration (.writeInitializer place))
  | beginInitializer brackets handle => do
    silent (.setHandle handle (← Action.beginInitializer brackets))
  | element handle code => do silent (.addElement (← Action.placeOf handle) code)
  | stringElement handle text => do silent (.addString (← Action.placeOf handle) text)
  | nested handle brackets child => do
    let place ← Action.placeOf handle
    let inner ← Action.beginNested place brackets
    Action.attachNested place inner
    silent (.setHandle child inner)
  | nestedWith handle brackets child body => do
    let place ← Action.placeOf handle
    let inner ← Action.beginNested place brackets
    Action.setHandle child inner
    performAll body
    silent (.attachNested place inner)
  | writeInitializer handle => do silent (.writeInitializer (← Action.placeOf handle))
  | initializer brackets handle body => do
    let place ← Action.beginInitializer brackets
    Action.setHandle handle place
    performAll body
    silent (.writeInitializer place)
  | elementCount handle => do
    let place ← Action.placeOf handle
    return .value (.int ((← get).forest.elementCount place))
  | isRoot handle => do
    let place ← Action.placeOf handle
    return .value (.bool ((← get).forest.isRoot place))
  | treeOf handle => do
    let place ← Action.placeOf handle
    return .tree ((← get).forest.tree place)
  | writeTree tree => silent (.writeTree tree)
  | template source given => silent (.template source given)
  | templateFile name given => silent (.templateFile name given)
  | addTemplate name source => silent (.addTemplate name source)
  | hasTemplate name => do return .value (.bool (← Action.hasTemplate name))

/-- Carries out operations in order, up to the first that fails. -/
def performAll : List Op → Action Unit
  | [] => return ()
  | op :: ops => do
    discard op.perform
    performAll ops

end

end Op

/-- What carrying out a script came to: the notes of each operation in turn,
    and the session at the end. -/
structure Performed where
  notes : List (List Step)
  session : Session

namespace Session

/-- Carries out operations in order, each whether or not the one before it
    failed. -/
def play : List Op → Session → Performed
  | [], s => ⟨[], s⟩
  | op :: ops, s =>
    let s := (op.perform.apply { s with trace := [] }).2
    let rest := play ops s
    ⟨s.trace :: rest.notes, rest.session⟩

end Session

end CxxWriter
