/-
  What computing with values remembers and comes to.

  An `Outcome` is a value or a failure.  Along the way a `Memory` is kept:

  * labels, which tell values apart that are the same only as themselves;
  * the loops that have been entered, with the items that they still hold, cyclers with
    the item that is next, and the modules of templates that have been imported;
  * the values that were tried as fragments and are none.
-/
import CxxWriter.Template.Failure

namespace CxxWriter.Template

/-! ## Items -/

/-- The items that can be taken from a value, in order. -/
inductive Supply where
  | items (vs : List Value)
  /-- As many integers as told, from the first in steps. -/
  | numbers (first step : Int) (count : Nat)

namespace Supply

/-- Takes the first item. -/
def next? : Supply → Option (Value × Supply)
  | .items [] => none
  | .items (v :: vs) => some (v, .items vs)
  | .numbers _ _ 0 => none
  | .numbers first step (count + 1) => some (.int first, .numbers (first + step) step count)

/-- The number of items. -/
def size : Supply → Nat
  | .items vs => vs.length
  | .numbers _ _ count => count

/-- The first items, at most as many as told. -/
def take (n : Nat) : Supply → List Value
  | .items vs => vs.take n
  | .numbers first step count =>
    (List.range (min n count)).map fun (i : Nat) => .int (first + step * i)

/-- All items. -/
def toList (s : Supply) : List Value := s.take s.size

end Supply

/-- A loop that has been entered. -/
structure LoopState where
  /-- The items that have not been taken. -/
  ahead : Supply
  /-- What ends the loop after them if it does not just end. -/
  failure : Option Failure
  /-- The number of items that have been taken. -/
  taken : Nat
  /-- The item that was taken last, and the one before. -/
  current : Option Value
  previous : Option Value
  /-- The number of items, if the loop is over a value that tells it. -/
  size : Option Nat

/-- A cycler. -/
structure CyclerState where
  items : List Value
  /-- The position of the item that is next. -/
  position : Nat

/-- What a template that has been imported tells. -/
structure Module where
  /-- What it prints. -/
  text : String
  members : List (String × Value)

/-- What is remembered. -/
structure Memory where
  /-- The label that is given out next. -/
  nextLabel : Nat
  /-- The loops by their labels. -/
  loops : List (Nat × LoopState)
  cyclers : List (Nat × CyclerState)
  modules : List (Nat × Module)
  /-- The modules that belong to templates, by the names of these. -/
  imported : List (String × Nat)
  /-- The values that were tried as fragments and are none, in order. -/
  rejected : List Value

/-- The memory at the start. -/
def Memory.start : Memory := ⟨0, [], [], [], [], []⟩

/-- A value or a failure, with what is remembered. -/
abbrev Outcome := ExceptT Failure (StateM Memory)

/-! ## Labels -/

/-- A label that has not been given out before. -/
def freshLabel : Outcome Nat :=
  modifyGet fun m => (m.nextLabel, { m with nextLabel := m.nextLabel + 1 })

/-- A value that is not there. -/
def missing (why : Absence) : Outcome Value := return .absent why (← freshLabel)

/-- A double. -/
def doubleOf (x : Float) : Outcome Value := do
  if x.isNaN then return .notNumber none (← freshLabel) else return .float x

/-- A decimal. -/
def decimalOf (d : Decimal) : Outcome Value := do
  match d with
  | .nan .. => return .notNumber (some d) (← freshLabel)
  | d => return .decimal d

/-- A view of the entries of a dictionary. -/
def viewOf (kind : ViewKind) (entries : List (Value × Value)) : Outcome Value :=
  return .view kind entries (← freshLabel)

mutual

/-- Gives labels to the parts of a value that are not numbers. -/
def labelled : Value → Outcome Value
  | .float x => doubleOf x
  | .decimal d => decimalOf d
  | .list items => return .list (← labelledAll items)
  | .tuple items => return .tuple (← labelledAll items)
  | .dict entries => return .dict (← labelledEntries entries)
  | v => return v

def labelledAll : List Value → Outcome (List Value)
  | [] => return []
  | v :: vs => do
    let w ← labelled v
    return w :: (← labelledAll vs)

def labelledEntries : List (Value × Value) → Outcome (List (Value × Value))
  | [] => return []
  | (k, v) :: es => do
    let w ← labelled v
    return (k, w) :: (← labelledEntries es)

end

/-! ## Failures -/

/-- Fails by a fault of an operation on values. -/
def faulty {α : Type} (f : ValueFault) : Outcome α := throw (.value f)

/-- Fails for a value that is not there. -/
def notThere {α : Type} (why : Absence) : Outcome α := throw (.ofAbsence why)

/-! ## Loops -/

/-- Enters a loop over items, after which it may fail. -/
def enterLoop (ahead : Supply) (failure : Option Failure) (size : Option Nat) : Outcome Nat := do
  let label ← freshLabel
  modify fun m => { m with loops := (label, ⟨ahead, failure, 0, none, none, size⟩) :: m.loops }
  return label

/-- The state of a loop. -/
def loopState (label : Nat) : Outcome LoopState := do
  match (← get).loops.lookup label with
  | some l => return l
  | none => faulty .wrongKind

def setLoop (label : Nat) (l : LoopState) : Outcome Unit :=
  modify fun m =>
    { m with loops := m.loops.map fun e => if e.1 = label then (label, l) else e }

/-- Leaves a loop. -/
def leaveLoop (label : Nat) : Outcome Unit :=
  modify fun m => { m with loops := m.loops.filter (·.1 ≠ label) }

/-- Fails if the loop does not hold another item, but cannot just end. -/
def LoopState.checkEnd (l : LoopState) : Outcome Unit :=
  match l.ahead.size, l.failure with
  | 0, some f => throw f
  | _, _ => return ()

/-- The item that a loop takes next, which stays there. -/
def LoopState.peek (l : LoopState) : Outcome (Option Value) := do
  l.checkEnd
  return l.ahead.next?.map (·.1)

/-- The number of items of a loop. -/
def LoopState.length (l : LoopState) : Outcome Nat :=
  match l.size, l.failure with
  | some n, _ => return n
  | none, some f => throw f
  | none, none => return l.taken + l.ahead.size

/-- Takes the next item of a loop. -/
def takeItem (label : Nat) : Outcome (Option Value) := do
  let l ← loopState label
  l.checkEnd
  match l.ahead.next? with
  | none => return none
  | some (v, rest) =>
    setLoop label
      { l with ahead := rest, taken := l.taken + 1, current := some v, previous := l.current }
    return some v

/-- Takes all items of a loop, each with the loop. -/
def takeAll (label : Nat) : Outcome Supply := do
  let l ← loopState label
  match l.failure with
  | some f => throw f
  | none =>
    let vs := l.ahead.toList
    setLoop label { l with ahead := .items [], taken := l.taken + vs.length }
    return .items (vs.map fun v => .tuple [v, .loop label])

/-- The text of a loop that has not failed. -/
def loopText (m : Memory) (label : Nat) : String :=
  match m.loops.lookup label with
  | some l =>
    "<LoopContext " ++ toString l.taken ++ "/" ++
      toString (l.size.getD (l.taken + l.ahead.size)) ++ ">"
  | none => "<LoopContext>"

/-! ## Cyclers and modules -/

/-- A cycler of items. -/
def newCycler (items : List Value) : Outcome Value := do
  if items.isEmpty then faulty .badValue
  let label ← freshLabel
  modify fun m => { m with cyclers := (label, ⟨items, 0⟩) :: m.cyclers }
  return .cycler label

/-- The state of a cycler. -/
def cyclerState (label : Nat) : Outcome CyclerState := do
  match (← get).cyclers.lookup label with
  | some c => return c
  | none => faulty .wrongKind

/-- The item of a cycler that is next. -/
def CyclerState.current (c : CyclerState) : Outcome Value :=
  match c.items[c.position]? with
  | some v => return v
  | none => faulty .wrongKind

/-- Sets the position of a cycler. -/
def setPosition (label position : Nat) : Outcome Unit :=
  modify fun m =>
    { m with cyclers := m.cyclers.map fun e =>
        if e.1 = label then (label, { e.2 with position := position }) else e }

/-- Gives the next item of a cycler and moves on. -/
def nextOf (label : Nat) : Outcome Value := do
  let c ← cyclerState label
  let v ← c.current
  setPosition label ((c.position + 1) % c.items.length)
  return v

/-- A module. -/
def newModule (content : Module) : Outcome Nat := do
  let label ← freshLabel
  modify fun m => { m with modules := (label, content) :: m.modules }
  return label

/-- What a module tells. -/
def moduleContent (label : Nat) : Outcome Module := do
  match (← get).modules.lookup label with
  | some content => return content
  | none => faulty .wrongKind

/-! ## Texts, conditions and items of values -/

/-- Fails for a value that has no text. -/
def checkWritable (v : Value) : Outcome Unit :=
  if v.isWritable then return () else faulty .badValue

/-- The text that a value is printed as. -/
def printed (v : Value) : Outcome String := do
  match v with
  | .absent why _ => if why.isLenient then return "" else notThere why
  | .loop label =>
    discard (← loopState label).length
    return loopText (← get) label
  | .module _ label => return (← moduleContent label).text
  | v =>
    checkWritable v
    return v.toTextWith (loopText (← get))

/-- The text that shows a value as it would be written in a program. -/
def quotedText (v : Value) : Outcome String := do
  checkWritable v
  return v.quotedWith (loopText (← get))

/-- Is a value true as a condition? -/
def truth (v : Value) : Outcome Bool := do
  match v with
  | .absent why _ => if why.isLenient then return false else notThere why
  | .loop label => return (← (← loopState label).length) != 0
  | v => return v.isTrue

/-- The items of a value, in order. -/
def supplyOf : Value → Outcome Supply
  | .list items | .tuple items => return .items items
  | .dict entries => return .items (entries.map (·.1))
  | .view kind entries _ => return .items (Value.viewItems kind entries)
  | .text s => return .items (s.toList.map fun c => .text (String.singleton c))
  | .bytes b => return .items (b.data.toList.map fun x => .int x.toNat)
  | .range start stop step => return .numbers start step (Value.rangeSize start stop step)
  | .loop label => takeAll label
  | .blocks .. => faulty .noKey
  | .absent why _ => if why.isLenient then return .items [] else notThere why
  | _ => faulty .wrongKind

def itemsOf (v : Value) : Outcome (List Value) := return (← supplyOf v).toList

/-- The largest length that is told. -/
def maxLength : Nat := 9223372036854775807

/-- How many items a value has. -/
def lengthOf : Value → Outcome Nat
  | .list items | .tuple items => return items.length
  | .dict entries | .view _ entries _ => return entries.length
  | .text s => return s.length
  | .bytes b => return b.size
  | .range start stop step =>
    let n := Value.rangeSize start stop step
    if maxLength < n then faulty .overflow else return n
  | .loop label => do (← loopState label).length
  | .absent why _ => if why.isLenient then return 0 else notThere why
  | _ => faulty .wrongKind

end CxxWriter.Template
