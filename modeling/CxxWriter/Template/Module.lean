/-
  What imported templates hold between renderings.

  A template that is imported without the context is rendered once; whoever imports
  it later sees the same module, with its cyclers as they were left.  So the state of
  the module is left in the template, if there is a cycler in it: `Memory.left` gives
  these states as values, `restore` takes one up again.
-/
import CxxWriter.Template.Outcome

namespace CxxWriter.Template

mutual

/-- The labels of the cyclers and modules that a value holds. -/
def heldLabels : Value → List Nat
  | .cycler label | .module _ label => [label]
  | .list items | .tuple items => labelsHeldIn items
  | .dict entries | .view _ entries _ => labelsHeldInEntries entries
  | .method owner _ => heldLabels owner
  | _ => []

def labelsHeldIn : List Value → List Nat
  | [] => []
  | v :: vs => heldLabels v ++ labelsHeldIn vs

def labelsHeldInEntries : List (Value × Value) → List Nat
  | [] => []
  | (k, v) :: es => heldLabels k ++ heldLabels v ++ labelsHeldInEntries es

end

mutual

/-- A value with all labels moved up. -/
def moveLabels (by_ : Nat) : Value → Value
  | .notNumber d label => .notNumber d (label + by_)
  | .list items => .list (moveLabelsIn by_ items)
  | .tuple items => .tuple (moveLabelsIn by_ items)
  | .dict entries => .dict (moveLabelsInEntries by_ entries)
  | .view kind entries label => .view kind (moveLabelsInEntries by_ entries) (label + by_)
  | .method owner name => .method (moveLabels by_ owner) name
  | .loop label => .loop (label + by_)
  | .cycler label => .cycler (label + by_)
  | .module template label => .module template (label + by_)
  | .absent why label => .absent why (label + by_)
  | v => v

def moveLabelsIn (by_ : Nat) : List Value → List Value
  | [] => []
  | v :: vs => moveLabels by_ v :: moveLabelsIn by_ vs

def moveLabelsInEntries (by_ : Nat) : List (Value × Value) → List (Value × Value)
  | [] => []
  | (k, v) :: es => (moveLabels by_ k, moveLabels by_ v) :: moveLabelsInEntries by_ es

end

namespace Memory

variable (m : Memory)

/-- The labels that can be reached from some labels in so many steps. -/
def reach : Nat → List Nat → List Nat
  | 0, _ => []
  | n + 1, labels =>
    let next (label : Nat) : List Nat :=
      match m.cyclers.lookup label, m.modules.lookup label with
      | some c, _ => labelsHeldIn c.items
      | none, some content => labelsHeldIn (content.members.map (·.2))
      | none, none => []
    labels ++ reach n (labels.flatMap next)

/-- How many steps are followed from a module. -/
def maxReach : Nat := 20

/-- The state of a module as a value, unless it holds no cycler. -/
def stateOf (label : Nat) : Option Value :=
  let reached := m.reach maxReach [label]
  let cyclers := m.cyclers.filter (reached.contains ·.1)
  if cyclers.isEmpty then none
  else some <| .tuple [.int m.nextLabel, .int label,
    .list (cyclers.map fun e => .tuple [.int e.1, .list e.2.items, .int e.2.position]),
    .list ((m.modules.filter (reached.contains ·.1)).map fun e =>
      .tuple [.int e.1, .text e.2.text, .object e.2.members])]

/-- What is left in the templates that have been imported. -/
def left : List (String × Value) :=
  m.imported.filterMap fun e => (m.stateOf e.2).map (e.1, ·)

end Memory

/-- A cycler that has been left in a template. -/
def cyclerOf? : Value → Option (Nat × CyclerState)
  | .tuple [.int label, .list items, .int position] => some (label.toNat, ⟨items, position.toNat⟩)
  | _ => none

/-- A module that has been left in a template. -/
def moduleOf? : Value → Option (Nat × Module)
  | .tuple [.int label, .text text, .dict members] =>
    some (label.toNat, ⟨text, Value.textEntries members⟩)
  | _ => none

/-- Takes up the state that has been left in a template; gives the label of its module. -/
def restore (state : Value) : Outcome (Option Nat) := do
  let first := (← get).nextLabel
  match moveLabels first state with
  | .tuple [.int count, .int label, .list cyclers, .list modules] =>
    modify fun m => { m with
      nextLabel := first + count.toNat
      cyclers := (cyclers.filterMap cyclerOf?).map (fun e => (e.1 + first, e.2)) ++ m.cyclers
      modules := (modules.filterMap moduleOf?).map (fun e => (e.1 + first, e.2)) ++ m.modules }
    return some (label.toNat + first)
  | _ => return none

/-- Notes that a module belongs to a template. -/
def noteModule (name : String) (label : Nat) : Outcome Unit :=
  modify fun m => { m with imported := (name, label) :: m.imported }

end CxxWriter.Template
