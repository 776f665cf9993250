/-
  What happens to initializers in a run.

  * `Event`: a composite is begun, accepts an element, or is given up because
    the block that builds it fails;
  * `Op.events` are the events of an operation, in order, those in it included;
  * `Reached s es`: a session is reached at the start or end of an operation of
    some run, after the events `es`;
  * `IsTree es p t`: the elements that were accepted in the tree of a composite
    are those of a tree, in order and nothing else.
-/
import CxxWriter.Proofs.Phases

namespace CxxWriter

/-- Something that happens to a composite. -/
inductive Event where
  /-- It is begun, as a root or under another one. -/
  | begun (place : Nat) (parent : Option Nat) (brackets : Brackets)
  /-- It gets an element. -/
  | accepted (place : Nat) (e : Element)
  /-- The block that builds it fails. -/
  | failed (place : Nat)
deriving DecidableEq

namespace Event

/-- The composite that is begun. -/
def begun? : Event → Option Nat
  | begun place .. => some place
  | _ => none

/-- The element that a composite gets. -/
def accepted? (place : Nat) : Event → Option Element
  | accepted p e => if p = place then some e else none
  | _ => none

/-- The composite that is complete or given up. -/
def settled? : Event → Option Nat
  | accepted _ (.composite place) | failed place => some place
  | _ => none

end Event

/-- The elements that a composite got, in order. -/
def accepted (place : Nat) (es : List Event) : List Element := es.filterMap (Event.accepted? place)

/-- The place of the composite that a handle names. -/
def Session.placeOf? (s : Session) (handle : String) : Option Nat :=
  (s.handles.find? (·.1 == handle)).map (·.2)

namespace Op

open CxxWriter.Action

/-- The element that a fragment becomes, for what a handle names. -/
def elementEvents (s : Session) (handle : String) (text : Option String) : List Event :=
  match s.placeOf? handle, text with
  | some place, some t => [.accepted place (.text t)]
  | _, _ => []

/-- The nested composite becomes an element of what a handle names. -/
def attachEvents (s : Session) (handle : String) : List Event :=
  match s.placeOf? handle with
  | some place => [.accepted place (.composite s.forest.size)]
  | none => []

/-- The events of an operation without others in it, if it ends well. -/
def ownEvents (s : Session) : Op → List Event
  | .beginInitializer brackets _ => [.begun s.forest.size none brackets]
  | .element handle code => elementEvents s handle code.fragment?
  | .stringElement handle text => elementEvents s handle (text.fragment?.map Literal.ofString)
  | .nested handle brackets _ =>
    .begun s.forest.size (s.placeOf? handle) brackets :: attachEvents s handle
  | _ => []

/-- The events of an operation before its body. -/
def openingEvents (s : Session) : Op → List Event
  | .nestedWith handle brackets _ _ => [.begun s.forest.size (s.placeOf? handle) brackets]
  | .initializer brackets _ _ => [.begun s.forest.size none brackets]
  | _ => []

/-- The events of an operation after its body. -/
def endingEvents (s : Session) : Op → Except Error Unit → List Event
  | .nestedWith handle _ _ _, .ok () => attachEvents s handle
  | .nestedWith .., .error _ => [.failed s.forest.size]
  | _, _ => []

mutual

/-- The events of an operation. -/
def events (op : Op) (s : Session) : List Event :=
  match op with
  | .noted _ op => op.events s
  | .indented body _ | .attempt body | .guarded _ body | .struct _ body | .typedefStruct _ body
  | .function _ body | .constructor _ _ body | .declareWith _ body | .nestedWith _ _ _ body
  | .initializer _ _ body =>
    match op.opening.apply s with
    | (.ok _, t) =>
      op.openingEvents s ++ allEvents body t ++ op.endingEvents s ((performAll body).apply t).1
    | (.error _, _) => []
  | op =>
    match (op.perform.apply s).1 with
    | .ok _ => op.ownEvents s
    | .error _ => []

/-- The events of operations in order, up to the first that fails. -/
def allEvents : List Op → Session → List Event
  | [], _ => []
  | op :: ops, s =>
    op.events s ++
      match op.perform.apply s with
      | (.ok _, t) => allEvents ops t
      | (.error _, _) => []

end

theorem events_compound {op : Op} (h : op.isCompound = true) (s : Session) :
    op.events s = match op.opening.apply s with
      | (.ok _, t) => op.openingEvents s ++ allEvents op.body t ++
        op.endingEvents s ((performAll op.body).apply t).1
      | (.error _, _) => [] := by
  cases op <;> first | rfl | cases h

theorem events_simple {op : Op} (h : op.isSimple = true) (s : Session) :
    op.events s = match (op.perform.apply s).1 with
      | .ok _ => op.ownEvents s
      | .error _ => [] := by
  cases op <;> first | rfl | cases h

end Op

/-- Is a session reached in some run at the start or end of an operation, after
    these events? -/
inductive Reached : Session → List Event → Prop
  | start (library : TemplateLibrary) (config : Config) (unit : String) (files : Files) (log : Log) :
    Reached (.start library config unit files log) []
  | retrace {s es} : Reached s es → Reached { s with trace := [] } es
  /-- The body of an operation starts. -/
  | enter {s t es ending} {op : Op} : Reached s es → op.body ≠ [] → op.opening.apply s = (.ok ending, t) →
    Reached t (es ++ op.openingEvents s)
  /-- An operation ends. -/
  | perform {s es} (op : Op) : Reached s es → Reached (op.perform.apply s).2 (es ++ op.events s)

mutual

/-- Is a tree made of the elements that were accepted? -/
inductive IsTree (es : List Event) : Nat → Tree → Prop
  | node {place parent brackets children} : .begun place parent brackets ∈ es →
    AreTrees es (accepted place es) children →
    IsTree es place (.node brackets.opening brackets.closing children)

/-- Are elements those of a node, one by one? -/
inductive AreTrees (es : List Event) : List Element → List Tree → Prop
  | nil : AreTrees es [] []
  | text {s l ts} : AreTrees es l ts → AreTrees es (.text s :: l) (.leaf (.text s) :: ts)
  | composite {place t l ts} : IsTree es place t → AreTrees es l ts →
    AreTrees es (.composite place :: l) (t :: ts)

end

end CxxWriter
