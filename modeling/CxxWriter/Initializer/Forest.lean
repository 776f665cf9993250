/-
  Initializers under construction.

  A forest holds every composite that a session has begun, in the order in
  which they were begun; a composite is named by its place.  It lists its
  elements, which are texts and other composites, and knows the root that it
  was begun under.  Once a root has been written, its whole tree is closed.

  * `begin` starts a root, `beginUnder` a composite below another one, which
    becomes an element only when it is attached;
  * `tree` is the tree below a composite.  Children are begun after their
    parents, so the walk down ends.
-/
import CxxWriter.Initializer.Tree

namespace CxxWriter

/-- The delimiters of a composite. -/
inductive Brackets where
  | array
  | struct
deriving DecidableEq, Repr

namespace Brackets

def opening : Brackets → String
  | array => "["
  | struct => "\x7b"

def closing : Brackets → String
  | array => "]"
  | struct => "\x7d"

end Brackets

/-- An element of a composite. -/
inductive Element where
  | text (s : String)
  | composite (place : Nat)
deriving DecidableEq, Repr

/-- A composite: its delimiters, its elements in order, and the place of its
    root. -/
structure Composite where
  brackets : Brackets
  elements : List Element
  root : Nat
  /-- Has the composite been written?  Only roots are. -/
  isWritten : Bool
deriving DecidableEq, Repr

/-- All composites of a session. -/
structure Forest where
  composites : List Composite
deriving DecidableEq, Repr

namespace Forest

def empty : Forest := ⟨[]⟩

/-- How many composites have been begun. -/
def size (f : Forest) : Nat := f.composites.length

def get? (f : Forest) (place : Nat) : Option Composite := f.composites[place]?

/-- Is the composite the outermost of its tree? -/
def isRoot (f : Forest) (place : Nat) : Bool :=
  (f.get? place).any (·.root == place)

/-- Has the tree of the composite been written? -/
def isClosed (f : Forest) (place : Nat) : Bool :=
  (f.get? place).any fun c => (f.get? c.root).any (·.isWritten)

/-- Begins a root. -/
def begin (f : Forest) (brackets : Brackets) : Forest :=
  ⟨f.composites ++ [⟨brackets, [], f.size, false⟩]⟩

/-- Begins a composite of the tree that `parent` belongs to. -/
def beginUnder (f : Forest) (parent : Nat) (brackets : Brackets) : Forest :=
  let root := ((f.get? parent).map (·.root)).getD parent
  ⟨f.composites ++ [⟨brackets, [], root, false⟩]⟩

/-- Adds an element at the end of a composite. -/
def attach (f : Forest) (place : Nat) (e : Element) : Forest :=
  ⟨f.composites.modify place fun c => { c with elements := c.elements ++ [e] }⟩

/-- Marks a root as written. -/
def close (f : Forest) (place : Nat) : Forest :=
  ⟨f.composites.modify place fun c => { c with isWritten := true }⟩

/-- How many elements a composite has. -/
def elementCount (f : Forest) (place : Nat) : Nat :=
  ((f.get? place).map (·.elements.length)).getD 0

/-- The tree below a composite. -/
def tree (f : Forest) (place : Nat) : Tree :=
  match f.get? place with
  | none => .node "" "" []
  | some c =>
    .node c.brackets.opening c.brackets.closing <| c.elements.filterMap fun
      | .text s => some (.leaf (.text s))
      | .composite child =>
        if _ : place < child ∧ child < f.size then some (f.tree child) else none
termination_by f.size - place

end Forest

end CxxWriter
