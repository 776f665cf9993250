/-
  Building and writing initializers.

  A handle names a composite of the forest.  Composites of a tree that has
  been written are closed: nothing can be added by way of a handle.
-/
import CxxWriter.Action.Basic

namespace CxxWriter.Action

/-- The place of the initializer that a handle names. -/
def placeOf (handle : String) : Action Nat := do
  match (← get).handles.find? (·.1 == handle) with
  | some (_, place) => return place
  | none => throw .unknownHandle

/-- Makes a handle name a place. -/
def setHandle (handle : String) (place : Nat) : Action Unit :=
  modify fun s => { s with handles := (handle, place) :: s.handles.filter (·.1 != handle) }

/-- Changes the forest. -/
def changeForest (f : Forest → Forest) : Action Unit :=
  modify fun s => { s with forest := f s.forest }

/-- Begins a root and gives its place. -/
def beginInitializer (brackets : Brackets) : Action Nat := do
  let place := (← get).forest.size
  changeForest (·.begin brackets)
  return place

/-- Fails if the tree of a composite has been written. -/
def checkOpen (place : Nat) : Action Unit := do
  if (← get).forest.isClosed place then throw .alreadyWritten

/-- Adds a fragment to a composite. -/
def addElement (place : Nat) (code : Value) : Action Unit := do
  checkOpen place
  let s ← report (.fragment code)
  changeForest (·.attach place (.text s))

/-- Adds a string literal to a composite. -/
def addString (place : Nat) (text : Value) : Action Unit := do
  let s ← report (.literal text)
  addElement place (.text s)

/-- Begins a composite below another one and gives its place; it is no element
    yet. -/
def beginNested (place : Nat) (brackets : Brackets) : Action Nat := do
  checkOpen place
  let child := (← get).forest.size
  changeForest (·.beginUnder place brackets)
  return child

/-- Makes a composite an element of the one it was begun under. -/
def attachNested (place child : Nat) : Action Unit :=
  changeForest (·.attach place (.composite child))

/-- Writes a tree; fails at the first value in it that is not a fragment. -/
def writeTree (t : Tree) : Action Unit := do
  let w := t.write (← get).buffer
  changeBuffer fun _ => w.buffer
  match w.rejected with
  | none => return ()
  | some v =>
    discard (report (.fragment v))

/-- Writes the tree of a root, which closes it. -/
def writeInitializer (place : Nat) : Action Unit := do
  unless (← get).forest.isRoot place do throw .notOutermost
  checkOpen place
  changeForest (·.close place)
  let f := (← get).forest
  let t := f.tree place
  let ends := match t with
    | .node opening closing _ => opening ++ closing
    | .leaf _ => ""
  report (.record .debug .initializer ("Rendering " ++ ends ++ " initializer with " ++
    toString (f.elementCount place) ++ " element(s)"))
  writeTree t

end CxxWriter.Action
