/-
  Where the names in a template are kept.

  A template, and every loop and captured text in it, has a level of its own.
  A level holds a cell for each name that it reads first or assigns; names
  that it does not hold are those of the levels around it.  On entry to a
  level its cells are filled: from the context, from a cell around it, or not
  at all.  Which cell a name stands for is settled before anything is
  rendered, by looking through the statements of a level once:

  * a name that is read takes the cell of that name, and if there is none a
    new one that is filled from the context;
  * a name that is assigned takes a new cell of its level, filled from the
    cell around it if there is one;
  * a name that is assigned under a condition is filled in the same way when
    the condition may fail.

  Cells whose names differ only in how their characters are written are one.
-/
import CxxWriter.Template.Statement
import CxxWriter.Text.Normal

namespace CxxWriter.Template

/-- A place for a value. -/
structure Cell where
  level : Nat
  name : String
deriving DecidableEq, Repr

/-- The cell of a name at a level. -/
def Cell.ofName (level : Nat) (name : String) : Cell := ⟨level, Text.normal name⟩

/-- What a cell holds at first. -/
inductive Origin where
  /-- What it is given on entry. -/
  | parameter
  /-- The variable of the context. -/
  | context (name : String)
  /-- What another cell holds. -/
  | copy (source : Cell)
  | nothing
  /-- The blocks of the template. -/
  | ownBlocks
  /-- The block that the block of this name replaces. -/
  | replacedBlock (name : String)
deriving DecidableEq, Repr

/-- A name of a level with the origin of its cell. -/
structure Entry where
  name : String
  origin : Origin

/-- The names of one level. -/
structure Level where
  number : Nat
  /-- The names that have a cell, in the order in which the cells are
      filled. -/
  entries : List Entry
  /-- The names that are assigned. -/
  assigned : List String

/-- The names at a place: those of its level, and of the levels around it, the
    innermost first. -/
structure Symbols where
  own : Level
  outer : List Level

namespace Symbols

/-- No names, at the outermost level. -/
def start : Symbols := ⟨⟨0, [], []⟩, []⟩

/-- No names, at a level inside of another one. -/
def inside (s : Symbols) : Symbols := ⟨⟨s.own.number + 1, [], []⟩, s.own :: s.outer⟩

/-- The cell of a name in a list of levels. -/
def cellIn? (name : String) (levels : List Level) : Option Cell :=
  (levels.find? fun l => l.entries.any (·.name == name)).map fun l => .ofName l.number name

/-- The cell that a name stands for. -/
def cell? (s : Symbols) (name : String) : Option Cell := cellIn? name (s.own :: s.outer)

/-- Gives a name the origin of its cell; a name that is new comes last. -/
def setOrigin (name : String) (origin : Origin) : List Entry → List Entry
  | [] => [⟨name, origin⟩]
  | e :: es => if e.name = name then ⟨name, origin⟩ :: es else e :: setOrigin name origin es

/-- Sets the origin of a cell of the level. -/
def define (s : Symbols) (name : String) (origin : Origin) : Symbols :=
  { s with own := { s.own with entries := setOrigin name origin s.own.entries } }

/-- Notes that a name is assigned. -/
def noteAssigned (s : Symbols) (name : String) : Symbols :=
  if s.own.assigned.contains name then s
  else { s with own := { s.own with assigned := name :: s.own.assigned } }

/-- A name that is filled on entry. -/
def declare (s : Symbols) (name : String) (origin : Origin) : Symbols :=
  (s.noteAssigned name).define name origin

/-- A name that is read. -/
def read (s : Symbols) (name : String) : Symbols :=
  match s.cell? name with
  | some _ => s
  | none => s.define name (.context name)

/-- The origin of a cell that is assigned, or left as it is, at this level. -/
def outerOrigin? (s : Symbols) (name : String) : Option Origin :=
  (cellIn? name s.outer).map .copy

/-- A name that is assigned. -/
def assign (s : Symbols) (name : String) : Symbols :=
  let s := s.noteAssigned name
  if s.own.entries.any (·.name == name) then s
  else s.define name ((s.outerOrigin? name).getD .nothing)

def readAll (s : Symbols) (names : List String) : Symbols := names.foldl read s

def assignAll (s : Symbols) (names : List String) : Symbols := names.foldl assign s

/-- Takes over the names of a branch. -/
def takeOver (s branch : Symbols) : Symbols :=
  let s := branch.own.entries.foldl (fun s e => s.define e.name e.origin) s
  branch.own.assigned.foldl noteAssigned s

/-- Joins branches of which only one is taken.  What one of them assigns keeps
    its value from before in the others. -/
def join (s : Symbols) (branches : List Symbols) : Symbols :=
  let new := (branches.flatMap (·.own.assigned)).filter fun n => !s.own.assigned.contains n
  let s := branches.foldl takeOver s
  new.foldl (fun s n => s.define n ((s.outerOrigin? n).getD (.context n))) s

/-- The names that are assigned here and around, each with its cell. -/
def assignedCells (s : Symbols) : List (String × Cell) :=
  ((s.own :: s.outer).flatMap (·.assigned)).filterMap fun n => (s.cell? n).map (n, ·)

/-- The names that a statement of the level uses. -/
def notePieces (s : Symbols) (pieces : List (Piece String)) : Symbols :=
  pieces.foldl (fun s p =>
    match p with
    | .text _ => s
    | .value e => s.readAll e.variables) s

mutual

/-- Notes the names that a statement uses at its level. -/
def note (s : Symbols) : Statement → Symbols
  | .print pieces => s.notePieces pieces
  | .branch cases otherwise =>
    match cases with
    | [] => noteAll s otherwise
    | (e, body) :: cases =>
      let s := s.readAll e.variables
      s.join [noteAll s body, noteCases s cases, noteAll s otherwise]
  | .loop _ items _ _ _ _ => s.readAll items.variables
  | .assign target e => (s.readAll e.variables).assignAll target.variables
  | .capture target _ _ => s.assignAll target.variables
  | .includes e _ _ | .inherits e => s.readAll e.variables
  | .imports e name _ => (s.readAll e.variables).assign name
  | .block .. => s

/-- Notes the names that statements use. -/
def noteAll (s : Symbols) : List Statement → Symbols
  | [] => s
  | t :: ts => noteAll (note s t) ts

/-- Notes the names of the cases after the first. -/
def noteCases (s : Symbols) : List (Expr String × List Statement) → Symbols
  | [] => s
  | (e, body) :: cases =>
    let s := s.readAll e.variables
    noteCases (s.join [noteAll s body, s, s]) cases

end

/-! ## Levels -/

/-- The names of a template. -/
def ofTemplate (body : List Statement) : Symbols :=
  noteAll (if usesName "self" body then start.declare "self" .ownBlocks else start) body

/-- The names of a block. -/
def ofBlock (name : String) (body : List Statement) : Symbols :=
  let s := start
  let s := if usesName "self" body then s.declare "self" .ownBlocks else s
  let s := if usesName "super" body then s.declare "super" (.replacedBlock name) else s
  noteAll s body

/-- The names of a captured text. -/
def ofCapture (s : Symbols) (body : List Statement) : Symbols := noteAll s.inside body

/-- Names that are given with every item of a loop. -/
def declareAll (s : Symbols) (names : List String) : Symbols :=
  names.foldl (fun s n => s.declare n .parameter) s

/-- The names of the body of a loop; `tells` says whether the body asks for
    the loop. -/
def ofLoop (s : Symbols) (tells : Bool) (target : Target String) (body : List Statement) : Symbols :=
  let s := if tells then s.inside.declare "loop" .parameter else s.inside
  noteAll (s.declareAll target.variables) body

/-- The names of the condition of a loop. -/
def ofCondition (s : Symbols) (target : Target String) (condition : Expr String) : Symbols :=
  (s.inside.declareAll target.variables).readAll condition.variables

/-- The names of what is done if a loop has no items. -/
def ofOtherwise (s : Symbols) (otherwise : List Statement) : Symbols := noteAll s.inside otherwise

end Symbols

end CxxWriter.Template
