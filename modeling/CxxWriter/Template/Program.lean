/-
  Templates that are ready to be rendered.

  A program is the steps of a template or a block, with every name settled:
  a `Ref` tells the cell that a name stands for, and a `Fill` how a cell is
  filled when its level is entered.
-/
import CxxWriter.Template.Symbols

namespace CxxWriter.Template

/-- A name with the cell that it stands for. -/
structure Ref where
  name : String
  cell : Cell
deriving DecidableEq, Repr

/-- What a cell holds on entry to its level. -/
structure Fill where
  cell : Cell
  origin : Origin

/-- Names with cells, as they are passed on. -/
abbrev Exports := List (String × Cell)

/-- How a template that is included is looked up. -/
inductive Choosing where
  /-- By its name. -/
  | one
  /-- As the first that is there. -/
  | first
  /-- As told by the kind of the value. -/
  | either
deriving DecidableEq, Repr

/-- A step of a program. -/
inductive Step where
  /-- Prints, unless told not to once another template is extended. -/
  | print (unlessExtended : Bool) (pieces : List (Piece Ref))
  | branch (cases : List (Expr Ref × List Step)) (otherwise : List Step)
  /-- A loop.  `progress` is the cell of the loop itself if it is asked for. -/
  | loop (target : Target Ref) (items : Expr Ref) (condition : Option (List Fill × Expr Ref))
      (progress : Option Cell) (fills : List Fill) (body : List Step)
      (otherwiseFills : List Fill) (otherwise : List Step)
  /-- Assigns cells, and variables of the context. -/
  | assign (target : Target Ref) (e : Expr Ref) (exports : Exports)
  | capture (target : Target Ref) (filters : Expr Ref) (fills : List Fill) (body : List Step)
      (exports : Exports)
  | includes (e : Expr Ref) (choosing : Choosing) (ignoreMissing withContext : Bool)
      (exports : Exports)
  /-- Assigns what another template tells.  The names in `locals` are passed on if it is
      imported with the context. -/
  | imports (e : Expr Ref) (target : Ref) (locals : Option Exports) (exports : Exports)
  | inherits (e : Expr Ref)
  /-- Fails, unless told not to as long as no other template is extended. -/
  | inheritsAgain (ifExtended : Bool)
  /-- A block, which sees the names that are passed on to it if there are any. -/
  | block (name : String) (unlessExtended required : Bool) (exports : Option Exports)

/-- The steps of a template or a block, and the cells of their level. -/
structure Program where
  fills : List Fill
  steps : List Step

end CxxWriter.Template

namespace CxxWriter

/-- A template that is ready to be rendered.  Its blocks may be replaced by
    those of the templates that extend it. -/
structure Template where
  name : Option String
  root : Template.Program
  /-- The blocks by name. -/
  blocks : List (String × Template.Program)

instance : Inhabited Template := ⟨⟨none, ⟨[], []⟩, []⟩⟩

end CxxWriter
