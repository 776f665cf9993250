/-
  What a template is rendered with.

  A context holds the variables that the template was given, those it has
  assigned at its top level, which hide them, and the blocks that are in
  force: of each name a stack, the first of which replaces the others.
-/
import CxxWriter.Template.Library
import CxxWriter.Template.Program

namespace CxxWriter.Template

/-- The names that stand for something in every template. -/
def builtins : Bindings :=
  [("range", .builtin .range), ("dict", .builtin .dict), ("lipsum", .builtin .lipsum),
    ("cycler", .builtin .cycler), ("joiner", .builtin .joiner),
    ("namespace", .builtin .namespaceMaker)]

/-- A block, with the template that it is written in. -/
structure BlockCode where
  template : Option String
  program : Program

/-- The blocks in force. -/
abbrev Blocks := List (String × List BlockCode)

namespace Blocks

/-- The blocks of a name. -/
def stack (b : Blocks) (name : String) : List BlockCode := (b.lookup name).getD []

/-- Puts a block below those of its name. -/
def add (name : String) (code : BlockCode) : Blocks → Blocks
  | [] => [(name, [code])]
  | (n, s) :: b => if n = name then (n, s ++ [code]) :: b else (n, s) :: add name code b

/-- Puts the blocks of a template below those in force. -/
def extend (b : Blocks) (t : Template) : Blocks :=
  t.blocks.foldl (fun b e => b.add e.1 ⟨t.name, e.2⟩) b

def ofTemplate (t : Template) : Blocks := extend [] t

end Blocks

/-- What a template is rendered with. -/
structure Context where
  template : Option String
  given : Bindings
  assigned : Bindings
  blocks : Blocks
  /-- The names of imported templates. -/
  imported : List String

namespace Context

/-- The context of a template that is given variables. -/
def ofTemplate (t : Template) (given : Bindings) : Context :=
  ⟨t.name, given, [], .ofTemplate t, []⟩

/-- The variable of a name. -/
def get? (c : Context) (name : String) : Option Value :=
  c.assigned.get? name <|> c.given.get? name

/-- All variables. -/
def all (c : Context) : Bindings := c.assigned ++ c.given

/-- Assigns a variable. -/
def assign (c : Context) (name : String) (v : Value) : Context :=
  { c with assigned := (name, v) :: c.assigned.filter (·.1 != name),
           imported := c.imported.filter (· != name) }

/-- Notes that variables are imported templates. -/
def noteImported (c : Context) (names : List String) : Context :=
  { c with imported := names ++ c.imported }

/-- The variables that others see who import the template. -/
def members (c : Context) : Bindings :=
  c.assigned.filter fun e => !e.1.startsWith "_" && !c.imported.contains e.1

/-- The context of a block that sees some more names. -/
def derived (c : Context) (locals : Bindings) : Context :=
  { c with given := locals ++ c.all, assigned := [] }

/-- The blocks as a value. -/
def blocksValue (c : Context) : Value :=
  .blocks c.template (c.blocks.map fun b => (b.1, b.2.length))

end Context

/-! ## Cells -/

/-- The cells of a program while it runs. -/
abbrev Cells := List (Cell × Option Value)

namespace Cells

def get? (cs : Cells) (c : Cell) : Option Value := (cs.lookup c).join

def set (c : Cell) (v : Option Value) : Cells → Cells
  | [] => [(c, v)]
  | e :: es => if e.1 = c then (c, v) :: es else e :: set c v es

/-- Clears cells. -/
def clear (cs : Cells) (fills : List Fill) : Cells := fills.foldl (fun cs f => cs.set f.cell none) cs

/-- The values of names. -/
def exported (cs : Cells) (exports : Exports) : Bindings :=
  exports.filterMap fun e => (cs.get? e.2).map (e.1, ·)

end Cells

end CxxWriter.Template
