/-
  Rendering templates.

  A program prints text, assigns names and may extend or include other
  templates.  Everything that is rendered on its own, such as a block or an
  included template, is a `Request`; requests nest, and `render` bounds how
  deep.
-/
import CxxWriter.Template.Context
import CxxWriter.Template.Evaluate
import CxxWriter.Template.Module
import CxxWriter.Template.Read

namespace CxxWriter.Template

/-- Something that is rendered on its own. -/
structure Request where
  program : Program
  context : Context
  /-- The template that the program is written in. -/
  template : Option String
  /-- How many blocks come before it if it is a block. -/
  before : Nat

/-- A template that has been found. -/
structure Found where
  loaded : LoadedTemplate
  template : Template

/-- What a program needs to run. -/
structure Machine where
  /-- Are there template files? -/
  hasFiles : Bool
  template : Option String
  /-- How many blocks come before the one that runs. -/
  before : Nat
  /-- Renders what is rendered on its own.  Gives its text and what has become of its
      context. -/
  enter : Request → Rendition (String × Context)

/-- How far a program has come. -/
structure Progress where
  cells : Cells
  context : Context
  /-- What has been printed. -/
  text : String
  /-- What has been captured, if a text is being captured. -/
  capture : Option String
  /-- The template that is extended. -/
  parent : Option Template

namespace Progress

/-- Prints. -/
def write (p : Progress) (s : String) : Progress :=
  match p.capture with
  | some t => { p with capture := some (t ++ s) }
  | none => { p with text := p.text ++ s }

/-- Clears the cells of a level. -/
def leave (p : Progress) (fills : List Fill) : Progress := { p with cells := p.cells.clear fills }

/-- Passes assigned names on to the context. -/
def exportAll (p : Progress) (exports : Exports) : Progress :=
  { p with context := (p.cells.exported exports).foldl (fun c e => c.assign e.1 e.2) p.context }

end Progress

/-! ## Looking up templates -/

/-- A loaded template, read once more. -/
def Found.ofLoaded (t : LoadedTemplate) : Except Failure Found :=
  (read t.name t.source).1.map fun template => ⟨t, template⟩

/-- Finds a template by a name that may be of any kind. -/
def find (hasFiles : Bool) (name : Value) : Rendition Found := do
  match name with
  | .text s =>
    match Found.ofLoaded (← Rendition.lookUp s) with
    | .ok found => return found
    | .error f => throw f
  | .absent why _ => notThere why
  | v =>
    checkKey v
    if hasFiles then
      match v with
      | .bytes _ => faulty .wrongKind
      | _ => faulty .noAttribute
    throw (.notFound (← printed v))

/-- Is the template only not found? -/
def Failure.isNotFound : Failure → Bool
  | .notFound _ | .noneFound _ => true
  | _ => false

/-- Is the failure one of those for which the next template is tried? -/
def Failure.isPassedOver : Failure → Bool
  | .notFound _ | .noneFound _ | .absent _ => true
  | _ => false

/-- What messages call a name that has not been found. -/
def nameText : Value → Outcome String
  | .absent why _ =>
    match why.message? with
    | some m => return m
    | none => faulty .badValue
  | v => printed v

/-- Fails as none of the names has been found; the names have to have a last
    one. -/
def failNone (names : Value) (items : List Value) : Outcome Found := do
  let texts ← items.mapM nameText
  match names with
  | .dict entries => if (Value.lookup? entries (.int (-1))).isNone then faulty .noKey
  | .view .. | .loop _ => faulty .wrongKind
  | _ => pure ()
  throw (.noneFound texts)

/-- Finds the first template that there is. -/
def findFirst (hasFiles : Bool) : List Value → Rendition (Option Found)
  | [] => return none
  | v :: vs => do
    let found ← try some <$> find hasFiles v
      catch f => if f.isPassedOver then pure none else throw f
    match found with
    | some t => return some t
    | none => findFirst hasFiles vs

/-- Finds the first template of several names. -/
def findAny (hasFiles : Bool) (names : Value) : Rendition Found := do
  match names with
  | .absent why _ => notThere why
  | names =>
    if ← truth names then
      let items ← itemsOf names
      match ← findFirst hasFiles items with
      | some t => return t
      | none => failNone names items
    else throw (.noneFound [])

/-- Finds the template that is included. -/
def choose (hasFiles : Bool) (choosing : Choosing) (v : Value) : Rendition Found :=
  match choosing, v with
  | .one, v => find hasFiles v
  | .first, v => findAny hasFiles v
  | .either, .text s => find hasFiles (.text s)
  | .either, v => findAny hasFiles v

/-! ## Assignment -/

/-- As many items of a value as told. -/
def unpacked (count : Nat) (v : Value) : Outcome (List Value) := do
  let items := (← supplyOf v).take (count + 1)
  if items.length = count then return items else faulty .badValue

mutual

/-- Assigns a value to a target. -/
def Target.assign : Target Ref → Value → Cells → Outcome Cells
  | .variable x, v, cs => return cs.set x.cell (some v)
  | .tuple ts, v, cs => do assignEach ts (← unpacked ts.length v) cs

/-- Assigns values to targets in order. -/
def assignEach : List (Target Ref) → List Value → Cells → Outcome Cells
  | t :: ts, v :: vs, cs => do assignEach ts vs (← t.assign v cs)
  | _, _, cs => return cs

end

mutual

/-- The value that a target has been assigned, taken apart. -/
def Target.value (cs : Cells) : Target Ref → Value
  | .variable x => (cs.get? x.cell).getD .null
  | .tuple ts => .tuple (valuesOf cs ts)

def valuesOf (cs : Cells) : List (Target Ref) → List Value
  | [] => []
  | t :: ts => t.value cs :: valuesOf cs ts

end

section

variable (m : Machine)

/-! ## Blocks -/

/-- Renders the block of a name that comes after `before` others. -/
def enterBlock (c : Context) (name : String) (before : Nat) : Rendition String :=
  match (c.blocks.stack name)[before]? with
  | some code => Prod.fst <$> m.enter ⟨code.program, c, code.template, before⟩
  | none => faulty .noKey

/-- The block that the running one replaces. -/
def replaced (c : Context) (name : String) : Outcome Value :=
  replacedBlock name m.before ((c.blocks.stack name).length - m.before - 1)

/-! ## Levels -/

/-- What a cell holds on entry. -/
def firstValue (c : Context) (cs : Cells) : Origin → Outcome (Option Value)
  | .parameter | .nothing => return none
  | .context name => return c.get? name
  | .copy source => return cs.get? source
  | .ownBlocks => return some c.blocksValue
  | .replacedBlock name => some <$> replaced m c name

/-- Fills the cells of a level; those that hold nothing come last. -/
def fillCells (c : Context) (fills : List Fill) (cs : Cells) : Outcome Cells := do
  let cs ← fills.foldlM (fun cs f =>
    match f.origin with
    | .parameter | .nothing => return cs
    | origin => return cs.set f.cell (← firstValue m c cs origin)) cs
  return fills.foldl (fun cs f => if f.origin = .nothing then cs.set f.cell none else cs) cs

/-- Enters a level. -/
def Progress.fill (p : Progress) (fills : List Fill) : Outcome Progress :=
  return { p with cells := ← fillCells m p.context fills p.cells }

/-- What the values of expressions hang on. -/
def Progress.surroundings (p : Progress) : Surroundings :=
  { template := m.template, inCell := p.cells.get?, captured := p.capture.getD "",
    blockText := enterBlock m p.context }

/-- The value of an expression. -/
def Progress.eval (p : Progress) (e : Expr Ref) : Rendition Value := e.eval (p.surroundings m)

/-! ## Loops -/

/-- Picks the items for which the condition of a loop is true, up to the first
    failure. -/
def pickItems (p : Progress) (target : Target Ref) (condition : Expr Ref) :
    List Value → Rendition (List Value × Option Failure)
  | [] => return ([], none)
  | v :: vs => do
    let picked : Except Failure (Option Value) ←
      try
        let cells ← target.assign v p.cells
        let p := { p with cells }
        if ← truth (← p.eval m condition) then pure (.ok (some (target.value cells)))
        else pure (.ok none)
      catch f => pure (.error f)
    match picked with
    | .error f => return ([], some f)
    | .ok x =>
      let (rest, failure) ← pickItems p target condition vs
      return (x.toList ++ rest, failure)

/-- Enters a loop over the items of a value; gives its label and the number of
    items that it may have. -/
def startLoop (p : Progress) (target : Target Ref) (condition : Option (List Fill × Expr Ref))
    (v : Value) : Rendition (Nat × Nat) := do
  let supply ← supplyOf v
  match condition with
  | none => return (← enterLoop supply none (some supply.size), supply.size)
  | some (fills, e) =>
    let inner ← p.fill m fills
    let (items, failure) ← pickItems m inner target e supply.toList
    return (← enterLoop (.items items) failure none, items.length)

/-- Carries out the body of a loop for its items, no more than `fuel` of
    them. -/
def runItems (target : Target Ref) (label : Nat) (progress : Option Cell) (fills : List Fill)
    (body : Progress → Rendition Progress) : Nat → Progress → Rendition Progress
  | 0, p => return p
  | fuel + 1, p => do
    match ← takeItem label with
    | none => return p
    | some v =>
      let cells ← target.assign v p.cells
      let cells := match progress with
        | some c => cells.set c (some (.loop label))
        | none => cells
      let p ← { p with cells }.fill m fills
      runItems target label progress fills body fuel (← body p)

/-! ## Steps -/

/-- Prints. -/
def printPieces (p : Progress) : List (Piece Ref) → Rendition Progress
  | [] => return p
  | .text s :: ps => printPieces (p.write s) ps
  | .value e :: ps => do
    let s ← printed (← p.eval m e)
    printPieces (p.write s) ps

/-- Renders a template that is included. -/
def include_ (p : Progress) (t : Template) (withContext : Bool) (exports : Exports) :
    Rendition Progress := do
  if withContext then
    let given := p.cells.exported exports ++ p.context.all
    return p.write (← m.enter ⟨t.root, .ofTemplate t given, t.name, 0⟩).1
  else
    let (s, _) ← m.enter ⟨t.root, .ofTemplate t builtins, t.name, 0⟩
    return { p with text := p.text ++ s }

/-- Finds the template that is included, unless it may be missing and is. -/
def findIncluded (p : Progress) (e : Expr Ref) (choosing : Choosing) (ignoreMissing : Bool) :
    Rendition (Option Template) :=
  try (fun found => some found.template) <$> (do choose m.hasFiles choosing (← p.eval m e))
  catch f => if ignoreMissing && f.isNotFound then pure none else throw f

/-- Extends a template. -/
def inherit (p : Progress) (e : Expr Ref) : Rendition Progress := do
  let t := (← find m.hasFiles (← p.eval m e)).template
  return { p with
    parent := some t, context := { p.context with blocks := p.context.blocks.extend t } }

/-! ## Importing -/

/-- Renders a template to see what it tells. -/
def makeModule (t : Template) (given : Bindings) : Rendition Nat := do
  let (text, context) ← m.enter ⟨t.root, .ofTemplate t given, t.name, 0⟩
  newModule ⟨text, context.members⟩

/-- The module of a template, which is rendered unless that has been done before. -/
def sharedModule (found : Found) : Rendition Nat := do
  let name := found.loaded.name.getD ""
  match (← (get : Outcome Memory)).imported.lookup name with
  | some label => return label
  | none =>
    let label ← match ← restore found.loaded.state with
      | some label => pure label
      | none => makeModule m found.template builtins
    noteModule name label
    return label

/-- Assigns what another template tells. -/
def import_ (p : Progress) (e : Expr Ref) (target : Ref) (locals : Option Exports)
    (exports : Exports) : Rendition Progress := do
  let found ← find m.hasFiles (← p.eval m e)
  let label ← match locals with
    | some names => makeModule m found.template (p.cells.exported names ++ p.context.all)
    | none => sharedModule m found
  let cells := p.cells.set target.cell (some (.module found.loaded.name label))
  let p := { p with cells }.exportAll exports
  return { p with context := p.context.noteImported (exports.map (·.1)) }

/-- Renders the block that is in force at its place. -/
def placeBlock (p : Progress) (name : String) (required : Bool) (exports : Option Exports) :
    Rendition Progress := do
  if required && (p.context.blocks.stack name).length ≤ 1 then throw (.requiredBlock name)
  let c := match exports with
    | some exports => p.context.derived (p.cells.exported exports)
    | none => p.context
  return p.write (← enterBlock m c name 0)

mutual

/-- Carries out a step. -/
def Step.run : Step → Progress → Rendition Progress
  | .print unlessExtended pieces, p =>
    if unlessExtended && p.parent.isSome then return p else printPieces m p pieces
  | .branch cases otherwise, p => do
    match ← runCases cases p with
    | some p => return p
    | none => runAll otherwise p
  | .loop target items condition progress fills body otherwiseFills otherwise, p => do
    let (label, count) ← startLoop m p target condition (← p.eval m items)
    let p ← runItems m target label progress fills (fun p => runAll body p) (count + 1) p
    let taken := (← loopState label).taken
    leaveLoop label
    let p := p.leave fills
    if taken ≠ 0 then return p
    else
      let p ← p.fill m otherwiseFills
      let p ← runAll otherwise p
      return p.leave otherwiseFills
  | .assign target e exports, p => do
    let cells ← target.assign (← p.eval m e) p.cells
    return { p with cells }.exportAll exports
  | .capture target filters fills body exports, p => do
    let inner ← { p with capture := some "" }.fill m fills
    let inner ← runAll body inner
    let v ← inner.eval m filters
    let inner := { inner with capture := p.capture }
    let cells ← target.assign v inner.cells
    return ({ inner with cells }.exportAll exports).leave fills
  | .includes e choosing ignoreMissing withContext exports, p => do
    match ← findIncluded m p e choosing ignoreMissing with
    | some t => include_ m p t withContext exports
    | none => return p
  | .imports e target locals exports, p => import_ m p e target locals exports
  | .inherits e, p => inherit m p e
  | .inheritsAgain ifExtended, p =>
    if ifExtended && p.parent.isNone then return p else throw .extendedTwice
  | .block name unlessExtended required exports, p =>
    if unlessExtended && p.parent.isSome then return p else placeBlock m p name required exports

/-- Carries out steps in order. -/
def runAll : List Step → Progress → Rendition Progress
  | [], p => return p
  | s :: ss, p => do runAll ss (← s.run p)

/-- Carries out the first case whose condition is true, if there is one. -/
def runCases : List (Expr Ref × List Step) → Progress → Rendition (Option Progress)
  | [], _ => return none
  | (e, body) :: cs, p => do
    if ← truth (← p.eval m e) then some <$> runAll body p else runCases cs p

end

end

/-- The text that a request comes to and what becomes of its context, with requests
    nested at most as deep as told. -/
def render (hasFiles : Bool) : Nat → Request → Rendition (String × Context)
  | 0, _ => faulty .tooDeep
  | depth + 1, r => do
    let enter := render hasFiles depth
    let m : Machine := ⟨hasFiles, r.template, r.before, enter⟩
    let p : Progress := ⟨[], r.context, "", none, none⟩
    let p ← runAll m r.program.steps (← p.fill m r.program.fills)
    match p.parent with
    | none => return (p.text, p.context)
    | some t =>
      let (text, context) ← enter ⟨t.root, p.context, t.name, 0⟩
      return (p.text ++ text, context)

/-- How deep requests may nest. -/
def maxRequests : Nat := 900

/-- Renders a template that is given variables. -/
def renderTemplate (hasFiles : Bool) (t : Template) (given : Bindings) : Rendition String := do
  let given ← given.mapM fun e => return (e.1, ← labelled e.2)
  Prod.fst <$> render hasFiles maxRequests ⟨t.root, .ofTemplate t (given ++ builtins), t.name, 0⟩

end CxxWriter.Template
