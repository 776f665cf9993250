/-
  Preparing templates.

  A template that has been read is turned into programs before it is rendered:
  names are settled, constant parts are computed, and faults are found that do
  not hang on what the template is given.

  A template may use only known filters and tests, define a block once, extend
  another one only at its top level, and may not assign `loop` in a loop.
  Below a condition a filter or test is looked up only when it is reached.
  What a template prints at its top level after it has extended another one is
  dropped, and is not looked at.
-/
import CxxWriter.Template.Constant
import CxxWriter.Template.Program

namespace CxxWriter.Template

/-! ## Standing -/

/-- Where a part of a template stands. -/
structure Standing where
  symbols : Symbols
  /-- The name of the template. -/
  template : Option String
  /-- At the top level, conditions not counted? -/
  top : Bool
  /-- At the top level and under no condition? -/
  root : Bool
  /-- Under a condition? -/
  soft : Bool
  /-- In a template that may have extended another one by then? -/
  checked : Bool
  /-- In a text that is captured? -/
  captured : Bool
  /-- The number of loops around it. -/
  loops : Nat
  /-- The number of statements around it. -/
  depth : Nat

namespace Standing

def underCondition (s : Standing) : Standing :=
  { s with root := false, soft := true, depth := s.depth + 1 }

/-- At a level of its own. -/
def inner (s : Standing) (symbols : Symbols) : Standing :=
  { s with symbols, top := false, root := false, soft := false }

def inLoop (s : Standing) (symbols : Symbols) : Standing :=
  { s.inner symbols with loops := s.loops + 1, depth := s.depth + 1 }

def inCapture (s : Standing) (symbols : Symbols) : Standing :=
  { s.inner symbols with checked := false, captured := true }

end Standing

/-- What preparing has found out so far. -/
structure Findings where
  /-- Does the template extend another one for certain? -/
  extended : Bool
  /-- Does it say so at all? -/
  mayExtend : Bool
  /-- Why the template is no program, other faults aside. -/
  fault : Option ValueFault

/-- Preparing, in order. -/
abbrev Preparer := StateT Findings Outcome

/-- Ends with a fault of the text. -/
def malformed (f : Malformed) : Preparer α := throw (.malformed f)

/-- Notes that the template is no program.  Nesting counts before the rest. -/
def noteFault (f : ValueFault) : Preparer Unit :=
  modify fun s => { s with fault := if f = .tooManyLevels then some f else s.fault <|> some f }

/-- The largest number of loops around a statement, and of statements around
    one. -/
def maxLoops : Nat := 20
def maxDepth : Nat := 99

/-- Notes a fault if so many loops and statements more nest too deep. -/
def noteNesting (s : Standing) (loops depth : Nat) : Preparer Unit := do
  if maxLoops < s.loops + loops then noteFault .badSyntax
  if maxDepth < s.depth + depth then noteFault .tooManyLevels

/-! ## Expressions -/

/-- The cell of a name. -/
def Standing.ref (s : Standing) (name : String) : Preparer Ref :=
  match s.symbols.cell? name with
  | some cell => return ⟨name, cell⟩
  | none => throw (.value .unknownName)

/-- The words of the language that programs are written in, which parameters
    cannot be called by. -/
def reservedWords : List String :=
  ["False", "None", "True", "and", "as", "assert", "async", "await", "break", "class", "continue",
    "def", "del", "elif", "else", "except", "finally", "for", "from", "global", "if", "import",
    "in", "is", "lambda", "nonlocal", "not", "or", "pass", "raise", "return", "try", "while",
    "with", "yield"]

/-- Does a list hold a name twice? -/
def holdsTwice : List String → Bool
  | [] => false
  | s :: ss => ss.contains s || holdsTwice ss

/-- The names of named arguments. -/
def parameterNames (names : List String) : Preparer (List String) := do
  if names.any reservedWords.contains then return names
  else
    let names := names.map Text.normal
    if holdsTwice names then noteFault .badSyntax
    return names

/-- A constant, which has to have a text. -/
def prepareConstant (v : Value) : Preparer (Expr Ref) :=
  if v.isWritable then return .constant v else throw (.value .badValue)

/-- The value whose text follows the minus at the front of the text of a
    number. -/
def afterMinus? : Value → Option Value
  | .int n => if n < 0 then some (.int (-n)) else none
  | .float x => if Double.isNegative x then some (.float (-x)) else none
  | .complex re im =>
    if re == 0.0 && !Double.isNegative re && Double.isNegative im then some (.complex re (-im))
    else none
  | _ => none

/-- A power.  A minus at the front of a constant base is that of the power. -/
def powerOf : Expr Ref → Expr Ref → Expr Ref
  | .constant v, b =>
    match afterMinus? v with
    | some w => .negate (.binary .pow (.constant w) b)
    | none => .binary .pow (.constant v) b
  | a, b => .binary .pow a b

/-- Is a place in a template of this name told in words that can be
    written? -/
def isQuotable (template : Option String) : Bool :=
  match template with
  | some name => !(name.contains '\'' || name.contains '"')
  | none => true

section

variable (s : Standing) (again : Bool → Expr String → Preparer (Expr Ref))

/-- Prepares the values of arguments. -/
def prepareNamed (soft : Bool) (named : List (String × Expr String)) :
    Preparer (List (String × Expr Ref)) := do
  let values ← named.mapM fun a => again soft a.2
  return (← parameterNames (named.map (·.1))).zip values

/-- Prepares the parts of an expression whose constant parts have been
    computed. -/
def prepareParts (soft : Bool) : Expr String → Preparer (Expr Ref)
  | .constant v => prepareConstant v
  | .variable name => return .variable (← s.ref name)
  | .captured => return .captured
  | .list items => return .list (← items.mapM (again soft))
  | .tuple items => return .tuple (← items.mapM (again soft))
  | .dict entries => return .dict (← entries.mapM fun (k, v) => do
    let k ← again soft k
    return (k, ← again soft v))
  | .member e name => return .member (← again soft e) name
  | .item e key => do
    let e ← again soft e
    return .item e (← again soft key)
  | .call f args named => do
    let f ← again soft f
    let args ← args.mapM (again soft)
    return .call f args (← prepareNamed again soft named)
  | .filter e name args named => do
    if !soft && !filterNames.contains name then malformed (.unknownFilter name)
    let e ← again soft e
    let args ← args.mapM (again soft)
    return .filter e name args (← prepareNamed again soft named)
  | .test e name args named => do
    if !soft && !testNames.contains name then malformed (.unknownTest name)
    let e ← again soft e
    let args ← args.mapM (again soft)
    return .test e name args (← prepareNamed again soft named)
  | .negate e => return .negate (← again soft e)
  | .posit e => return .posit (← again soft e)
  | .not e => return .not (← again soft e)
  | .and a b => do
    let a ← again soft a
    return .and a (← again soft b)
  | .or a b => do
    let a ← again soft a
    return .or a (← again soft b)
  | .binary op a b => do
    let a ← again soft a
    let b ← again soft b
    return if op = .pow then powerOf a b else .binary op a b
  | .concat parts => return .concat (← parts.mapM (again soft))
  | .compare first rest => do
    let first ← again soft first
    return .compare first (← rest.mapM fun (r, e) => return (r, ← again soft e))
  | .choice line condition a b => do
    let a ← again true a
    let condition ← again true condition
    match b with
    | some b => return .choice line condition a (some (← again true b))
    | none =>
      unless isQuotable s.template do noteFault .badSyntax
      return .choice line condition a none

end

/-- Is the expression a list, tuple or dictionary that is written out?  Its
    items are computed one by one. -/
def Expr.isDisplay : Expr ν → Bool
  | .list _ | .tuple _ | .dict _ => true
  | _ => false

/-- Prepares an expression whose parts nest at most as deep as told: computes
    its constant parts, and prepares what is left. -/
def prepareExpr (s : Standing) : Nat → Bool → Expr String → Preparer (Expr Ref)
  | 0, _, _ => throw (.value .tooDeep)
  | fuel + 1, soft, e => do
    let e ← if e.isDisplay then pure e else (e.fold : Outcome (Expr String))
    prepareParts s (prepareExpr s fuel) soft e

mutual

/-- How deep the parts of an expression nest. -/
def Expr.depth : Expr ν → Nat
  | .constant _ | .variable _ | .captured => 1
  | .list es | .tuple es | .concat es => depthOf es + 1
  | .dict entries => entriesDepth entries + 1
  | .member e _ | .negate e | .posit e | .not e => e.depth + 1
  | .item a b | .and a b | .or a b | .binary _ a b => max a.depth b.depth + 1
  | .call f args named => max f.depth (max (depthOf args) (namedDepth named)) + 1
  | .filter e _ args named | .test e _ args named =>
    max e.depth (max (depthOf args) (namedDepth named)) + 1
  | .compare first rest => max first.depth (relationsDepth rest) + 1
  | .choice _ condition a b =>
    max condition.depth (max a.depth (match b with
      | some b => b.depth
      | none => 0)) + 1

def depthOf : List (Expr ν) → Nat
  | [] => 0
  | e :: es => max e.depth (depthOf es)

def entriesDepth : List (Expr ν × Expr ν) → Nat
  | [] => 0
  | (k, v) :: es => max (max k.depth v.depth) (entriesDepth es)

def namedDepth : List (String × Expr ν) → Nat
  | [] => 0
  | (_, e) :: es => max e.depth (namedDepth es)

def relationsDepth : List (Relation × Expr ν) → Nat
  | [] => 0
  | (_, e) :: es => max e.depth (relationsDepth es)

end

/-- Prepares an expression. -/
def Standing.prepare (s : Standing) (e : Expr String) : Preparer (Expr Ref) :=
  prepareExpr s (e.depth + 1) s.soft e

/-- Prepares a target. -/
def Standing.prepareTarget (s : Standing) (t : Target String) : Target Ref :=
  t.map fun name => ⟨name, (s.symbols.cell? name).getD (.ofName s.symbols.own.number name)⟩

/-! ## Statements -/

/-- The text that an expression prints, if it is known now. -/
def constantText? (e : Expr String) : Outcome (Option String) :=
  try
    match ← e.constant?.run with
    | some v => some <$> printed v
    | none => return none
  catch _ => return none

/-- Tries what is printed. -/
def tryPiece : Piece String → Outcome (Piece String)
  | .text t => return .text t
  | .value e => do
    match ← constantText? e with
    | some t => return .text t
    | none => return .value e

/-- Prepares what is printed. -/
def preparePiece (s : Standing) : Piece String → Preparer (Piece Ref)
  | .text t => return .text t
  | .value e => return .value (← s.prepare e)

/-- The cells that are filled on entry to a level. -/
def Symbols.fills (s : Symbols) : List Fill :=
  s.own.entries.map fun e => ⟨.ofName s.own.number e.name, e.origin⟩

/-- The variables of the context that an assignment sets. -/
def Standing.exports (s : Standing) (target : Target String) : Exports :=
  if s.top then target.variables.eraseDups.filterMap fun n => (s.symbols.cell? n).map (n, ·) else []

/-- How a template that is included is looked up. -/
def choosingOf : Expr String → Choosing
  | .constant (.text _) => .one
  | .list _ | .tuple _ => .first
  | _ => .either

/-- Does a loop have to be kept account of? -/
def tellsProgress (recursive : Bool) (body otherwise : List Statement) : Bool :=
  recursive || usesName "loop" body || (blocksOf (body ++ otherwise)).any (·.seesLocals)

/-- Prepares an extension of another template.  The second of two for certain
    ends the statements around it. -/
def prepareExtends (s : Standing) (e : Expr String) : Preparer (List Step × Bool) := do
  unless s.top do malformed .nestedExtends
  let found ← get
  noteNesting s 1 1
  if found.mayExtend && found.extended then return ([.inheritsAgain false], true)
  let e ← s.prepare e
  modify fun f => { f with extended := f.extended || s.root, mayExtend := true }
  return ((if found.mayExtend then [.inheritsAgain true] else []) ++ [.inherits e], false)

/-- Prepares the place of a block. -/
def prepareBlock (s : Standing) (name : String) (seesLocals required : Bool) :
    Preparer (List Step) := do
  let found ← get
  if s.top && found.extended then return []
  else
    let under := if s.top && found.mayExtend then 1 else 0
    noteNesting s (if s.captured then 1 else 0)
      (under + (if required || s.captured then 1 else 0))
    return [.block name (s.top && found.mayExtend) required
      (if seesLocals then some s.symbols.assignedCells else none)]

mutual

/-- Prepares a statement; tells whether the statements around it end there. -/
def prepareStatement (s : Standing) : Statement → Preparer (List Step × Bool)
  | .print pieces => do
    if s.checked && (← get).extended then return ([], false)
    if s.checked then noteNesting s 0 1
    let pieces ← pieces.mapM fun p => (tryPiece p : Outcome (Piece String))
    return ([.print s.checked (← pieces.mapM (preparePiece s))], false)
  | .branch cases otherwise => do
    let inner := s.underCondition
    noteNesting inner 0 0
    let cases ← prepareCases inner cases
    return ([.branch cases (← prepareAll inner otherwise)], false)
  | .loop target items condition recursive body otherwise => do
    let tells := tellsProgress recursive body otherwise
    let symbols := Symbols.ofLoop s.symbols tells target body
    let inner := s.inLoop symbols
    noteNesting inner 0 0
    let condition ← match condition with
      | some e => do
        noteNesting s 0 3
        let symbols := Symbols.ofCondition s.symbols target e
        pure (some (symbols.fills, ← (s.inner symbols).prepare e))
      | none => pure none
    if isAssigned "loop" (target.mentions ++ mentionsIn true (body ++ otherwise)) then
      malformed .loopAssigned
    let items ← s.prepare items
    let body ← prepareAll inner body
    let outer := Symbols.ofOtherwise s.symbols otherwise
    let otherwise ← prepareAll { s.inner outer with depth := s.depth + 1 } otherwise
    let progress := if tells then symbols.cell? "loop" else none
    return ([.loop (inner.prepareTarget target) items condition progress symbols.fills body
      outer.fills otherwise], false)
  | .assign target e => do
    return ([.assign (s.prepareTarget target) (← s.prepare e) (s.exports target)], false)
  | .capture target filters body => do
    let symbols := Symbols.ofCapture s.symbols body
    let inner := s.inCapture symbols
    let body ← prepareAll inner body
    let filters ← inner.prepare filters
    return ([.capture (s.prepareTarget target) filters symbols.fills body (s.exports target)],
      false)
  | .includes e ignoreMissing withContext => do
    noteNesting s (if ignoreMissing || withContext then 1 else 0)
      ((if ignoreMissing then 1 else 0) + (if withContext then 1 else 0))
    let choosing := choosingOf e
    return ([.includes (← s.prepare e) choosing ignoreMissing withContext
      (if withContext then s.symbols.assignedCells else [])], false)
  | .imports e name withContext => do
    let target := Target.variable name
    let locals := if withContext then some s.symbols.assignedCells else none
    return ([.imports (← s.prepare e) (← s.ref name) locals (s.exports target)], false)
  | .inherits e => prepareExtends s e
  | .block name seesLocals required _ => do
    return (← prepareBlock s name seesLocals required, false)

/-- Prepares statements in order. -/
def prepareAll (s : Standing) : List Statement → Preparer (List Step)
  | [] => return []
  | t :: ts => do
    let (steps, ends) ← prepareStatement s t
    if ends then return steps else return steps ++ (← prepareAll s ts)

/-- Prepares the cases of a branch in order. -/
def prepareCases (s : Standing) :
    List (Expr String × List Statement) → Preparer (List (Expr Ref × List Step))
  | [] => return []
  | (e, body) :: cs => do
    let e ← s.prepare e
    let body ← prepareAll s body
    return (e, body) :: (← prepareCases s cs)

end

/-! ## Templates -/

/-- The first name that occurs twice. -/
def firstTwice? (seen : List String) : List String → Option String
  | [] => none
  | s :: ss => if seen.contains s then some s else firstTwice? (s :: seen) ss

/-- Prepares the statements at a level of their own. -/
def prepareProgram (template : Option String) (symbols : Symbols) (isRoot : Bool)
    (body : List Statement) : Preparer Program := do
  let steps ← prepareAll
    { symbols, template, top := isRoot, root := isRoot, soft := false,
      checked := isRoot && haveExtends body, captured := false, loops := 0, depth := 1 } body
  return ⟨symbols.fills, steps⟩

/-- The program of a block: of blocks whose names are written in several ways
    the last one counts. -/
def programOf (name : String) (blocks : List (String × Program)) : Program :=
  ((blocks.reverse.find? fun b => Text.normal b.1 == Text.normal name).map (·.2)).getD ⟨[], []⟩

/-- Prepares a template. -/
def prepareTemplate (name : Option String) (body : List Statement) : Preparer Template := do
  let blocks := blocksOf body
  match firstTwice? [] (blocks.map (·.name)) with
  | some block => malformed (.blockTwice block)
  | none =>
    let root ← prepareProgram name (.ofTemplate body) true body
    let programs ← blocks.mapM fun b => do
      return (b.name, ← prepareProgram name (.ofBlock b.name b.body) false b.body)
    match (← get).fault with
    | some f => throw (.value f)
    | none => return ⟨name, root, programs.map fun p => (p.1, programOf p.1 programs)⟩

end CxxWriter.Template
