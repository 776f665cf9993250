/-
  Constant parts of templates.

  When a template is read, its expressions are tried without variables.  A
  trial that comes to a value which can be written out replaces the
  expression.  `fold` tries an expression after its parts.

  Trials are not without effect.  One that meets a value which is no fragment
  leaves a record of it.  One that meets a value which is not there, or whose
  key cannot be one, fails the template, unless that happens within an
  operation that lets no failure out.
-/
import CxxWriter.Template.Filter

namespace CxxWriter.Template

/-- A trial: a value, if the expression comes to one. -/
abbrev Trial := OptionT Outcome

namespace Trial

/-- An operation without a result in the place of one that fails.  What it
    records stays. -/
def guarded (t : Trial α) : Trial α := OptionT.mk do
  try t.run
  catch f =>
    match f with
    | .notFragment v => modify fun m => { m with rejected := m.rejected ++ [v] }
    | _ => pure ()
    return none

/-- An expression that comes to no value. -/
def unknown : Trial α := OptionT.mk (return none)

end Trial

open Trial (guarded unknown)

mutual

/-- The value of an expression without variables. -/
def Expr.constant? : Expr ν → Trial Value
  | .constant v => return v
  | .variable _ | .captured | .call .. => unknown
  | .list items => return .list (← constants items)
  | .tuple items => return .tuple (← constants items)
  | .dict entries => return .dict (← constantEntries entries [])
  | .member e name => guarded do member (← e.constant?) name
  | .item e key => guarded do
    let v ← e.constant?
    subscripted v (← key.constant?)
  | .filter .captured _ _ _ => unknown
  | .filter e name args named =>
    if filterNames.contains name then do
      let args ← constants args
      let named ← constantNamed named
      let v ← e.constant?
      guarded (applyFilter name v ⟨args, named⟩)
    else unknown
  | .test e name args named =>
    if testNames.contains name then do
      let args ← constants args
      let named ← constantNamed named
      let v ← e.constant?
      guarded do return .bool (← applyTest name v ⟨args, named⟩)
    else unknown
  | .negate e => guarded do negated (← e.constant?)
  | .posit e => guarded do posited (← e.constant?)
  | .not e => guarded do return .bool (!(← truth (← e.constant?)))
  | .and a b => do
    let x ← a.constant?
    if ← truth x then b.constant? else return x
  | .or a b => do
    let x ← a.constant?
    if ← truth x then return x else b.constant?
  | .binary op a b => guarded do
    let x ← a.constant?
    applyOperator op x (← b.constant?)
  | .concat parts => return .text (String.join (← constantTexts parts))
  | .compare first rest => do
    let x ← first.constant?
    guarded (constantRelations x rest)
  | .choice _ condition a b => do
    if ← truth (← condition.constant?) then a.constant?
    else match b with
      | some b => b.constant?
      | none => unknown

def constants : List (Expr ν) → Trial (List Value)
  | [] => return []
  | e :: es => do
    let v ← e.constant?
    return v :: (← constants es)

def constantTexts : List (Expr ν) → Trial (List String)
  | [] => return []
  | e :: es => do
    let s ← printed (← e.constant?)
    return s :: (← constantTexts es)

def constantEntries :
    List (Expr ν × Expr ν) → List (Value × Value) → Trial (List (Value × Value))
  | [], found => return found
  | (k, v) :: es, found => do
    let key ← k.constant?
    let value ← v.constant?
    checkKey key
    constantEntries es (Value.insertEntry key value found)

def constantNamed : List (String × Expr ν) → Trial (List (String × Value))
  | [] => return []
  | (name, e) :: es => do
    let v ← e.constant?
    return (name, v) :: (← constantNamed es)

def constantRelations (x : Value) : List (Relation × Expr ν) → Trial Value
  | [] => return .bool true
  | (r, e) :: es => do
    let y ← e.constant?
    if ← related r x y then constantRelations y es else return .bool false

end

mutual

/-- Can a value be written out in the place of an expression? -/
def isPlain : Value → Bool
  | .null | .bool _ | .int _ | .float _ | .notNumber none _ | .complex .. | .text _ | .range .. => true
  | .list items | .tuple items => arePlain items
  | .dict entries => areEntriesPlain entries
  | _ => false

def arePlain : List Value → Bool
  | [] => true
  | v :: vs => isPlain v && arePlain vs

def areEntriesPlain : List (Value × Value) → Bool
  | [] => true
  | (k, v) :: es => isPlain k && isPlain v && areEntriesPlain es

end

/-- An expression, or the value that it comes to. -/
def settle (e : Expr ν) : Outcome (Expr ν) := do
  match ← e.constant?.run with
  | some v => return if isPlain v then .constant v else e
  | none => return e

mutual

/-- An expression with its constant parts replaced by their values. -/
def Expr.fold : Expr ν → Outcome (Expr ν)
  | .constant v => return .constant v
  | .variable x => return .variable x
  | .captured => return .captured
  | .list items => do settle (.list (← foldAll items))
  | .tuple items => do settle (.tuple (← foldAll items))
  | .dict entries => do settle (.dict (← foldEntries entries))
  | .member e name => do settle (.member (← e.fold) name)
  | .item e key => do
    let e ← e.fold
    settle (.item e (← key.fold))
  | .call f args named => do
    let f ← f.fold
    let args ← foldAll args
    return .call f args (← foldNamed named)
  | .filter e name args named => do
    let e ← e.fold
    let args ← foldAll args
    settle (.filter e name args (← foldNamed named))
  | .test e name args named => do
    let e ← e.fold
    let args ← foldAll args
    settle (.test e name args (← foldNamed named))
  | .negate e => do settle (.negate (← e.fold))
  | .posit e => do settle (.posit (← e.fold))
  | .not e => do settle (.not (← e.fold))
  | .and a b => do
    let a ← a.fold
    settle (.and a (← b.fold))
  | .or a b => do
    let a ← a.fold
    settle (.or a (← b.fold))
  | .binary op a b => do
    let a ← a.fold
    settle (.binary op a (← b.fold))
  | .concat parts => do settle (.concat (← foldAll parts))
  | .compare first rest => do
    let first ← first.fold
    settle (.compare first (← foldRelations rest))
  | .choice line condition a b => do
    let condition ← condition.fold
    let a ← a.fold
    match b with
    | some b => do settle (.choice line condition a (some (← b.fold)))
    | none => settle (.choice line condition a none)

def foldAll : List (Expr ν) → Outcome (List (Expr ν))
  | [] => return []
  | e :: es => do
    let e ← e.fold
    return e :: (← foldAll es)

def foldEntries : List (Expr ν × Expr ν) → Outcome (List (Expr ν × Expr ν))
  | [] => return []
  | (k, v) :: es => do
    let k ← k.fold
    let v ← v.fold
    return (k, v) :: (← foldEntries es)

def foldNamed : List (String × Expr ν) → Outcome (List (String × Expr ν))
  | [] => return []
  | (name, e) :: es => do
    let e ← e.fold
    return (name, e) :: (← foldNamed es)

def foldRelations : List (Relation × Expr ν) → Outcome (List (Relation × Expr ν))
  | [] => return []
  | (r, e) :: es => do
    let e ← e.fold
    return (r, e) :: (← foldRelations es)

end

end CxxWriter.Template
