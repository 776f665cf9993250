/-
  The value of an expression.

  Operands are evaluated from left to right, and no more of them than the
  value needs.  Where a constant pattern is given as many arguments as it has
  directives, and any value will do for these, each argument is written before
  the next one is evaluated.
-/
import CxxWriter.Template.Filter
import CxxWriter.Template.Program
import CxxWriter.Template.Rendition

namespace CxxWriter.Template

/-- What the value of an expression hangs on. -/
structure Surroundings where
  /-- The name of the template. -/
  template : Option String
  /-- The value in a cell. -/
  inCell : Cell → Option Value
  /-- The text that has been captured. -/
  captured : String
  /-- What a block comes to, given its name and how many others of that name
      come before it. -/
  blockText : String → Nat → Rendition String

mutual

/-- Does a value hold a number that a constant cannot be? -/
def holdsSpecial : Value → Bool
  | .float x => !x.isFinite
  | .complex re im => !re.isFinite || !im.isFinite
  | .notNumber .. => true
  | .list items | .tuple items => holdSpecial items
  | .dict entries => entriesHoldSpecial entries
  | _ => false

def holdSpecial : List Value → Bool
  | [] => false
  | v :: vs => holdsSpecial v || holdSpecial vs

def entriesHoldSpecial : List (Value × Value) → Bool
  | [] => false
  | (k, v) :: es => holdsSpecial k || holdsSpecial v || entriesHoldSpecial es

end

/-- A constant. -/
def constantValue (v : Value) : Outcome Value :=
  if holdsSpecial v then faulty .notFinite else return v

section

variable (s : Surroundings)

/-- What a name stands for. -/
def Surroundings.get (x : Ref) : Outcome Value :=
  match s.inCell x.cell with
  | some v => return v
  | none => missing (.variable x.name)

/-- Calls a value. -/
def callValue (f : Value) (call : Call) : Rendition Value := do
  match f with
  | .block name before _ =>
    discard (call.bind [])
    return .text (← s.blockText name before)
  | f => applyCall f call

mutual

/-- The value of an expression. -/
def Expr.eval : Expr Ref → Rendition Value
  | .constant v => constantValue v
  | .variable x => s.get x
  | .captured => return .text s.captured
  | .list items => return .list (← evalAll items)
  | .tuple items => return .tuple (← evalAll items)
  | .dict entries => return .dict (← evalEntries entries [])
  | .member e name => do member (← e.eval) name
  | .item e key => do
    let v ← e.eval
    subscripted v (← key.eval)
  | .call f args named => do
    let f ← f.eval
    let args ← evalAll args
    callValue s f ⟨args, ← evalNamed named⟩
  | .filter e name args named => do
    let v ← e.eval
    let args ← evalAll args
    applyFilter name v ⟨args, ← evalNamed named⟩
  | .test e name args named => do
    let v ← e.eval
    let args ← evalAll args
    return .bool (← applyTest name v ⟨args, ← evalNamed named⟩)
  | .negate e => do negated (← e.eval)
  | .posit e => do posited (← e.eval)
  | .not e => do return .bool (!(← truth (← e.eval)))
  | .and a b => do
    let x ← a.eval
    if ← truth x then b.eval else return x
  | .or a b => do
    let x ← a.eval
    if ← truth x then return x else b.eval
  | .binary .mod (.constant (.text pattern)) (.tuple items) => do
    match partsFor? items.length pattern with
    | some (parts, last) =>
      let text ← evalParts parts items
      return .text (text ++ (← formatText last (.tuple [])))
    | none => return .text (← formatText pattern (.tuple (← evalAll items)))
  | .binary op a b => do
    let x ← a.eval
    applyOperator op x (← b.eval)
  | .concat parts => do
    let vs ← evalAll parts
    let texts ← (vs.mapM printed : Outcome (List String))
    return .text (String.join texts)
  | .compare first rest => do
    let x ← first.eval
    evalRelations x rest
  | .choice line condition a b => do
    if ← truth (← condition.eval) then a.eval
    else match b with
      | some b => b.eval
      | none => missing (.alternative ⟨line, s.template⟩)

def evalAll : List (Expr Ref) → Rendition (List Value)
  | [] => return []
  | e :: es => do
    let v ← e.eval
    return v :: (← evalAll es)

/-- Writes arguments into the parts of a pattern. -/
def evalParts : List String → List (Expr Ref) → Rendition String
  | part :: parts, e :: es => do
    let v ← e.eval
    let s ← formatText part (.tuple [v])
    return s ++ (← evalParts parts es)
  | _, _ => return ""

/-- Evaluates all keys and values before any of the keys is used. -/
def evalEntries : List (Expr Ref × Expr Ref) → List (Value × Value) → Rendition (List (Value × Value))
  | [], found => do
    found.forM fun e => checkKey e.1
    return found.foldl (fun es e => Value.insertEntry e.1 e.2 es) []
  | (k, v) :: es, found => do
    let key ← k.eval
    let value ← v.eval
    evalEntries es (found ++ [(key, value)])

def evalNamed : List (String × Expr Ref) → Rendition (List (String × Value))
  | [] => return []
  | (name, e) :: es => do
    let v ← e.eval
    return (name, v) :: (← evalNamed es)

def evalRelations (x : Value) : List (Relation × Expr Ref) → Rendition Value
  | [] => return .bool true
  | (r, e) :: es => do
    let y ← e.eval
    if ← related r x y then evalRelations y es else return .bool false

end

end

end CxxWriter.Template
