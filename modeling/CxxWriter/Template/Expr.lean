/-
  Expressions of templates.
-/
import CxxWriter.Value

namespace CxxWriter.Template

/-- An operator between two operands. -/
inductive Operator where
  | add | sub | mul | div | floorDiv | mod | pow
deriving DecidableEq, Repr

/-- A comparison. -/
inductive Relation where
  | eq | ne | lt | le | gt | ge | isIn | notIn
deriving DecidableEq, Repr

/-- An expression whose variables are written as `ν`. -/
inductive Expr (ν : Type) where
  | constant (v : Value)
  | variable (x : ν)
  /-- The text that has been captured for an assignment. -/
  | captured
  | list (items : List (Expr ν))
  | tuple (items : List (Expr ν))
  | dict (entries : List (Expr ν × Expr ν))
  /-- `e.name` -/
  | member (e : Expr ν) (name : String)
  /-- `e[key]` -/
  | item (e key : Expr ν)
  /-- `f(args, name=…)` -/
  | call (f : Expr ν) (args : List (Expr ν)) (named : List (String × Expr ν))
  /-- `e | name(args, name=…)` -/
  | filter (e : Expr ν) (name : String) (args : List (Expr ν)) (named : List (String × Expr ν))
  /-- `e is name(args, name=…)` -/
  | test (e : Expr ν) (name : String) (args : List (Expr ν)) (named : List (String × Expr ν))
  | negate (e : Expr ν)
  | posit (e : Expr ν)
  | not (e : Expr ν)
  | and (a b : Expr ν)
  | or (a b : Expr ν)
  | binary (op : Operator) (a b : Expr ν)
  /-- `a ~ b ~ …` -/
  | concat (parts : List (Expr ν))
  /-- `a < b < …` -/
  | compare (first : Expr ν) (rest : List (Relation × Expr ν))
  /-- `a if condition else b`, and the line it is told to stand in -/
  | choice (line : Nat) (condition a : Expr ν) (b : Option (Expr ν))

instance : Inhabited (Expr ν) := ⟨.captured⟩

/-- What messages call an expression that cannot be assigned to. -/
def Expr.kind : Expr ν → String
  | .constant _ => "const"
  | .variable _ => "name"
  | .captured => "filter"
  | .list _ => "list"
  | .tuple _ => "tuple"
  | .dict _ => "dict"
  | .member .. => "getattr"
  | .item .. => "getitem"
  | .call .. => "call"
  | .filter .. => "filter"
  | .test .. => "test"
  | .negate _ => "neg"
  | .posit _ => "pos"
  | .not _ => "not"
  | .and .. => "and"
  | .or .. => "or"
  | .binary .add .. => "add"
  | .binary .sub .. => "sub"
  | .binary .mul .. => "mul"
  | .binary .div .. => "div"
  | .binary .floorDiv .. => "floordiv"
  | .binary .mod .. => "mod"
  | .binary .pow .. => "pow"
  | .concat _ => "concat"
  | .compare .. => "compare"
  | .choice .. => "condexpr"

mutual

/-- The variables in an expression, in the order in which its parts are looked
    through. -/
def Expr.variables : Expr ν → List ν
  | .constant _ | .captured => []
  | .variable x => [x]
  | .list es | .tuple es | .concat es => variablesIn es
  | .dict entries => entryVariables entries
  | .member e _ | .negate e | .posit e | .not e => e.variables
  | .item a b | .and a b | .or a b | .binary _ a b => a.variables ++ b.variables
  | .call f args named => f.variables ++ variablesIn args ++ namedVariables named
  | .filter e _ args named | .test e _ args named =>
    e.variables ++ variablesIn args ++ namedVariables named
  | .compare first rest => first.variables ++ comparedVariables rest
  | .choice _ condition a b =>
    condition.variables ++ a.variables ++ (match b with
      | some b => b.variables
      | none => [])

def variablesIn : List (Expr ν) → List ν
  | [] => []
  | e :: es => e.variables ++ variablesIn es

def entryVariables : List (Expr ν × Expr ν) → List ν
  | [] => []
  | (k, v) :: es => k.variables ++ v.variables ++ entryVariables es

def namedVariables : List (String × Expr ν) → List ν
  | [] => []
  | (_, e) :: es => e.variables ++ namedVariables es

def comparedVariables : List (Relation × Expr ν) → List ν
  | [] => []
  | (_, e) :: es => e.variables ++ comparedVariables es

end

/-- What is assigned to: a variable, or variables that take the items of a
    value. -/
inductive Target (ν : Type) where
  | variable (x : ν)
  | tuple (ts : List (Target ν))

mutual

/-- The target that an expression stands for, if it can be assigned to. -/
def Expr.target? : Expr ν → Option (Target ν)
  | .variable x => some (.variable x)
  | .tuple items => (targets? items).map .tuple
  | _ => none

/-- The targets that expressions stand for. -/
def targets? : List (Expr ν) → Option (List (Target ν))
  | [] => some []
  | e :: es =>
    match e.target?, targets? es with
    | some t, some ts => some (t :: ts)
    | _, _ => none

end

mutual

/-- The variables in a target. -/
def Target.variables : Target ν → List ν
  | .variable x => [x]
  | .tuple ts => targetVariables ts

/-- The variables in targets. -/
def targetVariables : List (Target ν) → List ν
  | [] => []
  | t :: ts => t.variables ++ targetVariables ts

end

mutual

/-- A target with its variables written in another way. -/
def Target.map (f : ν → μ) : Target ν → Target μ
  | .variable x => .variable (f x)
  | .tuple ts => .tuple (mapTargets f ts)

def mapTargets (f : ν → μ) : List (Target ν) → List (Target μ)
  | [] => []
  | t :: ts => t.map f :: mapTargets f ts

end

end CxxWriter.Template
