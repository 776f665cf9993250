/-
  Reading expressions.

  From the weakest to the strongest, the levels are: the choice `a if c else
  b`, `or`, `and`, `not`, comparisons, `+ -`, `~`, `* / // %`, `**`, signs, and
  what follows an operand: members, items, calls, filters and tests.  Each
  level reads operands of the next one.  Only brackets and arguments lead back
  to the top: the readers of the levels take the reader of a whole expression,
  and the number of rounds that a loop may take, as arguments, and
  `expression` ties the knot.
-/
import CxxWriter.Template.Reader.Basic
import CxxWriter.Template.Expr

namespace CxxWriter.Template.Reader

/-- Does the token end a list of items without brackets? -/
def endsItems (stop : Token → Bool) (t : Token) : Bool :=
  match t with
  | .closePrint | .closeTag => true
  | t => t.isSymbol ")" || stop t

/-- No token. -/
def never (_ : Token) : Bool := false

/-- Reads items separated by commas; a single item without a comma stands for
    itself.  `empty` allows no items. -/
def items (fuel : Nat) (item : Reader (Expr String)) (stop : Token → Bool) (empty : Bool) : Reader (Expr String) := do
  let (args, isTuple) ← loop fuel (([] : List (Expr String)), false) fun (args, isTuple) => do
    unless args.isEmpty do discard (expectSymbol ",")
    if endsItems stop (← current) then return .inr (args, isTuple)
    let args := args ++ [← item]
    if (← current).isSymbol "," then return .inl (args, true)
    else return .inr (args, isTuple)
  match isTuple, args with
  | false, [e] => return e
  | false, [] =>
    if empty then return .tuple []
    else refuse (.expectedExpression (← current).description)
  | _, args => return .tuple args

section

variable (fuel : Nat) (expr : Reader (Expr String))

/-! ## Operands -/

/-- Reads what stands between two brackets, separated by commas, one of which
    may come last. -/
def bracketed {α : Type} (opening closing : String) (item : Reader α) : Reader (List α) := do
  discard (expectSymbol opening)
  let found ← loop fuel ([] : List α) fun found => do
    if (← current).isSymbol closing then return .inr found
    unless found.isEmpty do discard (expectSymbol ",")
    if (← current).isSymbol closing then return .inr found
    return .inl (found ++ [← item])
  discard (expectSymbol closing)
  return found

/-- Reads an entry of a dictionary. -/
def entry : Reader (Expr String × Expr String) := do
  let key ← expr
  discard (expectSymbol ":")
  return (key, ← expr)

/-- Neighbouring texts make one text. -/
def moreText (s : String) : Reader (Expr String) :=
  loop fuel s fun s => do
    match ← current with
    | .text t =>
      discard advance
      return .inl (s ++ t)
    | _ => return .inr (.constant (.text s))

/-- What a name stands for as an operand. -/
def nameExpr (s : String) : Expr String :=
  if s = "true" ∨ s = "True" then .constant (.bool true)
  else if s = "false" ∨ s = "False" then .constant (.bool false)
  else if s = "none" ∨ s = "None" then .constant .null
  else .variable s

/-- Reads an operand. -/
def primary : Reader (Expr String) := do
  let t ← current
  match t with
  | .name s =>
    discard advance
    return nameExpr s
  | .text s =>
    discard advance
    moreText fuel s
  | .integer n =>
    discard advance
    return .constant (.int n)
  | .float x =>
    discard advance
    return .constant (.float x)
  | t =>
    if t.isSymbol "(" then
      discard advance
      let e ← items fuel expr never true
      discard (expectSymbol ")")
      return e
    else if t.isSymbol "[" then
      return .list (← bracketed fuel "[" "]" expr)
    else if t.isSymbol "\x7b" then
      return .dict (← bracketed fuel "\x7b" "\x7d" (entry expr))
    else refuse (.unexpectedToken t.description)

/-! ## What follows an operand -/

/-- Arguments of a call. -/
structure Arguments where
  plain : List (Expr String)
  named : List (String × Expr String)

/-- Reads an argument. -/
def argument (found : Arguments) : Reader Arguments := do
  let named? : Option String ← do
    match ← current with
    | .name s => if (← peek).isSymbol "=" then pure (some s) else pure none
    | _ => pure none
  match named? with
  | some s =>
    discard advance
    discard advance
    return { found with named := found.named ++ [(s, ← expr)] }
  | none =>
    unless found.named.isEmpty do refuse .badCall
    return { found with plain := found.plain ++ [← expr] }

/-- Reads arguments in their brackets. -/
def arguments : Reader Arguments := do
  discard (expectSymbol "(")
  let (found, _) ← loop fuel ((⟨[], []⟩ : Arguments), false) fun (found, comma) => do
    if (← current).isSymbol ")" then return .inr (found, comma)
    if comma then
      discard (expectSymbol ",")
      if (← current).isSymbol ")" then return .inr (found, comma)
    return .inl (← argument expr found, true)
  discard (expectSymbol ")")
  return found

/-- Reads a member or an item of `e`. -/
def subscript (e : Expr String) : Reader (Expr String) := do
  let t ← advance
  if t.isSymbol "." then
    match ← advance with
    | .name s => return .member e s
    | .integer n => return .item e (.constant (.int n))
    | _ => refuse .expectedMember
  else
    let keys ← loop fuel ([] : List (Expr String)) fun keys => do
      if (← current).isSymbol "]" then return .inr keys
      unless keys.isEmpty do discard (expectSymbol ",")
      return .inl (keys ++ [← expr])
    discard (expectSymbol "]")
    match keys with
    | [k] => return .item e k
    | ks => return .item e (.tuple ks)

/-- Reads a call of `e`. -/
def callOf (e : Expr String) : Reader (Expr String) := do
  let args ← arguments fuel expr
  return .call e args.plain args.named

/-- Reads the members, items and calls after `e`. -/
def postfixes (e : Expr String) : Reader (Expr String) :=
  loop fuel e fun e => do
    let t ← current
    if t.isSymbol "." || t.isSymbol "[" then return .inl (← subscript fuel expr e)
    else if t.isSymbol "(" then return .inl (← callOf fuel expr e)
    else return .inr e

/-- Reads a name with points in it. -/
def dottedName : Reader String := do
  let first ← expectName
  loop fuel first fun s => do
    if ← skipIf (·.isSymbol ".") then return .inl (s ++ "." ++ (← expectName))
    else return .inr s

/-- Reads a filter of `e`, from the bar on. -/
def filterOf (e : Expr String) : Reader (Expr String) := do
  discard advance
  let name ← dottedName fuel
  if (← current).isSymbol "(" then
    let args ← arguments fuel expr
    return .filter e name args.plain args.named
  else return .filter e name [] []

/-- Can the token start the argument of a test without brackets? -/
def startsTestArgument : Token → Bool
  | .name s => s != "else" && s != "or" && s != "and"
  | .text _ | .integer _ | .float _ => true
  | t => t.isSymbol "[" || t.isSymbol "\x7b"

/-- Reads the arguments of a test. -/
def testArguments : Reader Arguments := do
  let t ← current
  if t.isSymbol "(" then arguments fuel expr
  else if startsTestArgument t then
    if t.isName "is" then refuse .chainedTests
    let e ← primary fuel expr
    return ⟨[← postfixes fuel expr e], []⟩
  else return ⟨[], []⟩

/-- Reads a test of `e`, from the word `is` on. -/
def testOf (e : Expr String) : Reader (Expr String) := do
  discard advance
  let negated ← skipIf (·.isName "not")
  let name ← dottedName fuel
  let args ← testArguments fuel expr
  let test := Expr.test e name args.plain args.named
  return if negated then .not test else test

/-- Reads the filters after `e`. -/
def onlyFilters (e : Expr String) : Reader (Expr String) :=
  loop fuel e fun e => do
    if (← current).isSymbol "|" then return .inl (← filterOf fuel expr e) else return .inr e

/-- Reads the filters, tests and calls after `e`. -/
def filters (e : Expr String) : Reader (Expr String) :=
  loop fuel e fun e => do
    let t ← current
    if t.isSymbol "|" then return .inl (← filterOf fuel expr e)
    else if t.isName "is" then return .inl (← testOf fuel expr e)
    else if t.isSymbol "(" then return .inl (← callOf fuel expr e)
    else return .inr e

/-! ## Levels of operators -/

/-- Reads an operand with its signs and what follows it. -/
def signed : Reader (Expr String) := do
  let signs ← loop fuel ([] : List (Expr String → Expr String)) fun signs => do
    if ← skipIf (·.isSymbol "-") then return .inl (Expr.negate :: signs)
    else if ← skipIf (·.isSymbol "+") then return .inl (Expr.posit :: signs)
    else return .inr signs
  let e ← postfixes fuel expr (← primary fuel expr)
  filters fuel expr (signs.foldl (fun e sign => sign e) e)

/-- Reads operands joined by operators of one level, which associate to the
    left. -/
def leftAssoc (operand : Reader (Expr String)) (join? : Token → Option (Expr String → Expr String → Expr String)) : Reader (Expr String) := do
  let first ← operand
  loop fuel first fun left => do
    match join? (← current) with
    | some join =>
      discard advance
      return .inl (join left (← operand))
    | none => return .inr left

def powers : Reader (Expr String) :=
  leftAssoc fuel (signed fuel expr) fun t => if t.isSymbol "**" then some (.binary .pow) else none

def products : Reader (Expr String) :=
  leftAssoc fuel (powers fuel expr) fun t =>
    if t.isSymbol "*" then some (.binary .mul)
    else if t.isSymbol "/" then some (.binary .div)
    else if t.isSymbol "//" then some (.binary .floorDiv)
    else if t.isSymbol "%" then some (.binary .mod)
    else none

/-- Reads operands joined by `~`. -/
def concats : Reader (Expr String) := do
  let parts ← loop fuel [← products fuel expr] fun parts => do
    if ← skipIf (·.isSymbol "~") then return .inl (parts ++ [← products fuel expr])
    else return .inr parts
  match parts with
  | [e] => return e
  | es => return .concat es

def sums : Reader (Expr String) :=
  leftAssoc fuel (concats fuel expr) fun t =>
    if t.isSymbol "+" then some (.binary .add)
    else if t.isSymbol "-" then some (.binary .sub)
    else none

/-- The comparison that a symbol stands for. -/
def relation? (t : Token) : Option Relation :=
  match t with
  | .symbol "==" => some .eq
  | .symbol "!=" => some .ne
  | .symbol "<" => some .lt
  | .symbol "<=" => some .le
  | .symbol ">" => some .gt
  | .symbol ">=" => some .ge
  | .name "in" => some .isIn
  | _ => none

/-- Reads operands joined by comparisons. -/
def comparisons : Reader (Expr String) := do
  let first ← sums fuel expr
  let rest ← loop fuel ([] : List (Relation × Expr String)) fun rest => do
    let t ← current
    match relation? t with
    | some r =>
      discard advance
      return .inl (rest ++ [(r, ← sums fuel expr)])
    | none =>
      if t.isName "not" then
        if (← peek).isName "in" then
          discard advance
          discard advance
          return .inl (rest ++ [(.notIn, ← sums fuel expr)])
        else return .inr rest
      else return .inr rest
  return if rest.isEmpty then first else .compare first rest

/-- Reads a comparison with the negations before it. -/
def negations : Reader (Expr String) := do
  let count ← loop fuel 0 fun count => do
    if ← skipIf (·.isName "not") then return .inl (count + 1) else return .inr count
  let e ← comparisons fuel expr
  return Nat.repeat Expr.not count e

def conjunctions : Reader (Expr String) :=
  leftAssoc fuel (negations fuel expr) fun t => if t.isName "and" then some .and else none

def disjunctions : Reader (Expr String) :=
  leftAssoc fuel (conjunctions fuel expr) fun t => if t.isName "or" then some .or else none

/-- Reads an expression with the choices after it, the last branches of which
    may be choices again.  The line of a choice is that of its first branch; of
    a choice between a choice and something else, that of what follows the
    former. -/
def choices : Nat → Reader (Expr String)
  | 0 => refuse .tooDeep
  | n + 1 => do
    let start ← line
    let first ← disjunctions fuel expr
    (·.1) <$> loop fuel (first, start) fun (e, start) => do
      if ← skipIf (·.isName "if") then
        let condition ← disjunctions fuel expr
        let otherwise ← do
          if ← skipIf (·.isName "else") then some <$> choices n else pure none
        return .inl (.choice start condition e otherwise, ← line)
      else return .inr (e, start)

end

/-- Reads an expression whose brackets nest at most as deep as told. -/
def nested (fuel : Nat) : Nat → Reader (Expr String)
  | 0 => refuse .tooDeep
  | n + 1 => choices fuel (nested fuel n) fuel

/-- How deep the brackets of an expression may nest. -/
def maxBrackets : Nat := 74

/-- Reads an expression. -/
def expression (fuel : Nat) : Reader (Expr String) := nested fuel maxBrackets

/-- Reads an expression that is no choice. -/
def simpleExpression (fuel : Nat) : Reader (Expr String) := disjunctions fuel (expression fuel)

/-- Reads a target of an assignment, up to a token that `stop` describes. -/
def target (fuel : Nat) (stop : Token → Bool) : Reader (Target String) := do
  let e ← items fuel (primary fuel (expression fuel)) stop false
  match e.target? with
  | some t => return t
  | none => refuse (.notAssignable e.kind)

end CxxWriter.Template.Reader
