/-
  Reading statements.

  A statement is a tag, or a pair of tags with statements between them.  The
  reader keeps account of the tags that are open and of those that each of
  them waits for, which the faults about misplaced tags tell of.

  `Template.read` reads a whole template.
-/
import CxxWriter.Template.Reader.Expr
import CxxWriter.Template.Statement
import CxxWriter.Template.Token.Scan

namespace CxxWriter.Template.Reader

/-- The open tags and the tags that they wait for, the innermost first. -/
structure Nesting where
  tags : List String
  awaited : List (List String)

/-- The fault of an unknown or misplaced tag. -/
def Nesting.unknownTag (nest : Nesting) (name : String) : Malformed :=
  .unknownTag name (nest.awaited.head?.getD []) (nest.awaited.any (·.contains name)) nest.tags.head?

/-- The fault of a template that ends before one of the tags comes. -/
def Nesting.unclosedTag (nest : Nesting) (stops : List String) : Malformed :=
  .unclosedTag stops nest.tags.head?

/-- Is the token one of the names? -/
def isOneOf (names : List String) : Token → Bool
  | .name s => names.contains s
  | _ => false

section

variable (fuel : Nat)

/-- Reads statements up to one of the tags `stops`, or to the end if there are
    none; the name of that tag is current then. -/
abbrev BodyReader := Nesting → List String → Reader (List Statement)

variable (body : BodyReader)

/-- Reads what stands between the tag whose arguments have been read and one
    of the tags `stops`. -/
def between (nest : Nesting) (stops : List String) : Reader (List Statement) := do
  discard (skipIf (·.isSymbol ":"))
  discard expectCloseTag
  let found ← body nest stops
  match ← current with
  | .finish => refuse (nest.unclosedTag stops)
  | _ => return found

/-- Reads the rest of a branch, whose open cases are given in order. -/
def readBranch (nest : Nesting) : Reader Statement := do
  discard advance
  loop fuel ([] : List (Expr String × List Statement)) fun cases => do
    let condition ← items fuel (simpleExpression fuel) never false
    let inner ← between body nest ["elif", "else", "endif"]
    let cases := cases ++ [(condition, inner)]
    let t ← advance
    if t.isName "elif" then return .inl cases
    else if t.isName "else" then
      let otherwise ← between body nest ["endif"]
      discard advance
      return .inr (.branch cases otherwise)
    else return .inr (.branch cases [])

/-- Reads a loop. -/
def readLoop (nest : Nesting) : Reader Statement := do
  discard advance
  let names ← target fuel (·.isName "in")
  discard (expectWord "in")
  let source ← items fuel (simpleExpression fuel) (·.isName "recursive") false
  let condition ← do
    if ← skipIf (·.isName "if") then some <$> expression fuel else pure none
  let recursive ← skipIf (·.isName "recursive")
  let inner ← between body nest ["endfor", "else"]
  let t ← advance
  if t.isName "endfor" then return .loop names source condition recursive inner []
  let otherwise ← between body nest ["endfor"]
  discard advance
  return .loop names source condition recursive inner otherwise

/-- Reads an assignment of a value, or of the text that a body prints. -/
def readSet (nest : Nesting) : Reader Statement := do
  discard advance
  let names ← target fuel never
  if ← skipIf (·.isSymbol "=") then
    return .assign names (← items fuel (expression fuel) never false)
  let filters ← onlyFilters fuel (expression fuel) .captured
  let inner ← between body nest ["endset"]
  discard advance
  return .capture names filters inner

/-- Is there only white space in a statement? -/
def isBlank : Statement → Bool
  | .print pieces => pieces.all fun
    | .text s => s.toList.all Text.isSpace
    | .value _ => false
  | _ => false

/-- Reads a block. -/
def readBlock (nest : Nesting) : Reader Statement := do
  discard advance
  let name ← expectName
  let seesLocals ← skipIf (·.isName "scoped")
  let required ← skipIf (·.isName "required")
  if (← current).isSymbol "-" then refuse .hyphenInBlockName
  let inner ← between body nest ["endblock"]
  discard advance
  if required && !inner.all isBlank then refuse .filledBlock
  discard (skipIf (·.isName name))
  return .block name seesLocals required inner

/-- Reads the inclusion of another template. -/
def readInclude : Reader Statement := do
  discard advance
  let name ← expression fuel
  let ignoreMissing ← do
    if (← current).isName "ignore" then
      if (← peek).isName "missing" then
        discard advance
        discard advance
        pure true
      else pure false
    else pure false
  let word ← current
  if isOneOf ["with", "without"] word then
    if (← peek).isName "context" then
      discard advance
      discard advance
      return .includes name ignoreMissing (word.isName "with")
  return .includes name ignoreMissing true

/-- Reads the import of another template. -/
def readImport : Reader Statement := do
  discard advance
  let e ← expression fuel
  discard (expectWord "as")
  let name ← expectName
  let word ← current
  if isOneOf ["with", "without"] word then
    if (← peek).isName "context" then
      discard advance
      discard advance
      return .imports e name (word.isName "with")
  return .imports e name false

/-- Reads a statement from the name of its tag on. -/
def readStatement (nest : Nesting) : Reader Statement := do
  match ← current with
  | .name tag =>
    let inner : Nesting := { nest with tags := tag :: nest.tags }
    if tag = "if" then readBranch fuel body inner
    else if tag = "for" then readLoop fuel body inner
    else if tag = "set" then readSet fuel body inner
    else if tag = "block" then readBlock body inner
    else if tag = "include" then readInclude fuel
    else if tag = "import" then readImport fuel
    else if tag = "extends" then
      discard advance
      return .inherits (← expression fuel)
    else refuse (nest.unknownTag tag)
  | _ => refuse .expectedTagName

/-- Statements with what has been printed since the last one. -/
structure Passage where
  found : List Statement
  pieces : List (Piece String)

/-- The statements, the last of which prints. -/
def Passage.statements (p : Passage) : List Statement :=
  if p.pieces.isEmpty then p.found else p.found ++ [.print p.pieces]

/-- Reads statements up to one of the tags `stops`. -/
def readBody (nest : Nesting) (stops : List String) : Reader (List Statement) :=
  let nest := if stops.isEmpty then nest else { nest with awaited := stops :: nest.awaited }
  loop fuel (⟨[], []⟩ : Passage) fun p => do
    match ← current with
    | .data s =>
      discard advance
      return .inl { p with pieces := p.pieces ++ [.text s] }
    | .openPrint =>
      discard advance
      let e ← items fuel (expression fuel) never false
      discard expectClosePrint
      return .inl { p with pieces := p.pieces ++ [.value e] }
    | .openTag =>
      discard advance
      if isOneOf stops (← current) then return .inr p.statements
      let s ← readStatement fuel body nest
      discard expectCloseTag
      return .inl ⟨p.statements ++ [s], []⟩
    | _ => return .inr p.statements

end

/-- Reads statements that nest at most as deep as told. -/
def statements : Nat → Nat → BodyReader
  | _, 0 => fun _ _ => refuse .tooDeep
  | fuel, n + 1 => readBody fuel (statements fuel n)

end CxxWriter.Template.Reader

namespace CxxWriter.Template

/-- How deep statements may nest. -/
def maxStatements : Nat := 230

/-- Reads a template, without regard to what its names stand for. -/
def readStatements (source : String) : Except Failure (List Statement) :=
  let lexemes := scan source
  let fuel := lexemes.length + 2
  (do Reader.check; Reader.statements fuel maxStatements ⟨[], []⟩ []).run' lexemes

end CxxWriter.Template
