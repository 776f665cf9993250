/-
  Reading from a list of lexemes.

  A reader has a current token.  Moving on to a fault raises it, so that a
  fault counts before anything that comes after it and after all that comes
  before it.
-/
import CxxWriter.Template.Token

namespace CxxWriter.Template

/-- Reads from the lexemes that are left. -/
abbrev Reader := StateT (List Lexeme) (Except Failure)

namespace Reader

/-- Ends with a fault of the text. -/
def refuse {α : Type} (f : Malformed) : Reader α := throw (.malformed f)

/-- The first token of some lexemes. -/
def tokenOf : List Lexeme → Reader Token
  | ⟨_, .ok t⟩ :: _ => return t
  | ⟨_, .error f⟩ :: _ => throw f
  | [] => return .finish

/-- The current token. -/
def current : Reader Token := do tokenOf (← get)

/-- The line of the current token. -/
def line : Reader Nat := return ((← get).head?.map (·.line)).getD 1

/-- Raises the fault in the place of the current token, if there is one. -/
def check : Reader Unit := discard current

/-- Moves on and gives the token that was current.  The end of the template
    is never left. -/
def advance : Reader Token := do
  let t ← current
  match t with
  | .finish => return t
  | _ =>
    modify List.tail
    check
    return t

/-- The token after the current one. -/
def peek : Reader Token := do tokenOf (← get).tail

/-- Moves on if the current token is as described. -/
def skipIf (p : Token → Bool) : Reader Bool := do
  if p (← current) then
    discard advance
    return true
  else return false

/-- Moves past a token that has to be as described. -/
def expect (p : Token → Bool) (description : String) : Reader Token := do
  let t ← current
  if p t then advance
  else match t with
    | .finish => refuse (.unexpectedEnd description)
    | _ => refuse (.expectedToken description t.description)

def expectSymbol (spelling : String) : Reader Token := expect (·.isSymbol spelling) spelling

def expectWord (word : String) : Reader Token := expect (·.isName word) word

/-- Moves past a name and gives it. -/
def expectName : Reader String := do
  match ← expect (fun | .name _ => true | _ => false) "name" with
  | .name s => return s
  | _ => return ""

def isClosePrint : Token → Bool
  | .closePrint => true
  | _ => false

def isCloseTag : Token → Bool
  | .closeTag => true
  | _ => false

def expectClosePrint : Reader Token := expect isClosePrint Token.closePrint.description

def expectCloseTag : Reader Token := expect isCloseTag Token.closeTag.description

/-- Repeats a step until it gives a result, at most as often as told. -/
def loop {α β : Type} : Nat → α → (α → Reader (Sum α β)) → Reader β
  | 0, _, _ => refuse .tooDeep
  | n + 1, a, step => do
    match ← step a with
    | .inl a => loop n a step
    | .inr b => return b

end Reader

end CxxWriter.Template
