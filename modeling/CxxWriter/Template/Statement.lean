/-
  Statements of templates.

  These are the statements as they are written: names stand for themselves.
  `mentions` tells in which order a part of a template reads and assigns
  names.
-/
import CxxWriter.Template.Expr

namespace CxxWriter.Template

/-- A part of what is printed: text, or the value of an expression. -/
inductive Piece (ν : Type) where
  | text (s : String)
  | value (e : Expr ν)

/-- A statement. -/
inductive Statement where
  /-- Prints what stands between two tags. -/
  | print (pieces : List (Piece String))
  /-- Conditions with what is done under the first that is true, and what is
      done if none is. -/
  | branch (cases : List (Expr String × List Statement)) (otherwise : List Statement)
  /-- A loop over the items for which the condition is true, and what is done
      if there is none.  A loop may be told that it is called in its body. -/
  | loop (target : Target String) (items : Expr String) (condition : Option (Expr String))
      (recursive : Bool) (body otherwise : List Statement)
  | assign (target : Target String) (e : Expr String)
  /-- Assigns the text that the body prints, after filters. -/
  | capture (target : Target String) (filters : Expr String) (body : List Statement)
  | includes (e : Expr String) (ignoreMissing withContext : Bool)
  /-- Assigns what another template tells to a name. -/
  | imports (e : Expr String) (name : String) (withContext : Bool)
  | inherits (e : Expr String)
  /-- A block, which sees the names assigned around it if it is told to, and
      may have to be replaced. -/
  | block (name : String) (seesLocals required : Bool) (body : List Statement)

/-! ## Blocks -/

/-- A block with what it prints. -/
structure BlockText where
  name : String
  seesLocals : Bool
  body : List Statement

mutual

/-- The blocks in a statement, outer ones first. -/
def Statement.blocks : Statement → List BlockText
  | .branch cases otherwise => caseBlocks cases ++ blocksOf otherwise
  | .loop _ _ _ _ body otherwise => blocksOf body ++ blocksOf otherwise
  | .capture _ _ body => blocksOf body
  | .block name seesLocals _ body => ⟨name, seesLocals, body⟩ :: blocksOf body
  | _ => []

/-- The blocks in statements. -/
def blocksOf : List Statement → List BlockText
  | [] => []
  | s :: ss => s.blocks ++ blocksOf ss

/-- The blocks in the cases of a branch. -/
def caseBlocks : List (Expr String × List Statement) → List BlockText
  | [] => []
  | (_, body) :: cs => blocksOf body ++ caseBlocks cs

end

mutual

/-- Does a statement say that another template is extended? -/
def Statement.hasExtends : Statement → Bool
  | .branch cases otherwise => casesExtend cases || haveExtends otherwise
  | .loop _ _ _ _ body otherwise => haveExtends body || haveExtends otherwise
  | .capture _ _ body => haveExtends body
  | .block _ _ _ body => haveExtends body
  | .inherits _ => true
  | _ => false

def haveExtends : List Statement → Bool
  | [] => false
  | s :: ss => s.hasExtends || haveExtends ss

def casesExtend : List (Expr String × List Statement) → Bool
  | [] => false
  | (_, body) :: cs => haveExtends body || casesExtend cs

end

/-! ## Names -/

/-- A use of a name. -/
inductive Mention where
  | read (name : String)
  | assigned (name : String)

/-- The names that an expression reads. -/
def Expr.mentions (e : Expr String) : List Mention := e.variables.map .read

/-- The names that a target assigns. -/
def Target.mentions (t : Target String) : List Mention := t.variables.map .assigned

def Piece.mentions : Piece String → List Mention
  | .text _ => []
  | .value e => e.mentions

section

variable (inBlocks : Bool)

mutual

/-- The uses of names in a statement, in the order in which its parts are
    looked through; those in blocks too if it is told so. -/
def Statement.mentions : Statement → List Mention
  | .print pieces => pieces.flatMap (·.mentions)
  | .branch cases otherwise => caseMentions cases ++ mentionsIn otherwise
  | .loop target items condition _ body otherwise =>
    target.mentions ++ items.mentions ++ mentionsIn body ++ mentionsIn otherwise ++
      (match condition with
        | some e => e.mentions
        | none => [])
  | .assign target e => target.mentions ++ e.mentions
  | .capture target filters body => target.mentions ++ filters.mentions ++ mentionsIn body
  | .includes e _ _ | .inherits e => e.mentions
  | .imports e name _ => e.mentions ++ [.assigned name]
  | .block _ _ _ body => if inBlocks then mentionsIn body else []

def mentionsIn : List Statement → List Mention
  | [] => []
  | s :: ss => s.mentions ++ mentionsIn ss

def caseMentions : List (Expr String × List Statement) → List Mention
  | [] => []
  | (e, body) :: cs => e.mentions ++ mentionsIn body ++ caseMentions cs

end

end

/-- Is a name read before it is assigned? -/
def readsFirst (name : String) : List Mention → Bool
  | [] => false
  | .read s :: ms => s == name || readsFirst name ms
  | .assigned s :: ms => s != name && readsFirst name ms

/-- Do statements read a name that they have not assigned?  Blocks are on
    their own. -/
def usesName (name : String) (body : List Statement) : Bool :=
  readsFirst name (mentionsIn false body)

/-- Is a name assigned? -/
def isAssigned (name : String) (ms : List Mention) : Bool :=
  ms.any fun m =>
    match m with
    | .assigned s => s == name
    | .read _ => false

end CxxWriter.Template
