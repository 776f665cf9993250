/-
  Function declarations, split at the name of the function.

  The name is the first run of token characters that is followed, perhaps
  after white space, by an opening parenthesis.  What stands before it is the
  return type; the signature starts with the name.
-/
import CxxWriter.Text.Blank

namespace CxxWriter

/-- A declaration that has been split. -/
structure Declaration where
  returnType : String
  name : String
  signature : String
deriving DecidableEq, Repr

namespace Declaration

open Text

/-- Letters, digits, `_`, `:` and `~`, and the four characters whose other
    case is an ASCII letter. -/
def isToken (c : Char) : Bool :=
  c.isAlphanum || c == '_' || c == ':' || c == '~' || c == 'İ' || c == 'ı' || c == 'ſ' || c == '\u212a'

/-- If the text continues, after white space, with an opening parenthesis:
    what follows the parenthesis. -/
def afterParen? (t : List Char) : Option (List Char) :=
  match t.dropWhile isSpace with
  | '(' :: rest => some rest
  | _ => none

/-- If the text starts with a call: the name and what follows the
    parenthesis. -/
def call? (t : List Char) : Option (List Char × List Char) :=
  let name := t.takeWhile isToken
  if name.isEmpty then none
  else (afterParen? (t.dropWhile isToken)).map fun rest => (name, rest)

/-- The first call in a text: what stands before it, the name, and what
    follows the parenthesis. -/
def firstCall? : List Char → Option (List Char × List Char × List Char)
  | [] => none
  | c :: cs =>
    match call? (c :: cs) with
    | some (name, rest) => some ([], name, rest)
    | none => (firstCall? cs).map fun p => (c :: p.1, p.2)

/-- Splits a declaration; `none` if it has no name before a parenthesis. -/
def split? (s : String) : Option Declaration :=
  (firstCall? s.toList).map fun (before, name, rest) =>
    { returnType := String.ofList (trim isSpace before)
      name := String.ofList name
      signature := String.ofList (trim isSpace (name ++ '(' :: rest)) }

end Declaration

end CxxWriter
