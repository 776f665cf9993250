/-
  Words and identifiers.

  A word is a run of letters, digits, numbers, marks and underscores; an
  identifier is a word that starts with a letter or an underscore and holds
  no number that is not a digit.
-/
import CxxWriter.Text.Printable
import CxxWriter.Text.WordTable

namespace CxxWriter.Text

/-- A character of a word. -/
def isWord (c : Char) : Bool :=
  if c.toNat < 0x80 then c.isAlphanum || c == '_' else inRuns wordRuns c.toNat

/-- A character that can start an identifier. -/
def isIdentifierStart (c : Char) : Bool :=
  if c.toNat < 0x80 then c.isAlpha || c == '_' else inRuns identifierStartRuns c.toNat

/-- A character that can stand in an identifier. -/
def isIdentifierPart (c : Char) : Bool :=
  isWord c && (c.toNat < 0x80 || !inRuns notIdentifierRuns c.toNat)

/-- Is the word an identifier? -/
def isIdentifier : List Char → Bool
  | [] => false
  | c :: cs => isIdentifierStart c && cs.all isIdentifierPart

end CxxWriter.Text
