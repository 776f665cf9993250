/-
  Names in the styles of C identifiers.

  * `snakeCase` writes words in lower case with underscores between them: a
    capital after a small letter or a digit starts a word, and a run of
    hyphens, points and white space separates words;
  * `pascalCase` capitalizes the words and writes them without separators;
  * `macroCase` is in upper case; whatever is not a letter or digit of ASCII
    separates words.
-/
import CxxWriter.Text.Blank
import CxxWriter.Text.LetterCase

namespace CxxWriter.Naming

open Text

/-- A small letter or a digit of ASCII. -/
def isSmall (c : Char) : Bool := c.isLower || c.isDigit

/-- Puts an underscore before every capital that follows a small letter or a
    digit. -/
def splitCapitals : List Char → List Char
  | [] => []
  | [c] => [c]
  | c :: d :: cs =>
    if isSmall c && d.isUpper then c :: '_' :: splitCapitals (d :: cs)
    else c :: splitCapitals (d :: cs)

/-- Writes an underscore for every run of a class of characters.  `inRun`
    tells whether a run has begun. -/
def collapse (p : Char → Bool) (inRun : Bool) : List Char → List Char
  | [] => []
  | c :: cs =>
    if p c then (if inRun then collapse p true cs else '_' :: collapse p true cs)
    else c :: collapse p false cs

/-- A hyphen, a point or white space. -/
def isSeparator (c : Char) : Bool := c == '-' || c == '.' || isSpace c

/-- Not a letter or digit of ASCII. -/
def isForeign (c : Char) : Bool := !c.isAlphanum

/-- Words in lower case with underscores between them. -/
def snakeCase (s : String) : String :=
  toLower (String.ofList (collapse isSeparator false (splitCapitals s.toList)))

/-- Capitalized words. -/
def pascalCase (s : String) : String :=
  String.join (((splitString '_' (snakeCase s)).filter (!·.isEmpty)).map capitalize)

/-- Words in upper case with underscores between them. -/
def macroCase (s : String) : String :=
  toUpper (String.ofList (trim (· == '_') (collapse isForeign false (snakeCase s).toList)))

end CxxWriter.Naming
