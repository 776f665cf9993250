/-
  Blocks of source text and their indentation.

  A fragment may be written with any margin and with blank lines around it.
  `unindent` takes both away, and `reindent` writes the result at a place: the
  lines get the indentation of the place, and nesting by two spaces becomes
  nesting by the unit of indentation.

  * `unindent` keeps the lines from the first to the last that is not blank,
    empties the blank ones between them, and drops the common margin;
  * `convertSpaces` turns an even run of leading spaces into units;
  * `leadLines` writes a text in front of every line and drops white space at
    line ends.
-/
import CxxWriter.Text.Blank

namespace CxxWriter.Block

open Text

/-! ## The margin -/

/-- A line of blank characters only. -/
def isBlankLine (l : List Char) : Bool := l.all isBlank

/-- The number of blank characters at the front. -/
def margin (l : List Char) : Nat := (l.takeWhile isBlank).length

/-- The least margin of the lines that are not blank. -/
def commonMargin (ls : List (List Char)) : Nat :=
  ((ls.filter (!isBlankLine ·)).map margin).min?.getD 0

/-- Drops blank characters at the end of the last line. -/
def trimLastLine : List (List Char) → List (List Char)
  | [] => []
  | [l] => [trimEnd isBlank l]
  | l :: m :: ls => l :: trimLastLine (m :: ls)

/-- A line without a margin of `width`; a blank line becomes empty. -/
def dropMargin (width : Nat) (l : List Char) : List Char :=
  if isBlankLine l then [] else l.drop width

/-- The lines of a block in normal form. -/
def unindentLines (ls : List (List Char)) : List (List Char) :=
  let body := trimLastLine (trim isBlankLine ls)
  body.map (dropMargin (commonMargin body))

/-- The normal form of a block: no blank lines around it, empty lines for the
    blank ones within, and no common margin. -/
def unindent (t : List Char) : List Char := unlines (unindentLines (lines t))

/-! ## Indentation -/

/-- `count` copies of a text. -/
def copies (count : Nat) (t : List Char) : List Char := (List.replicate count t).flatten

/-- A unit for every two leading spaces, if their number is even. -/
def convertSpaces (unit l : List Char) : List Char :=
  let width := (l.takeWhile (· == ' ')).length
  if width % 2 = 0 then copies (width / 2) unit ++ l.drop width else l

/-- Writes `lead` in front of a line and drops white space at its end. -/
def leadLine (lead l : List Char) : List Char := trimEnd isSpace (lead ++ l)

/-- Writes `lead` in front of every line and drops white space at line
    ends. -/
def leadLines (lead t : List Char) : List Char := unlines ((lines t).map (leadLine lead))

/-- Writes a block at an indentation. -/
def reindent (lead unit t : List Char) : List Char :=
  leadLines lead (unlines ((lines t).map (convertSpaces unit)))

/-- Writes a fragment at an indentation, whatever margin it has. -/
def format (lead unit t : List Char) : List Char := reindent lead unit (unindent t)

end CxxWriter.Block
