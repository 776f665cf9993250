/-
  Upper, lower and title case of text.

  A letter may have several characters as its other case (`ß` is `SS`), so
  the case maps send a character to a list.  The lower case of the Greek
  capital sigma hangs on its place: at the end of a word it is `ς`, elsewhere
  `σ`.

  * `toLower`, `toUpper` map a whole text;
  * `capitalize` writes the first character in title case and the rest in
    lower case.
-/
import CxxWriter.Text.CaseTable
import CxxWriter.Text.Printable

namespace CxxWriter.Text

/-- The shift of the run that holds `n`, if one does. -/
def caseShift? (runs : Array CaseRun) (n : Nat) : Option Int :=
  (runs.find? fun r => r.first ≤ n && n ≤ r.last && (n - r.first) % r.stride == 0).map (·.shift)

/-- The other case of a single letter; all else is mapped to itself. -/
def shiftCase (runs : Array CaseRun) (c : Char) : Char :=
  match caseShift? runs c.toNat with
  | some d => Char.ofNat (c.toNat + d).toNat
  | none => c

/-- The entry of `c` in a table of single cases. -/
def exceptionOf? (table : Array (Nat × List Nat)) (c : Char) : Option (List Char) :=
  (table.find? (·.1 == c.toNat)).map (·.2.map Char.ofNat)

/-- Upper case of a character. -/
def upperChar (c : Char) : List Char :=
  if c.toNat < 0x80 then [c.toUpper]
  else (exceptionOf? upperExpansions c).getD [shiftCase upperRuns c]

/-- Title case of a character. -/
def titleChar (c : Char) : List Char :=
  if c.toNat < 0x80 then [c.toUpper]
  else (exceptionOf? titleExceptions c).getD (upperChar c)

/-- Lower case of a character, a capital sigma aside. -/
def lowerChar (c : Char) : List Char :=
  if c.toNat < 0x80 then [c.toLower]
  else if c = 'İ' then ['i', '\u0307']
  else [shiftCase lowerRuns c]

/-- A letter that has a case and is not passed over. -/
def isCased (c : Char) : Bool :=
  if c.toNat < 0x80 then c.isAlpha else inRuns casedRuns c.toNat

/-- A character that is passed over when a word is searched for a cased
    letter. -/
def isCaseIgnorable (c : Char) : Bool := inRuns caseIgnorableRuns c.toNat

/-- Is the first character that is not passed over a cased letter? -/
def startsCased (l : List Char) : Bool :=
  match l.dropWhile isCaseIgnorable with
  | c :: _ => isCased c
  | [] => false

/-- Lower case of what follows `before`, which is given last character first:
    a capital sigma ends a word iff a cased letter comes before it and none
    after it. -/
def lowerAfter (before : List Char) : List Char → List Char
  | [] => []
  | c :: cs =>
    (if c = 'Σ' then
      [if startsCased before && !startsCased cs then 'ς' else 'σ']
     else lowerChar c) ++ lowerAfter (c :: before) cs

/-- Lower case of a text. -/
def toLower (s : String) : String := String.ofList (lowerAfter [] s.toList)

/-- Upper case of a text. -/
def toUpper (s : String) : String := String.ofList (s.toList.flatMap upperChar)

/-- The first character in title case, the rest in lower case. -/
def capitalize (s : String) : String :=
  match s.toList with
  | [] => ""
  | c :: cs => String.ofList (titleChar c ++ lowerAfter [c] cs)

end CxxWriter.Text
