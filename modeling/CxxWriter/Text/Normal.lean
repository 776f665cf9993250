/-
  Normal forms of identifiers.

  Two identifiers are the same if they differ only in how their characters are
  written: `ﬁ` as one character or as two, `é` as a letter with an accent or
  as one.  `normal` replaces all characters by the plainest ones, puts the
  marks on a letter in order, and composes letters with their marks.
-/
import CxxWriter.Text.Blank
import CxxWriter.Text.NormalTable

namespace CxxWriter.Text

/-- The value of a hexadecimal number in lower case. -/
def hexValue (cs : List Char) : Nat :=
  cs.foldl (fun n c => n * 16 + (if c.isDigit then c.toNat - 48 else c.toNat - 87)) 0

/-- The entries of lines: what stands before a colon, split at a mark, with
    what stands after it, split at points. -/
def entriesOf (mark : Char) (lines : List String) : List (List Nat × List Nat) :=
  lines.flatMap fun line => (splitOn ' ' line.toList).filterMap fun entry =>
    match splitOn ':' entry with
    | [key, value] => some ((splitOn mark key).map hexValue, (splitOn '.' value).map hexValue)
    | _ => none

/-- The entry of a range that holds `n`, with the distance from its start. -/
def rangeEntry? (entries : List (List Nat × List Nat)) (n : Nat) : Option (Nat × List Nat) :=
  entries.findSome? fun (key, value) =>
    match key with
    | [a] => if n = a then some (0, value) else none
    | [a, b] => if a ≤ n ∧ n ≤ b then some (n - a, value) else none
    | _ => none

/-- The tables in use. -/
structure Normalizer where
  replacements : List (List Nat × List Nat)
  compositions : List (List Nat × List Nat)
  marks : List (List Nat × List Nat)

def Normalizer.standard : Normalizer :=
  ⟨entriesOf '-' replacementLines, entriesOf '.' compositionLines, entriesOf '-' markLines⟩

/-! ## Syllables

Korean syllables are composed by number. -/

def syllableBase : Nat := 0xac00
def leadBase : Nat := 0x1100
def vowelBase : Nat := 0x1161
def tailBase : Nat := 0x11a7
def leadCount : Nat := 19
def vowelCount : Nat := 21
def tailCount : Nat := 28

/-- The parts of a syllable. -/
def syllableParts? (n : Nat) : Option (List Nat) :=
  if syllableBase ≤ n ∧ n < syllableBase + leadCount * vowelCount * tailCount then
    let i := n - syllableBase
    let lead := leadBase + i / (vowelCount * tailCount)
    let vowel := vowelBase + i % (vowelCount * tailCount) / tailCount
    let tail := i % tailCount
    some ([lead, vowel] ++ (if tail = 0 then [] else [tailBase + tail]))
  else none

/-- The syllable that two parts make up. -/
def syllable? (a b : Nat) : Option Nat :=
  if leadBase ≤ a ∧ a < leadBase + leadCount ∧ vowelBase ≤ b ∧ b < vowelBase + vowelCount then
    some (syllableBase + ((a - leadBase) * vowelCount + (b - vowelBase)) * tailCount)
  else if syllableBase ≤ a ∧ a < syllableBase + leadCount * vowelCount * tailCount ∧
      (a - syllableBase) % tailCount = 0 ∧ tailBase < b ∧ b < tailBase + tailCount then
    some (a + (b - tailBase))
  else none

namespace Normalizer

/-! ## Decomposition -/

/-- The pair of characters that makes up a character. -/
def pair? (t : Normalizer) (n : Nat) : Option (Nat × Nat) :=
  t.compositions.findSome? fun (key, value) =>
    match key with
    | [a, b] => if value = [n] then some (a, b) else none
    | _ => none

/-- The characters that a character is replaced by.  `fuel` bounds how often
    the first of a pair is a pair again. -/
def decompose (t : Normalizer) : Nat → Nat → List Nat
  | 0, n => [n]
  | fuel + 1, n =>
    match rangeEntry? t.replacements n with
    | some (i, [m]) => [m + i]
    | some (_, ms) => ms
    | none =>
      match syllableParts? n with
      | some parts => parts
      | none =>
        match t.pair? n with
        | some (a, b) => t.decompose fuel a ++ [b]
        | none => [n]

/-- The place of a mark in the order of marks; zero for other characters. -/
def markOf (t : Normalizer) (n : Nat) : Nat :=
  match rangeEntry? t.marks n with
  | some (_, [m]) => m
  | _ => 0

/-- Puts a character before others; it goes behind those that come before it
    in the order of marks. -/
def insertMark (t : Normalizer) (n : Nat) : List Nat → List Nat
  | [] => [n]
  | m :: ms =>
    if t.markOf n ≠ 0 ∧ t.markOf m ≠ 0 ∧ t.markOf m < t.markOf n then m :: t.insertMark n ms
    else n :: m :: ms

/-- Puts the marks on every letter in order. -/
def orderMarks (t : Normalizer) (ns : List Nat) : List Nat := ns.foldr t.insertMark []

/-! ## Composition -/

/-- The character that two characters make up. -/
def compose? (t : Normalizer) (a b : Nat) : Option Nat :=
  match syllable? a b with
  | some n => some n
  | none => (t.compositions.find? (·.1 = [a, b])).bind (·.2.head?)

/-- Composes a letter with what follows it.  `skipped` are the marks that
    have not been composed, the last one first. -/
def composeFrom (t : Normalizer) (letter : Nat) (skipped : List Nat) : List Nat → List Nat
  | [] => letter :: skipped.reverse
  | n :: ns =>
    let blocked := match skipped with
      | [] => false
      | s :: _ => t.markOf s = 0 || t.markOf n ≤ t.markOf s
    match (if blocked then none else t.compose? letter n) with
    | some m => t.composeFrom m skipped ns
    | none =>
      if t.markOf n = 0 then letter :: skipped.reverse ++ t.composeFrom n [] ns
      else t.composeFrom letter (n :: skipped) ns

/-- Composes letters with their marks. -/
def compose (t : Normalizer) : List Nat → List Nat
  | [] => []
  | n :: ns => t.composeFrom n [] ns

/-- The normal form of a text. -/
def apply (t : Normalizer) (s : String) : String :=
  let ns := s.toList.flatMap fun c => t.decompose 8 c.toNat
  String.ofList ((t.compose (t.orderMarks ns)).map Char.ofNat)

end Normalizer

/-- The normal form of an identifier. -/
def normal (s : String) : String :=
  if s.toList.all (·.toNat < 0x80) then s else Normalizer.standard.apply s

end CxxWriter.Text
