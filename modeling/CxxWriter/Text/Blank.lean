/-
  Blank characters, trimming and lines.

  Text is cut up as a list of characters.  Two classes of blank characters are
  in use: `isBlank`, the six characters that separate tokens of a C source
  file, and `isSpace`, the white space of Unicode.

  * `trimStart`, `trimEnd`, `trim` drop characters of a class from the ends of
    a list;
  * `splitOn sep` cuts at every separator and `joinWith sep` puts the pieces
    together again: `joinWith_splitOn` and `splitOn_joinWith` say that they
    undo each other.  Lines are the pieces for the separator `'\n'`.
-/

namespace CxxWriter.Text

/-- Space, tab, carriage return, line feed, form feed and vertical tab. -/
def isBlank (c : Char) : Bool :=
  c == ' ' || c == '\t' || c == '\r' || c == '\n' || c == '\x0c' || c == '\x0b'

/-- White space beyond ASCII: next line, no-break space, and the separators
    of the general punctuation and ideographic blocks. -/
def isWideSpace (c : Char) : Bool :=
  let n := c.toNat
  n == 0x85 || n == 0xa0 || n == 0x1680 || (0x2000 ≤ n && n ≤ 0x200a) || n == 0x2028 ||
    n == 0x2029 || n == 0x202f || n == 0x205f || n == 0x3000

/-- White space: the blank characters, the four ASCII separators from `\x1c`
    to `\x1f`, and the white space beyond ASCII. -/
def isSpace (c : Char) : Bool :=
  isBlank c || (0x1c ≤ c.toNat && c.toNat ≤ 0x1f) || isWideSpace c

theorem isSpace_of_isBlank {c : Char} (h : isBlank c = true) : isSpace c = true := by
  simp [isSpace, h]

/-! ## Trimming -/

variable {α : Type}

/-- Drops the longest run of `p` at the front. -/
def trimStart (p : α → Bool) (l : List α) : List α := l.dropWhile p

/-- Drops the longest run of `p` at the end. -/
def trimEnd (p : α → Bool) (l : List α) : List α := (l.reverse.dropWhile p).reverse

/-- Drops the longest runs of `p` at both ends. -/
def trim (p : α → Bool) (l : List α) : List α := trimEnd p (trimStart p l)

/-! ## Pieces between separators -/

section
variable [DecidableEq α] (sep : α)

/-- The pieces between the separators; there is one more than separators. -/
def splitOn : List α → List (List α)
  | [] => [[]]
  | a :: l =>
    if a = sep then [] :: splitOn l
    else match splitOn l with
      | [] => [[a]]
      | p :: ps => (a :: p) :: ps

omit [DecidableEq α] in
/-- The pieces with one separator between neighbours. -/
def joinWith : List (List α) → List α
  | [] => []
  | [p] => p
  | p :: q :: ps => p ++ sep :: joinWith (q :: ps)

theorem splitOn_ne_nil (l : List α) : splitOn sep l ≠ [] := by
  cases l with
  | nil => simp [splitOn]
  | cons a l =>
    simp only [splitOn]
    split
    · simp
    · split <;> simp

/-- Cutting loses nothing. -/
theorem joinWith_splitOn (l : List α) : joinWith sep (splitOn sep l) = l := by
  induction l with
  | nil => rfl
  | cons a l ih =>
    simp only [splitOn]
    split
    · next h =>
      cases hs : splitOn sep l with
      | nil => exact absurd hs (splitOn_ne_nil sep l)
      | cons p ps => rw [hs] at ih; simp [joinWith, ih, h]
    · cases hs : splitOn sep l with
      | nil => exact absurd hs (splitOn_ne_nil sep l)
      | cons p ps =>
        rw [hs] at ih
        cases ps with
        | nil => simpa [joinWith] using ih
        | cons q qs => simpa [joinWith] using ih

theorem splitOn_append {p : List α} (h : sep ∉ p) (l : List α) :
    splitOn sep (p ++ sep :: l) = p :: splitOn sep l := by
  induction p with
  | nil => simp [splitOn]
  | cons a p ih =>
    have ha : a ≠ sep := fun e => h (e ▸ List.mem_cons_self)
    have hp : sep ∉ p := fun m => h (List.mem_cons_of_mem _ m)
    simp [splitOn, ha, ih hp]

theorem splitOn_of_not_mem {p : List α} (h : sep ∉ p) : splitOn sep p = [p] := by
  induction p with
  | nil => rfl
  | cons a p ih =>
    have ha : a ≠ sep := fun e => h (e ▸ List.mem_cons_self)
    have hp : sep ∉ p := fun m => h (List.mem_cons_of_mem _ m)
    simp [splitOn, ha, ih hp]

/-- Pieces without a separator in them are found again. -/
theorem splitOn_joinWith {ps : List (List α)} (hne : ps ≠ []) (h : ∀ p ∈ ps, sep ∉ p) :
    splitOn sep (joinWith sep ps) = ps := by
  induction ps with
  | nil => exact absurd rfl hne
  | cons p ps ih =>
    cases ps with
    | nil => simpa [joinWith] using splitOn_of_not_mem sep (h p (by simp))
    | cons q qs =>
      have hp := h p (by simp)
      have := ih (by simp) fun r hr => h r (List.mem_cons_of_mem _ hr)
      simp [joinWith, splitOn_append sep hp, this]

end

/-- The lines of a text: the pieces between its line feeds. -/
abbrev lines (t : List Char) : List (List Char) := splitOn '\n' t

/-- Lines with a line feed between neighbours. -/
abbrev unlines (ls : List (List Char)) : List Char := joinWith '\n' ls

/-- Writes every line end, `\r\n` or `\r`, as a line feed. -/
def normalizeLines : List Char → List Char
  | [] => []
  | '\r' :: '\n' :: cs => '\n' :: normalizeLines cs
  | '\r' :: cs => '\n' :: normalizeLines cs
  | c :: cs => c :: normalizeLines cs

/-! ## Strings -/

/-- Drops the characters of a class at both ends. -/
def trimString (p : Char → Bool) (s : String) : String := String.ofList (trim p s.toList)

/-- The pieces of a string between its separators. -/
def splitString (sep : Char) (s : String) : List String := (splitOn sep s.toList).map String.ofList

/-- Is `p` at the front of `l`?  Then what follows it. -/
def dropPrefix? [DecidableEq α] : List α → List α → Option (List α)
  | [], l => some l
  | _ :: _, [] => none
  | a :: p, b :: l => if a = b then dropPrefix? p l else none

/-- Does `p` occur in the list? -/
def occursIn [DecidableEq α] (p : List α) : List α → Bool
  | [] => p.isEmpty
  | c :: cs => (dropPrefix? p (c :: cs)).isSome || occursIn p cs

/-- Replaces every occurrence of `old`, from the left and without overlap,
    at most `count` times.  An empty `old` occurs before every character and
    at the end. -/
def replaceFrom (old new : List Char) : Nat → List Char → Nat → List Char
  | 0, l, _ => l
  | _ + 1, l, 0 => l
  | fuel + 1, l, count + 1 =>
    match old, l with
    | [], [] => new
    | [], c :: cs => new ++ c :: replaceFrom old new fuel cs count
    | _ :: _, [] => []
    | _ :: _, c :: cs =>
      match dropPrefix? old (c :: cs) with
      | some rest => new ++ replaceFrom old new fuel rest count
      | none => c :: replaceFrom old new fuel cs (count + 1)

/-- Replaces the first `count` occurrences of `old`, all of them without a
    `count`. -/
def replace (s old new : String) (count : Option Nat) : String :=
  let l := s.toList
  String.ofList (replaceFrom old.toList new.toList (l.length + 1) l (count.getD (l.length + 1)))

end CxxWriter.Text
