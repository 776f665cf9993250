/-
  String literals can be read.

  * `read?` reads a literal: a short escape stands for a character, and up to
    three octal digits for the character of that number;
  * `read?_quoted`: the literal of a text is read as the text, and reading stops
    right behind the closing quote, whatever follows;
  * `bare_quoted`: a literal is a line without white space at its ends;
  * `literals_read_back`: so different texts have different literals, in which there
    are no control characters but those of the text that are beyond ASCII.
-/
import CxxWriter.Literal
import CxxWriter.Proofs.Layout

namespace CxxWriter.Literal

open Text

/-! ## Reading -/

/-- The number that a digit of base eight stands for. -/
def octalValue? (c : Char) : Option Nat :=
  if '0' ≤ c ∧ c ≤ '7' then some (c.toNat - 48) else none

/-- Reads at most `count` octal digits behind those that came to `n`. -/
def readOctal (n : Nat) : Nat → List Char → Nat × List Char
  | count + 1, c :: t =>
    match octalValue? c with
    | some d => readOctal (8 * n + d) count t
    | none => (n, c :: t)
  | _, t => (n, t)

/-- The character that a short escape stands for. -/
def escaped? (c : Char) : Option Char :=
  if c = 'n' then some '\n'
  else if c = 't' then some '\t'
  else if c = 'r' then some '\r'
  else if c = 'a' then some '\x07'
  else if c = 'b' then some '\x08'
  else if c = 'f' then some '\x0c'
  else if c = 'v' then some '\x0b'
  else if c = '\\' ∨ c = '"' ∨ c = '\x27' ∨ c = '?' then some c
  else none

/-- Reads an escape behind its backslash. -/
def readEscape? : List Char → Option (Char × List Char)
  | [] => none
  | c :: t =>
    match octalValue? c with
    | some d => some (Char.ofNat (readOctal d 2 t).1, (readOctal d 2 t).2)
    | none => (escaped? c).map fun e => (e, t)

theorem readOctal_length (n count : Nat) (t : List Char) :
    (readOctal n count t).2.length ≤ t.length := by
  induction count generalizing n t with
  | zero => simp [readOctal]
  | succ count ih =>
    cases t with
    | nil => simp [readOctal]
    | cons c t =>
      simp only [readOctal]
      split
      · next d _ =>
        have := ih (8 * n + d) t
        simp only [List.length_cons]
        omega
      · simp

theorem readEscape?_length {t rest : List Char} {e : Char} (h : readEscape? t = some (e, rest)) :
    rest.length < t.length := by
  cases t with
  | nil => cases h
  | cons c t =>
    simp only [readEscape?] at h
    split at h
    · next d _ =>
      cases h
      have := readOctal_length d 2 t
      simp only [List.length_cons]
      omega
    · obtain ⟨_, -, he⟩ := Option.map_eq_some_iff.1 h
      cases he
      simp

/-- Reads the characters of a literal up to its closing quote, and gives what
    stands behind that.  A literal does not go on over the end of a line. -/
def readBody? (t : List Char) : Option (List Char × List Char) :=
  match t with
  | [] => none
  | c :: t =>
    if c = '"' then some ([], t)
    else if c = '\n' then none
    else if c = '\\' then
      match _h : readEscape? t with
      | some (e, rest) => (readBody? rest).map fun p => (e :: p.1, p.2)
      | none => none
    else (readBody? t).map fun p => (c :: p.1, p.2)
termination_by t.length
decreasing_by
  · have := readEscape?_length _h
    simp only [List.length_cons]
    omega
  · simp

/-- Reads a literal, and gives its text and what stands behind it. -/
def read? : List Char → Option (List Char × List Char)
  | '"' :: t => readBody? t
  | _ => none

/-! ## Reading what was written -/

theorem octalValue?_octalDigit (n : Nat) : octalValue? (octalDigit n) = some (n % 8) := by
  have h : ∀ m < 8, octalValue? (Char.ofNat (48 + m)) = some m := by decide
  exact h (n % 8) (Nat.mod_lt n (by decide))

/-- Three digits are as many as belong to an escape, so that a digit that
    follows is none of them. -/
theorem readEscape?_octal {c : Char} (hc : c.toNat < 128) (t : List Char) :
    readEscape? (octalDigit (c.toNat / 64) :: octalDigit (c.toNat / 8) :: octalDigit c.toNat :: t) =
      some (c, t) := by
  simp only [readEscape?, readOctal, octalValue?_octalDigit]
  have hn : 8 * (8 * (c.toNat / 64 % 8) + c.toNat / 8 % 8) + c.toNat % 8 = c.toNat := by omega
  rw [hn, Char.ofNat_toNat]

theorem escaped?_shortEscape? {c e : Char} (h : shortEscape? c = some e) :
    escaped? e = some c ∧ octalValue? e = none := by
  unfold shortEscape? at h
  repeat' split at h
  all_goals
    first
    | (cases h; subst c; decide)
    | cases h

theorem readBody?_escape {t rest : List Char} {e : Char} (h : readEscape? t = some (e, rest)) :
    readBody? ('\\' :: t) = (readBody? rest).map fun p => (e :: p.1, p.2) := by
  rw [readBody?, if_neg (by decide), if_neg (by decide), if_pos rfl]
  split
  · next h' =>
    rw [h] at h'
    cases h'
    rfl
  · next h' =>
    rw [h] at h'
    cases h'

theorem readBody?_char {c : Char} (hc : shortEscape? c = none) (t : List Char) :
    readBody? (c :: t) = (readBody? t).map fun p => (c :: p.1, p.2) := by
  have hq : c ≠ '"' := by rintro rfl; cases hc
  have hn : c ≠ '\n' := by rintro rfl; cases hc
  have hb : c ≠ '\\' := by rintro rfl; cases hc
  rw [readBody?, if_neg hq, if_neg hn, if_neg hb]

theorem readBody?_escapeChar (c : Char) (t : List Char) :
    readBody? (escapeChar c ++ t) = (readBody? t).map fun p => (c :: p.1, p.2) := by
  unfold escapeChar
  split
  · next e he =>
    obtain ⟨hs, ho⟩ := escaped?_shortEscape? he
    exact readBody?_escape (by simp [readEscape?, ho, hs])
  · next hn =>
    by_cases hc : isControl c
    · rw [if_pos hc]
      have hlt : c.toNat < 128 := by
        simp only [isControl, Bool.or_eq_true, decide_eq_true_eq, beq_iff_eq] at hc
        omega
      exact readBody?_escape (readEscape?_octal hlt t)
    · rw [if_neg hc]
      exact readBody?_char hn t

/-- **The literal of a text is read as the text**, up to its closing quote and no
    further. -/
theorem read?_quoted (v t : List Char) : read? (quoted v ++ t) = some (v, t) := by
  have hbody : readBody? (escape v ++ '"' :: t) = some (v, t) := by
    induction v with
    | nil => rw [escape, List.flatMap_nil, List.nil_append, readBody?, if_pos rfl]
    | cons c v ih =>
      rw [escape] at ih
      rw [escape, List.flatMap_cons, List.append_assoc, readBody?_escapeChar, ih]
      rfl
  simpa [quoted, read?] using hbody

/-! ## The characters of a literal -/

/-- A literal is a line without white space at its ends. -/
theorem bare_quoted (v : List Char) : Tree.IsBare (quoted v) where
  line := fun h => absurd (isControl_quoted h) (by decide)
  first := ⟨'"', rfl, by decide⟩
  last := by
    intro c hc
    rw [quoted, List.getLast?_concat] at hc
    cases hc
    decide

/-! ## Control characters -/

/-- A control character beyond ASCII. -/
def isWideControl (c : Char) : Bool := 0x80 ≤ c.toNat && c.toNat ≤ 0x9f

/-- A control character, of ASCII or beyond it. -/
def isAnyControl (c : Char) : Bool := isControl c || isWideControl c

theorem filter_escapeChar (c : Char) :
    (escapeChar c).filter isAnyControl = [c].filter isWideControl := by
  by_cases h : c.toNat < 0x80
  · have hnone : ∀ d ∈ escapeChar c, ¬ isAnyControl d = true := by
      intro d hd
      obtain ⟨hascii, hcontrol⟩ := escapeChar_ascii h hd
      simp only [isAnyControl, hcontrol, isWideControl, Bool.false_or, Bool.and_eq_true, decide_eq_true_eq]
      omega
    have hc : ¬ isWideControl c = true := by
      simp only [isWideControl, Bool.and_eq_true, decide_eq_true_eq]
      omega
    rw [List.filter_eq_nil_iff.2 hnone, List.filter_cons_of_neg hc]
    rfl
  · have hself := escapeChar_wide (by omega : 0x80 ≤ c.toNat)
    have hcontrol : isControl c = false := isControl_escapeChar (by rw [hself]; exact List.mem_cons_self)
    have hsame : isAnyControl c = isWideControl c := by rw [isAnyControl, hcontrol, Bool.false_or]
    rw [hself, List.filter_cons, List.filter_cons, hsame]
    rfl

/-- The control characters of a literal are those of its text that are beyond ASCII. -/
theorem filter_quoted (t : List Char) :
    (quoted t).filter isAnyControl = t.filter isWideControl := by
  have hescape : (escape t).filter isAnyControl = t.filter isWideControl := by
    induction t with
    | nil => rfl
    | cons c t ih =>
      rw [escape] at ih
      rw [escape, List.flatMap_cons, List.filter_append, ih, filter_escapeChar, ← List.filter_append]
      rfl
  rw [quoted, List.filter_append, List.filter_cons_of_neg (by decide), hescape,
    List.filter_cons_of_neg (by decide), List.filter_nil, List.append_nil]

/-- **Literals can be read back.**  In front of any text, the literal of a text is read as
    that text, and what follows the literal is left; so different texts have different
    literals.  There are no control characters of ASCII in a literal; all others stand
    for themselves. -/
theorem literals_read_back (v : String) :
    (∀ rest, read? ((ofString v).toList ++ rest) = some (v.toList, rest)) ∧
    (∀ w, ofString v = ofString w ↔ v = w) ∧
    (ofString v).toList.any isControl = false ∧
    (ofString v).toList.filter isAnyControl = v.toList.filter isWideControl := by
  have hread (v : String) (rest : List Char) : read? ((ofString v).toList ++ rest) = some (v.toList, rest) := by
    rw [ofString, String.toList_ofList, read?_quoted]
  refine ⟨hread v, fun w => ⟨fun h => ?_, congrArg ofString⟩, ?_, ?_⟩
  · have hv := hread v []
    rw [h, hread w [], Option.some.injEq, Prod.mk.injEq] at hv
    exact String.toList_inj.1 hv.1.symm
  · rw [ofString, String.toList_ofList, List.any_eq_false]
    exact fun c hc => by rw [isControl_quoted hc]; exact Bool.false_ne_true
  · rw [ofString, String.toList_ofList, filter_quoted]

/-- The control character for the next line is kept as it is. -/
theorem control_in_literal : '\u0085' ∈ (ofString "\u0085").toList ∧ isAnyControl '\u0085' = true := by
  decide +kernel

end CxxWriter.Literal
