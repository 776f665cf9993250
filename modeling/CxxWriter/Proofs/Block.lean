/-
  Blocks line by line.

  * `format_eq`: a fragment is written line by line, once it has lost its margin
    (`formatLine`);
  * `leadLine_margin`: more white space in front of a line moves what is written,
    unless nothing is;
  * `ink_of_getLast?`: the last line of a block that is not empty is not blank;
  * `unindent_line`: a single line without blanks at its ends is a block already.
-/
import CxxWriter.Block
import CxxWriter.Proofs.Lines

namespace CxxWriter.Block

open Text

/-- A margin: white space without line feeds. -/
def IsMargin (u : List Char) : Prop := ∀ c ∈ u, isSpace c = true ∧ c ≠ '\n'

instance (u : List Char) : Decidable (IsMargin u) := List.decidableBAll _ _

theorem IsMargin.of_spaces {u : List Char} (h : ∀ c ∈ u, c = ' ' ∨ c = '\t') : IsMargin u := by
  intro c hc
  rcases h c hc with rfl | rfl
  · exact ⟨by decide, by decide⟩
  · exact ⟨by decide, by decide⟩

theorem IsMargin.newline {u : List Char} (h : IsMargin u) : '\n' ∉ u := fun hn => (h _ hn).2 rfl

theorem mem_of_mem_copies {n : Nat} {t : List Char} {c : Char} (h : c ∈ copies n t) : c ∈ t := by
  obtain ⟨l, hl, hc⟩ := List.mem_flatten.1 h
  rwa [List.eq_of_mem_replicate hl] at hc

theorem IsMargin.copies {u : List Char} (h : IsMargin u) (n : Nat) : IsMargin (copies n u) :=
  fun c hc => h c (mem_of_mem_copies hc)

theorem copies_add (m n : Nat) (t : List Char) : copies (m + n) t = copies m t ++ copies n t := by
  simp only [copies, List.replicate_add, List.flatten_append]

theorem copies_eq_nil {n : Nat} {t : List Char} : copies n t = [] ↔ n = 0 ∨ t = [] := by
  simp only [copies, List.flatten_eq_nil_iff, List.mem_replicate]
  constructor
  · intro h
    exact or_iff_not_imp_left.2 fun hn => h t ⟨hn, rfl⟩
  · rintro (rfl | rfl) l ⟨hn, hl⟩
    · exact absurd rfl hn
    · exact hl

theorem copies_singleton (n : Nat) (c : Char) : copies n [c] = List.replicate n c :=
  List.flatten_replicate_singleton

theorem copies_tab (n : Nat) : ∀ c ∈ copies n ['\t'], (c == '\t') = true := fun _ hc =>
  beq_iff_eq.2 (List.mem_singleton.1 (mem_of_mem_copies hc))

theorem copies_space (n : Nat) : ∀ c ∈ copies n ['\t'], isSpace c = true := by
  intro c hc
  rw [beq_iff_eq.1 (copies_tab n c hc)]
  rfl

/-- Tabs in front of what does not start with one. -/
theorem span_tabs (n : Nat) {l : List Char} (h : l.head? ≠ some '\t') :
    (copies n ['\t'] ++ l).takeWhile (· == '\t') = copies n ['\t'] ∧
      (copies n ['\t'] ++ l).dropWhile (· == '\t') = l := by
  have hl : l.takeWhile (· == '\t') = [] ∧ l.dropWhile (· == '\t') = l := by
    cases l with
    | nil => exact ⟨rfl, rfl⟩
    | cons c l =>
      have hc : ¬ (c == '\t') = true := fun hc => h (by rw [beq_iff_eq.1 hc]; rfl)
      exact ⟨List.takeWhile_cons_of_neg hc, List.dropWhile_cons_of_neg hc⟩
  rw [List.takeWhile_append_of_pos (copies_tab n), List.dropWhile_append_of_pos (copies_tab n), hl.1,
    hl.2, List.append_nil]
  exact ⟨rfl, rfl⟩

/-! ## Lines of a block -/

/-- A line of a block at an indentation. -/
def formatLine (lead unit l : List Char) : List Char := leadLine lead (convertSpaces unit l)

theorem newline_convertSpaces {unit l : List Char} (hu : '\n' ∉ unit) (hl : '\n' ∉ l) :
    '\n' ∉ convertSpaces unit l := by
  unfold convertSpaces
  dsimp only
  split
  · intro h
    rcases List.mem_append.1 h with h | h
    · exact hu (mem_of_mem_copies h)
    · exact hl (List.mem_of_mem_drop h)
  · exact hl

theorem newline_leadLine {lead l : List Char} (hd : '\n' ∉ lead) (hl : '\n' ∉ l) :
    '\n' ∉ leadLine lead l := by
  intro h
  rcases List.mem_append.1 (mem_of_mem_trimEnd h) with h | h
  · exact hd h
  · exact hl h

theorem newline_formatLine {lead unit l : List Char} (hd : '\n' ∉ lead) (hu : '\n' ∉ unit)
    (hl : '\n' ∉ l) : '\n' ∉ formatLine lead unit l :=
  newline_leadLine hd (newline_convertSpaces hu hl)

/-- The lines keep apart while spaces become units. -/
theorem reindent_eq (lead : List Char) {unit : List Char} (hu : '\n' ∉ unit) (t : List Char) :
    reindent lead unit t = unlines ((lines t).map (formatLine lead unit)) := by
  have hne : (lines t).map (convertSpaces unit) ≠ [] := by
    simpa using splitOn_ne_nil '\n' t
  have hlines : lines (unlines ((lines t).map (convertSpaces unit))) =
      (lines t).map (convertSpaces unit) := by
    refine splitOn_joinWith _ hne fun l hl => ?_
    obtain ⟨m, hm, rfl⟩ := List.mem_map.1 hl
    exact newline_convertSpaces hu (not_mem_of_mem_lines hm)
  rw [reindent, leadLines, hlines, List.map_map]
  rfl

theorem format_eq (lead : List Char) {unit : List Char} (hu : '\n' ∉ unit) (t : List Char) :
    format lead unit t = unlines ((lines (unindent t)).map (formatLine lead unit)) :=
  reindent_eq lead hu _

/-- White space in front of a line stays if something of the line does. -/
theorem leadLine_margin {margin : List Char} (h : ∀ c ∈ margin, isSpace c = true) (lead l : List Char) :
    leadLine (margin ++ lead) l = marginLine margin (leadLine lead l) := by
  unfold leadLine
  rw [List.append_assoc, trimEnd_append, marginLine]
  split
  · exact trimEnd_eq_nil.2 h
  · rfl

theorem formatLine_margin {margin : List Char} (h : ∀ c ∈ margin, isSpace c = true)
    (lead unit l : List Char) :
    formatLine (margin ++ lead) unit l = marginLine margin (formatLine lead unit l) :=
  leadLine_margin h lead _

theorem drop_takeWhile (p : Char → Bool) (l : List Char) :
    l.drop (l.takeWhile p).length = l.dropWhile p := by
  induction l with
  | nil => rfl
  | cons a l ih => by_cases h : p a <;> simp [h, ih]

/-- A character that is no white space is written wherever its line starts. -/
theorem mem_formatLine {l : List Char} {c : Char} (hc : c ∈ l) (hs : isSpace c = false)
    (lead unit : List Char) : c ∈ formatLine lead unit l := by
  refine mem_trimEnd (List.mem_append_right _ ?_) hs
  unfold convertSpaces
  dsimp only
  split
  · refine List.mem_append_right _ ?_
    have hsplit := List.takeWhile_append_dropWhile (p := (· == ' ')) (l := l)
    rw [← hsplit] at hc
    rcases List.mem_append.1 hc with hc | hc
    · have hsp := List.mem_takeWhile_imp hc
      rw [beq_iff_eq] at hsp
      rw [hsp] at hs
      cases hs
    · rwa [drop_takeWhile]
  · exact hc

/-! ## The normal form -/

/-- The margin that is dropped leaves all of a line but blanks. -/
theorem mem_dropMargin {width : Nat} {l : List Char} {c : Char} (hw : width ≤ margin l) (hc : c ∈ l)
    (hb : isBlank c = false) : c ∈ dropMargin width l := by
  have hl : isBlankLine l = false := by
    rw [isBlankLine, List.all_eq_false]
    exact ⟨c, hc, by simp [hb]⟩
  rw [dropMargin, hl, if_neg (by simp)]
  have hdrop : c ∈ l.dropWhile isBlank := by
    rw [← List.takeWhile_append_dropWhile (p := isBlank) (l := l)] at hc
    rcases List.mem_append.1 hc with hc | hc
    · have := List.mem_takeWhile_imp hc
      simp [hb] at this
    · exact hc
  rw [← drop_takeWhile] at hdrop
  rw [show (l.takeWhile isBlank).length = width + (margin l - width) from (Nat.add_sub_cancel' hw).symm,
    ← List.drop_drop] at hdrop
  exact List.mem_of_mem_drop hdrop

theorem commonMargin_le {ls : List (List Char)} {l : List Char} (hl : l ∈ ls)
    (hb : isBlankLine l = false) : commonMargin ls ≤ margin l :=
  List.min?_getD_le_of_mem (List.mem_map_of_mem (List.mem_filter.2 ⟨hl, by simp [hb]⟩))

theorem trimLastLine_concat (ls : List (List Char)) (l : List Char) :
    trimLastLine (ls ++ [l]) = ls ++ [trimEnd isBlank l] := by
  induction ls with
  | nil => rfl
  | cons m ls ih =>
    cases ls with
    | nil => rfl
    | cons k ls => simpa [trimLastLine] using ih

/-- The last line of a block has something on it that is not blank. -/
theorem ink_of_getLast?_unindentLines {ls : List (List Char)} {l : List Char}
    (h : (unindentLines ls).getLast? = some l) : ∃ c ∈ l, isBlank c = false := by
  unfold unindentLines at h
  dsimp only at h
  rcases List.eq_nil_or_concat (trim isBlankLine ls) with hn | ⟨ms, m, hm⟩
  · simp [hn, trimLastLine] at h
  · have hlast : isBlankLine m = false := by
      refine getLast?_trimEnd (l := trimStart isBlankLine ls) ?_
      rw [← trim, hm]
      simp
    rw [isBlankLine, List.all_eq_false] at hlast
    obtain ⟨c, hc, hb⟩ := hlast
    have hb : isBlank c = false := eq_false_of_ne_true hb
    have hc : c ∈ trimEnd isBlank m := mem_trimEnd hc hb
    rw [hm, List.concat_eq_append, trimLastLine_concat] at h
    simp only [List.map_append, List.map_singleton, List.getLast?_concat, Option.some.injEq] at h
    subst h
    refine ⟨c, mem_dropMargin (commonMargin_le (by simp) ?_) hc hb, hb⟩
    rw [isBlankLine, List.all_eq_false]
    exact ⟨c, hc, by simp [hb]⟩

/-- Nothing is written that was not on a line. -/
theorem mem_of_mem_unindentLines {ls : List (List Char)} {l : List Char} {c : Char}
    (h : l ∈ unindentLines ls) (hc : c ∈ l) : ∃ m ∈ ls, c ∈ m := by
  have hin : ∀ m ∈ trim isBlankLine ls, m ∈ ls := fun m hm =>
    (List.dropWhile_suffix _).subset (mem_of_mem_trimEnd hm)
  unfold unindentLines at h
  dsimp only at h
  obtain ⟨m, hm, rfl⟩ := List.mem_map.1 h
  have hc : c ∈ m := by
    unfold dropMargin at hc
    split at hc
    · simp at hc
    · exact List.mem_of_mem_drop hc
  rcases List.eq_nil_or_concat (trim isBlankLine ls) with hn | ⟨ms, k, hk⟩
  · simp [hn, trimLastLine] at hm
  · rw [hk, List.concat_eq_append] at hin
    rw [hk, List.concat_eq_append, trimLastLine_concat] at hm
    rcases List.mem_append.1 hm with hm | hm
    · exact ⟨m, hin m (List.mem_append_left _ hm), hc⟩
    · rw [List.mem_singleton.1 hm] at hc
      exact ⟨k, hin k (by simp), mem_of_mem_trimEnd hc⟩

/-- The lines of the normal form are those that it is made of. -/
theorem lines_unindent (t : List Char) :
    lines (unindent t) = unindentLines (lines t) ∨ unindent t = [] := by
  by_cases h : unindentLines (lines t) = []
  · right
    rw [unindent, h]
    rfl
  · left
    refine splitOn_joinWith _ h fun l hl hn => ?_
    obtain ⟨m, hm, hn⟩ := mem_of_mem_unindentLines hl hn
    exact not_mem_of_mem_lines hm hn

/-- Only of a blank block nothing is left. -/
theorem unindent_ne_nil {t : List Char} {c : Char} (hc : c ∈ t) (hb : isBlank c = false) :
    unindent t ≠ [] := by
  have hn : c ≠ '\n' := by
    rintro rfl
    cases hb
  have hkept : ∃ m, m ∈ trim isBlankLine (lines t) := by
    rw [← joinWith_splitOn '\n' t] at hc
    obtain ⟨m, hm, hc⟩ := (mem_unlines hc).resolve_left hn
    have hm' : isBlankLine m = false := by
      rw [isBlankLine, List.all_eq_false]
      exact ⟨c, hc, by simp [hb]⟩
    refine ⟨m, mem_trimEnd (l := trimStart isBlankLine (lines t)) ?_ hm'⟩
    rw [← List.takeWhile_append_dropWhile (p := isBlankLine) (l := splitOn '\n' t)] at hm
    rcases List.mem_append.1 hm with hm | hm
    · have := List.mem_takeWhile_imp hm
      simp [hm'] at this
    · exact hm
  have hlines : unindentLines (lines t) ≠ [] := by
    obtain ⟨m, hm⟩ := hkept
    obtain ⟨ks, k, hk⟩ := (List.eq_nil_or_concat _).resolve_left (List.ne_nil_of_mem hm)
    simp [unindentLines, hk, trimLastLine_concat]
  intro he
  obtain ⟨ks, k, hk⟩ := (List.eq_nil_or_concat _).resolve_left hlines
  obtain ⟨a, ha, -⟩ := ink_of_getLast?_unindentLines (l := k) (by rw [hk]; simp)
  rw [unindent, hk, List.concat_eq_append, unlines_concat] at he
  rw [(List.append_eq_nil_iff.1 he).2] at ha
  cases ha

/-- The last line of a block that is not empty has something on it. -/
theorem ink_of_getLast? {t l : List Char} (ht : unindent t ≠ [])
    (h : (lines (unindent t)).getLast? = some l) : ∃ c ∈ l, isBlank c = false := by
  rw [(lines_unindent t).resolve_right ht] at h
  exact ink_of_getLast?_unindentLines h

/-- The lines of the normal form consist of characters of the block. -/
theorem mem_of_mem_unindent {t l : List Char} {c : Char} (hl : l ∈ lines (unindent t)) (hc : c ∈ l) :
    c ∈ t := by
  rcases lines_unindent t with h | h
  · rw [h] at hl
    obtain ⟨m, hm, hc⟩ := mem_of_mem_unindentLines hl hc
    exact mem_of_mem_line hm hc
  · rw [h] at hl
    rw [List.mem_singleton.1 hl] at hc
    simp at hc

theorem mem_unindent {t : List Char} {c : Char} (h : c ∈ unindent t) (hc : c ≠ '\n') : c ∈ t := by
  obtain ⟨l, hl, hc⟩ := (mem_unlines h).resolve_left hc
  obtain ⟨m, hm, hc⟩ := mem_of_mem_unindentLines hl hc
  exact mem_of_mem_line hm hc

/-- A line without blanks at its ends is a block already. -/
theorem unindent_line {l : List Char} (hn : '\n' ∉ l) {c : Char} (hh : l.head? = some c)
    (hc : isBlank c = false) (hl : ∀ a, l.getLast? = some a → isBlank a = false) :
    unindent l = l := by
  obtain ⟨r, rfl⟩ : ∃ r, l = c :: r := by
    cases l with
    | nil => cases hh
    | cons a r => cases hh; exact ⟨r, rfl⟩
  have hb : isBlankLine (c :: r) = false := by simp [isBlankLine, hc]
  have ht : trim isBlankLine [c :: r] = [c :: r] := by simp [trim, trimStart, trimEnd, hb]
  have hm : commonMargin [c :: r] = 0 := by simp [commonMargin, hb, margin, hc]
  rw [unindent, lines, splitOn_of_not_mem _ hn, unindentLines, ht]
  simp only [trimLastLine, trimEnd_eq_self hl, hm, List.map_singleton, unlines_singleton, dropMargin,
    hb, List.drop_zero, if_neg (by simp : ¬ false = true)]

/-- A line that does not start with a space has none to convert. -/
theorem convertSpaces_line (unit : List Char) {l : List Char} (h : l.head? ≠ some ' ') :
    convertSpaces unit l = l := by
  have hw : l.takeWhile (· == ' ') = [] := by
    cases l with
    | nil => rfl
    | cons a r =>
      refine List.takeWhile_cons_of_neg fun ha => h ?_
      rw [List.head?_cons, beq_iff_eq.1 ha]
  simp [convertSpaces, hw, copies]

end CxxWriter.Block
