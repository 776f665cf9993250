/-
  The normal form of a block.

  * `IsCut width l m`: the line `m` is what is left of `l` without its first `width`
    characters, which are blank; of a blank line nothing is left;
  * `IsNormalForm t u`: the lines of `u` are those of `t` from the first to the last
    that is not blank, cut by one width, and one of them starts with ink;
  * `unindent_eq_self`: such a text is left as it is;
  * `normal_form_unique`: it is what `unindent` comes to, and nothing else is.
-/
import CxxWriter.Proofs.Margin

namespace CxxWriter.Block

open Text

/-- Is a line what is left of another one without the first characters, which are
    blank?  Of a blank line nothing is left. -/
def IsCut (width : Nat) (l m : List Char) : Prop :=
  isBlankLine l = true ∧ m = [] ∨
    isBlankLine l = false ∧ ∃ s, s.length = width ∧ (∀ c ∈ s, isBlank c = true) ∧ l = s ++ m

/-- Does a line start with a character that is not blank? -/
def StartsWithInk (l : List Char) : Prop := ∃ c, l.head? = some c ∧ isBlank c = false

/-- Are the lines of `u` those of `t` from the first to the last that is not blank, cut
    by one width?  The last one does not end in blanks, and one of them starts with
    ink. -/
def IsNormalForm (t u : List Char) : Prop :=
  ∃ before c after cut rest width,
    lines t = before ++ c ++ after ∧ (∀ l ∈ before ++ after, isBlankLine l = true) ∧ IsBlock c ∧
    List.Forall₂ (IsCut width) c (cut ++ [rest]) ∧ lines u = cut ++ [trimEnd isBlank rest] ∧
    ∃ l ∈ lines u, StartsWithInk l

variable {k : Nat} {l m t u : List Char} {ls : List (List Char)}

/-! ## Cuts -/

theorem isBlankLine_eq_false : isBlankLine l = false ↔ ∃ c ∈ l, isBlank c = false := by
  simp [isBlankLine]

/-- Behind blanks, a line is blank if it is without them. -/
theorem isBlankLine_behind {s : List Char} (hs : ∀ c ∈ s, isBlank c = true) (l : List Char) :
    isBlankLine (s ++ l) = isBlankLine l := by
  have hblank : isBlankLine s = true := List.all_eq_true.2 hs
  rw [isBlankLine_append, hblank, Bool.true_and]

theorem isBlankLine_trimEnd (h : isBlankLine l = false) : isBlankLine (trimEnd isBlank l) = false := by
  obtain ⟨c, hc, hink⟩ := isBlankLine_eq_false.1 h
  exact isBlankLine_eq_false.2 ⟨c, mem_trimEnd hc hink, hink⟩

theorem IsCut.shifted (h : IsCut k l m) (hn : '\n' ∉ l) : IsShifted k m l := by
  obtain ⟨hb, rfl⟩ | ⟨hb, s, hs, hblank, rfl⟩ := h
  · exact ⟨hn, .inl ⟨rfl, hb⟩⟩
  · rw [isBlankLine_behind hblank] at hb
    exact ⟨hn, .inr ⟨hb, s, hs, hblank, rfl⟩⟩

theorem IsCut.isBlankLine_eq (h : IsCut k l m) : isBlankLine m = isBlankLine l := by
  obtain ⟨hb, rfl⟩ | ⟨-, s, -, hblank, rfl⟩ := h
  · exact hb.symm
  · exact (isBlankLine_behind hblank m).symm

theorem IsCut.eq_nil (h : IsCut k l m) (hm : isBlankLine m = true) : m = [] := by
  obtain ⟨-, rfl⟩ | ⟨hl, -⟩ := id h
  · rfl
  · rw [← h.isBlankLine_eq, hm] at hl
    cases hl

theorem dropMargin_zero (h : isBlankLine l = true → l = []) : dropMargin 0 l = l := by
  unfold dropMargin
  split
  · next hb => exact (h hb).symm
  · rfl

/-- A line can be cut by any width up to its margin. -/
theorem isCut_dropMargin (h : isBlankLine l = false → k ≤ margin l) : IsCut k l (dropMargin k l) := by
  unfold Block.dropMargin
  cases hb : isBlankLine l with
  | true => exact .inl ⟨hb, rfl⟩
  | false =>
    have hk : k ≤ (l.takeWhile isBlank).length := h hb
    have hpre : l.take k = (l.takeWhile isBlank).take k := by
      conv_lhs => rw [← List.takeWhile_append_dropWhile (p := isBlank) (l := l)]
      exact List.take_append_of_le_length hk
    refine .inr ⟨hb, l.take k, ?_, fun c hc => ?_, (List.take_append_drop k l).symm⟩
    · rw [hpre, List.length_take, Nat.min_eq_left hk]
    · rw [hpre] at hc
      exact List.mem_takeWhile_imp (List.mem_of_mem_take hc)

/-- The blanks at the end of a line may be dropped before it is cut. -/
theorem IsCut.exists_rest (h : IsCut k (trimEnd isBlank l) m) (hl : isBlankLine l = false) :
    ∃ rest, IsCut k l rest ∧ trimEnd isBlank rest = m := by
  obtain ⟨e, he, hsplit⟩ := exists_trimEnd isBlank l
  obtain ⟨hb, -⟩ | ⟨hb, s, hs, hblank, hm⟩ := h
  · rw [isBlankLine_trimEnd hl] at hb
    cases hb
  · have hself : trimEnd isBlank m = m := by
      refine trimEnd_eq_self fun a ha => getLast?_trimEnd (l := l) ?_
      rw [hm, List.getLast?_append, ha]
      rfl
    refine ⟨m ++ e, .inr ⟨hl, s, hs, hblank, ?_⟩, ?_⟩
    · rw [← List.append_assoc, ← hm]
      exact hsplit
    · rw [trimEnd_append, if_pos (trimEnd_eq_nil.2 he), hself]

/-- Without all of its margin, a line that is not blank starts with ink. -/
theorem startsWithInk_dropMargin (hb : isBlankLine l = false) :
    StartsWithInk (dropMargin (margin l) l) := by
  obtain ⟨c, hc, hink⟩ := isBlankLine_eq_false.1 hb
  have hdrop : dropMargin (margin l) l = trimStart isBlank l := by
    rw [Block.dropMargin, hb, if_neg (by simp), margin, drop_takeWhile]
    rfl
  obtain ⟨a, r, hr⟩ := List.exists_cons_of_ne_nil (trimStart_ne_nil ⟨c, hc, hink⟩)
  have ha : (trimStart isBlank l).head? = some a := by rw [hr]; rfl
  rw [hdrop]
  exact ⟨a, ha, head?_trimStart ha⟩

/-- Some line that is not blank has no more than the common margin. -/
theorem exists_commonMargin (h : ∃ l ∈ ls, isBlankLine l = false) :
    ∃ l ∈ ls, isBlankLine l = false ∧ margin l = commonMargin ls := by
  obtain ⟨l, hl, hb⟩ := h
  unfold commonMargin
  cases hmin : ((ls.filter (!isBlankLine ·)).map margin).min? with
  | none =>
    rw [List.min?_eq_none_iff, List.map_eq_nil_iff, List.filter_eq_nil_iff] at hmin
    exact absurd (by simp [hb]) (hmin l hl)
  | some n =>
    obtain ⟨a, ha, hn⟩ := List.mem_map.1 (List.min?_mem hmin)
    obtain ⟨ha, hink⟩ := List.mem_filter.1 ha
    exact ⟨a, ha, by simpa using hink, hn⟩

/-- There is no common margin if a line starts with ink. -/
theorem commonMargin_eq_zero (hl : l ∈ ls) (h : StartsWithInk l) : commonMargin ls = 0 := by
  obtain ⟨c, hc, hink⟩ := h
  obtain ⟨r, rfl⟩ := List.head?_eq_some_iff.1 hc
  have hle := commonMargin_le hl (isBlankLine_eq_false.2 ⟨c, List.mem_cons_self, hink⟩)
  rw [margin, List.takeWhile_cons_of_neg (by simp [hink])] at hle
  exact Nat.le_zero.1 hle

/-! ## The normal form -/

theorem IsBlock.exists_last (h : IsBlock ls) :
    ∃ body last, ls = body ++ [last] ∧ isBlankLine last = false := by
  obtain ⟨last, hlast, hb⟩ := h.last
  obtain ⟨body, rfl⟩ := List.getLast?_eq_some_iff.1 hlast
  exact ⟨body, last, rfl, hb⟩

/-- A text that is not blank is a block between blank lines. -/
theorem exists_block (h : ∃ l ∈ lines t, isBlankLine l = false) :
    ∃ before after, lines t = before ++ trim isBlankLine (lines t) ++ after ∧
      IsBlock (trim isBlankLine (lines t)) ∧ ∀ l ∈ before ++ after, isBlankLine l = true := by
  obtain ⟨after, hafter, hend⟩ := exists_trimEnd isBlankLine (trimStart isBlankLine (lines t))
  have hsplit : lines t = (lines t).takeWhile isBlankLine ++ trim isBlankLine (lines t) ++ after := by
    rw [List.append_assoc, trim, ← hend]
    exact List.takeWhile_append_dropWhile.symm
  obtain ⟨l, hl, hb⟩ := h
  have hne : trim isBlankLine (lines t) ≠ [] := List.ne_nil_of_mem (mem_trim hl hb)
  have hblock : IsBlock (trim isBlankLine (lines t)) := {
    line := by
      intro m hm
      refine not_mem_of_mem_lines (t := t) ?_
      rw [hsplit]
      exact List.mem_append_left _ (List.mem_append_right _ hm)
    first := by
      obtain ⟨a, r, hr⟩ := List.exists_cons_of_ne_nil hne
      refine ⟨a, by rw [hr]; rfl, head?_trimStart (l := lines t) ?_⟩
      rw [hend, ← trim, hr]
      rfl
    last := by
      obtain ⟨a, ha⟩ := Option.isSome_iff_exists.1 (List.getLast?_isSome.2 hne)
      exact ⟨a, ha, getLast?_trimEnd (p := isBlankLine) ha⟩ }
  exact ⟨_, after, hsplit, hblock,
    List.forall_mem_append.2 ⟨fun m hm => List.mem_takeWhile_imp hm, hafter⟩⟩

theorem isNormalForm_unindent (h : ∃ l ∈ lines t, isBlankLine l = false) :
    IsNormalForm t (unindent t) := by
  obtain ⟨before, after, ht, hblock, hblank⟩ := exists_block h
  obtain ⟨body, last, hbody, hb⟩ := hblock.exists_last
  rw [hbody] at ht hblock
  generalize hwidth : commonMargin (body ++ [trimEnd isBlank last]) = k
  have hlines : lines (unindent t) = (body ++ [trimEnd isBlank last]).map (dropMargin k) := by
    obtain ⟨l, hl, hink⟩ := h
    obtain ⟨c, hc, hink⟩ := isBlankLine_eq_false.1 hink
    rw [(lines_unindent t).resolve_right (unindent_ne_nil (mem_of_mem_line hl hc) hink),
      unindentLines, hbody, trimLastLine_concat, hwidth]
  have hcut : ∀ l ∈ body ++ [trimEnd isBlank last], IsCut k l (dropMargin k l) := fun l hl =>
    isCut_dropMargin fun hink => hwidth ▸ commonMargin_le hl hink
  obtain ⟨rest, hrest, hend⟩ := (hcut (trimEnd isBlank last) (by simp)).exists_rest hb
  refine ⟨before, body ++ [last], after, body.map (dropMargin k), rest, k, ht, hblank, hblock,
    forall₂_concat.2 ⟨?_, hrest⟩, ?_, ?_⟩
  · rw [List.forall₂_map_right_iff, List.forall₂_same]
    exact fun l hl => hcut l (List.mem_append_left _ hl)
  · rw [hlines, List.map_append, List.map_singleton, hend]
  · obtain ⟨a, ha, hink, hmargin⟩ : ∃ a ∈ body ++ [trimEnd isBlank last], isBlankLine a = false ∧
        margin a = commonMargin (body ++ [trimEnd isBlank last]) :=
      exists_commonMargin ⟨_, by simp, isBlankLine_trimEnd hb⟩
    rw [hlines, ← hwidth, ← hmargin]
    exact ⟨_, List.mem_map_of_mem ha, startsWithInk_dropMargin hink⟩

/-- The lines of a normal form are a block. -/
theorem IsNormalForm.isBlock (h : IsNormalForm t u) : IsBlock (lines u) := by
  obtain ⟨before, c, after, cut, rest, k, -, -, hblock, hcut, hu, -⟩ := h
  obtain ⟨body, last, rfl, hb⟩ := hblock.exists_last
  obtain ⟨hcut, hrest⟩ := forall₂_concat.1 hcut
  have hlast : isBlankLine (trimEnd isBlank rest) = false :=
    isBlankLine_trimEnd (hrest.isBlankLine_eq.trans hb)
  refine ⟨fun _ => not_mem_of_mem_lines, ?_, _, by rw [hu, List.getLast?_concat], hlast⟩
  rw [hu]
  obtain ⟨a, ha, hb⟩ := hblock.first
  cases hcut with
  | nil => exact ⟨_, rfl, hlast⟩
  | cons hfirst _ =>
    cases ha
    exact ⟨_, rfl, hfirst.isBlankLine_eq.trans hb⟩

/-- A text is a variant of the lines of its normal form. -/
theorem IsNormalForm.isVariant (h : IsNormalForm t u) : IsVariant (lines u) t := by
  obtain ⟨before, c, after, cut, rest, k, ht, hblank, hblock, hcut, hu, -⟩ := h
  obtain ⟨body, last, rfl, hb⟩ := hblock.exists_last
  obtain ⟨e, he, hlast⟩ := exists_trimEnd isBlank last
  have hshifted : List.Forall₂ (IsShifted k) (cut ++ [rest]) (body ++ [last]) :=
    (((List.forall₂_and_left _ _).2 ⟨hblock.line, hcut⟩).imp fun _ _ h => h.2.shifted h.1).flip
  obtain ⟨hbody, hrest⟩ := forall₂_concat.1 hshifted
  refine ⟨k, before, body ++ [trimEnd isBlank last], e, after, fun l hl => ⟨hblank l hl, ?_⟩, ?_, he, ?_⟩
  · refine not_mem_of_mem_lines (t := t) ?_
    rw [ht]
    rcases List.mem_append.1 hl with hl | hl
    · exact List.mem_append_left _ (List.mem_append_left _ hl)
    · exact List.mem_append_right _ hl
  · rw [hu]
    exact forall₂_concat.2 ⟨hbody, hrest.trimEnd (hrest.isBlankLine.symm.trans hb)⟩
  · rw [endWith_concat, ← hlast, ← ht]
    exact (joinWith_splitOn _ t).symm

/-- A normal form is left as it is. -/
theorem unindent_eq_self (h : IsNormalForm t u) : unindent u = u := by
  have hblock := h.isBlock
  have htrim : trim isBlankLine (lines u) = lines u := by
    conv_lhs => rw [← joinWith_splitOn '\n' u]
    exact trimmed_block hblock
  obtain ⟨before, c, after, cut, rest, k, -, -, -, hcut, hu, l, hl, hink⟩ := h
  have hend : trimLastLine (lines u) = lines u := by
    rw [hu, trimLastLine_concat, trimEnd_trimEnd]
  have hempty : ∀ m ∈ cut ++ [rest], isBlankLine m = true → m = [] :=
    ((List.forall₂_and_left _ _).1 ((hcut.imp fun _ _ h => ⟨h.eq_nil, h⟩).flip)).1
  have hdrop : ∀ m ∈ lines u, dropMargin 0 m = m := by
    intro m hm
    refine dropMargin_zero fun hb => ?_
    rw [hu] at hm
    rcases List.mem_append.1 hm with hm | hm
    · exact hempty m (List.mem_append_left _ hm) hb
    · obtain ⟨a, ha, hlast⟩ := hblock.last
      rw [hu, List.getLast?_concat, Option.some.injEq] at ha
      rw [List.mem_singleton.1 hm, ha, hlast] at hb
      cases hb
  rw [unindent, unindentLines, htrim, hend, commonMargin_eq_zero hl hink, List.map_congr_left hdrop, List.map_id']
  exact joinWith_splitOn _ u

theorem IsNormalForm.eq (h : IsNormalForm t u) : unindent t = u := by
  rw [unindent_variant h.isBlock h.isVariant, unlines, joinWith_splitOn, unindent_eq_self h]

/-- Of a blank text nothing is left. -/
theorem unindent_blank (h : ∀ l ∈ lines t, isBlankLine l = true) : unindent t = [] := by
  have htrim : trim isBlankLine (lines t) = [] := by
    rw [trim, trimStart, List.dropWhile_eq_nil_iff.2 h]
    rfl
  rw [unindent, unindentLines, htrim]
  rfl

/-- **The normal form is unique.**  Of a blank text nothing is left.  Any other text
    has one normal form, which is what `unindent` comes to; so to take the margin
    away again changes nothing. -/
theorem normal_form_unique (t : List Char) :
    ((∀ l ∈ lines t, isBlankLine l = true) → unindent t = []) ∧
    ((∃ l ∈ lines t, isBlankLine l = false) → ∀ u, IsNormalForm t u ↔ u = unindent t) ∧
    unindent (unindent t) = unindent t := by
  refine ⟨unindent_blank, fun h u => ⟨fun hu => hu.eq.symm, ?_⟩, ?_⟩
  · rintro rfl
    exact isNormalForm_unindent h
  · by_cases h : ∃ l ∈ lines t, isBlankLine l = false
    · exact unindent_eq_self (isNormalForm_unindent h)
    · have hblank : ∀ l ∈ lines t, isBlankLine l = true := by simpa using h
      rw [unindent_blank hblank]
      rfl

/-- Margins of spaces and tabs, with a blank line that is shorter than the margin, a
    carriage return within the block and blanks at its end. -/
theorem normal_form_unique_mixed :
    let t := " \n\t  if\r\n\x0c\n \t \x7b\n  \t  \x7d\t \n\n".toList
    (∃ l ∈ lines t, isBlankLine l = false) ∧ (∀ u, IsNormalForm t u ↔ u = unindent t) ∧
      unindent t = "if\r\n\n\x7b\n  \x7d".toList ∧
      (∀ l ∈ lines " \r\n\t\x0b".toList, isBlankLine l = true) ∧ unindent " \r\n\t\x0b".toList = [] := by
  intro t
  have ht : ∃ l ∈ lines t, isBlankLine l = false := by decide +kernel
  have hw : ∀ l ∈ lines " \r\n\t\x0b".toList, isBlankLine l = true := by decide +kernel
  exact ⟨ht, (normal_form_unique t).2.1 ht, by decide +kernel, hw, (normal_form_unique _).1 hw⟩

end CxxWriter.Block
