/-
  What a fragment says on one line is written on one line.

  * `exists_line_infix`, `infix_unlines`: a text without line feeds is part of a
    text if it is part of one of its lines;
  * a *word* is a line without white space at its ends (`Tree.IsBare`).  Blocks,
    values of members and trees are written with the words that are in them:
    `IsBare.infix_blockOf`, `IsBare.infix_memberValue`, `Has.infix_shown`.
-/
import CxxWriter.Action.Code
import CxxWriter.Proofs.Layout

namespace CxxWriter

/-! ## Lines and trimming -/

namespace Text

theorem infix_unlines {ls : List (List Char)} {l : List Char} (h : l ∈ ls) : l <:+: unlines ls := by
  obtain ⟨as, bs, rfl⟩ := List.append_of_mem h
  rw [unlines_append as (List.cons_ne_nil l bs)]
  cases bs with
  | nil => exact (List.suffix_append _ _).isInfix
  | cons b bs => exact ⟨ended as, '\n' :: unlines (b :: bs), by simp⟩

/-- What has no line feed in it is part of a line. -/
theorem exists_line_infix {q t : List Char} (hq : '\n' ∉ q) (h : q <:+: t) :
    ∃ l ∈ lines t, q <:+: l := by
  obtain ⟨s, e, rfl⟩ := h
  rw [List.append_assoc]
  induction s with
  | nil =>
    obtain ⟨l, ls, hl⟩ := List.exists_cons_of_ne_nil (splitOn_ne_nil '\n' e)
    rw [List.nil_append, lines_append_of_not_mem hq hl]
    exact ⟨q ++ l, List.mem_cons_self, (List.prefix_append q l).isInfix⟩
  | cons c s ih =>
    obtain ⟨l, hl, hql⟩ := ih
    rw [List.cons_append, lines, splitOn]
    split
    · exact ⟨l, List.mem_cons_of_mem _ hl, hql⟩
    · cases hs : splitOn '\n' (s ++ (q ++ e)) with
      | nil => exact absurd hs (splitOn_ne_nil _ _)
      | cons m ms =>
        rw [lines, hs] at hl
        rcases List.mem_cons.1 hl with rfl | hl
        · exact ⟨c :: l, List.mem_cons_self, hql.trans (List.suffix_cons c l).isInfix⟩
        · exact ⟨l, List.mem_cons_of_mem _ hl, hql⟩

/-- Lines may be changed one by one, as long as they keep a text. -/
theorem infix_map_lines {q t : List Char} (hq : '\n' ∉ q) {f : List Char → List Char}
    (hf : ∀ l, q <:+: l → q <:+: f l) (h : q <:+: t) : q <:+: unlines ((lines t).map f) := by
  obtain ⟨l, hl, hql⟩ := exists_line_infix hq h
  exact (hf l hql).trans (infix_unlines (List.mem_map_of_mem hl))

end Text

open Block Text
open Buffer (blockOf)

/-! ## Words -/

namespace Tree.IsBare

variable {q l t : List Char} (hq : IsBare q)
include hq

theorem ne_nil : q ≠ [] := by
  obtain ⟨c, hc, -⟩ := hq.first
  rintro rfl
  cases hc

theorem not_blankLine (h : q <:+: l) : isBlankLine l = false := by
  obtain ⟨c, hc, hs⟩ := hq.first
  rw [isBlankLine, List.all_eq_false]
  refine ⟨c, h.subset (List.mem_of_mem_head? hc), fun hb => ?_⟩
  rw [isSpace_of_isBlank hb] at hs
  cases hs

/-- Trimming stops at a word. -/
theorem infix_trimEnd {p : Char → Bool} (hp : ∀ c, p c = true → isSpace c = true) (h : q <:+: l) :
    q <:+: trimEnd p l := by
  obtain ⟨s, e, rfl⟩ := h
  rw [trimEnd_append]
  split
  · have hlast : ∀ a, (s ++ q).getLast? = some a → p a = false := by
      intro a ha
      rw [List.getLast?_append_of_ne_nil _ hq.ne_nil] at ha
      have hs := hq.last a ha
      by_contra hpa
      rw [hp a (by simpa using hpa)] at hs
      cases hs
    rw [trimEnd_eq_self hlast]
    exact (List.suffix_append s q).isInfix
  · exact ⟨s, trimEnd p e, rfl⟩

theorem infix_dropWhile {p : Char → Bool} (hp : ∀ c, p c = true → isSpace c = true) (h : q <:+: l) :
    q <:+: l.dropWhile p := by
  obtain ⟨s, e, rfl⟩ := h
  obtain ⟨c, hc, hs⟩ := hq.first
  have hpc : p c = false := by
    by_contra hpc
    rw [hp c (by simpa using hpc)] at hs
    cases hs
  have hstop : (q ++ e).dropWhile p = q ++ e := by
    cases q with
    | nil => cases hc
    | cons a r =>
      cases hc
      rw [List.cons_append, List.dropWhile_cons_of_neg (by simp [hpc])]
  rw [List.append_assoc, List.dropWhile_append, hstop]
  split
  · exact (List.prefix_append q e).isInfix
  · exact ⟨s.dropWhile p, e, List.append_assoc _ _ _⟩

theorem infix_dropMargin {width : Nat} (hw : width ≤ margin l) (h : q <:+: l) :
    q <:+: dropMargin width l := by
  rw [dropMargin, hq.not_blankLine h, if_neg (by simp)]
  have hdrop := hq.infix_dropWhile (fun _ => isSpace_of_isBlank) h
  rw [← drop_takeWhile, show (l.takeWhile isBlank).length = width + (margin l - width) from
    (Nat.add_sub_cancel' hw).symm, ← List.drop_drop] at hdrop
  exact hdrop.trans (List.drop_suffix _ _).isInfix

theorem infix_convertSpaces (unit : List Char) (h : q <:+: l) : q <:+: convertSpaces unit l := by
  unfold convertSpaces
  dsimp only
  split
  · have hspace : ∀ c : Char, (c == ' ') = true → isSpace c = true := by
      intro c hc
      rw [beq_iff_eq.1 hc]
      decide
    rw [drop_takeWhile]
    exact (hq.infix_dropWhile hspace h).trans (List.suffix_append _ _).isInfix
  · exact h

theorem infix_leadLine (lead : List Char) (h : q <:+: l) : q <:+: leadLine lead l :=
  hq.infix_trimEnd (fun _ hc => hc) (h.trans (List.suffix_append lead l).isInfix)

/-! ## Blocks -/

/-- The last line of a block may lose what stands behind the word. -/
theorem exists_trimLastLine {ls : List (List Char)} (hl : l ∈ ls) (h : q <:+: l) :
    ∃ m ∈ trimLastLine ls, q <:+: m := by
  rcases List.eq_nil_or_concat ls with rfl | ⟨ms, m, rfl⟩
  · cases hl
  · rw [List.concat_eq_append] at hl ⊢
    rw [trimLastLine_concat]
    rcases List.mem_append.1 hl with hl | hl
    · exact ⟨l, List.mem_append_left _ hl, h⟩
    · rw [List.mem_singleton.1 hl] at h
      exact ⟨_, List.mem_append_right _ List.mem_cons_self, hq.infix_trimEnd (fun _ => isSpace_of_isBlank) h⟩

theorem infix_unindent (h : q <:+: t) : q <:+: unindent t := by
  obtain ⟨l, hl, hql⟩ := exists_line_infix hq.line h
  obtain ⟨m, hm, hqm⟩ := hq.exists_trimLastLine (mem_trim hl (hq.not_blankLine hql)) hql
  have hdrop := hq.infix_dropMargin (commonMargin_le hm (hq.not_blankLine hqm)) hqm
  exact hdrop.trans (infix_unlines (List.mem_map_of_mem hm))

theorem infix_reindent (lead unit : List Char) (h : q <:+: t) : q <:+: reindent lead unit t :=
  infix_map_lines hq.line (fun _ => hq.infix_leadLine lead)
    (infix_map_lines hq.line (fun _ => hq.infix_convertSpaces unit) h)

/-- **Blocks are written with the words that are in them.** -/
theorem infix_blockOf (depth : Nat) (unit : String) {s : String} (h : q <:+: s.toList) :
    q <:+: (blockOf depth unit s).toList := by
  rw [blockOf, String.toList_ofList]
  exact hq.infix_reindent _ _ (hq.infix_unindent h)

/-- So are the values of members. -/
theorem infix_memberValue (b : Buffer) {s : String} (h : q <:+: s.toList) :
    q <:+: (Action.memberValue b s).toList := by
  have hblock := hq.infix_unindent h
  unfold Action.memberValue
  dsimp only
  rcases first_line (unindent s.toList) with ⟨hd, -⟩ | ⟨r, hd, hl⟩
  · have hall := List.takeWhile_append_dropWhile (p := (· != '\n')) (l := unindent s.toList)
    rw [hd, List.append_nil] at hall
    rw [hd, if_pos (by rfl), String.toList_ofList, hall]
    exact hblock
  · obtain ⟨l, hmem, hql⟩ := exists_line_infix hq.line hblock
    rw [hl] at hmem
    rw [hd, List.drop_one, List.tail_cons]
    rcases List.mem_cons.1 hmem with rfl | hmem
    · split
      · rw [String.toList_ofList]
        exact hql
      · rw [String.toList_ofList]
        exact hql.trans (List.prefix_append _ _).isInfix
    · have hr : q <:+: r := by
        rw [← joinWith_splitOn '\n' r]
        exact hql.trans (infix_unlines hmem)
      have hne : r ≠ [] := by
        rintro rfl
        exact hq.ne_nil (List.infix_nil.1 hr)
      rw [if_neg (by simpa using hne), String.toList_ofList]
      exact (hq.infix_reindent _ _ hr).trans
        ((List.suffix_cons '\n' _).trans (List.suffix_append _ _)).isInfix

end Tree.IsBare

/-! ## Trees -/

namespace Tree

/-- Is a text a value in a tree? -/
inductive Has (s : String) : Tree → Prop
  | leaf : Has s (.leaf (.text s))
  | node {opening closing : String} {children : List Tree} {t : Tree} :
    t ∈ children → Has s t → Has s (.node opening closing children)

theorem shown_infix_shownItems {t : Tree} {ts : List Tree} (h : t ∈ ts) (depth : Nat) (unit : String) :
    (t.shown depth unit).toList <:+: (shownItems depth unit ts).toList := by
  induction ts with
  | nil => cases h
  | cons u us ih =>
    simp only [shownItems, String.toList_append, List.append_assoc]
    rcases List.mem_cons.1 h with rfl | h
    · exact (List.prefix_append _ _).isInfix
    · refine (ih h).trans (List.IsSuffix.isInfix ?_)
      simp only [← List.append_assoc]
      exact List.suffix_append _ _

section
variable {q : List Char} (hq : IsBare q) {s : String} (hs : q <:+: s.toList) {t : Tree}
include hq hs

theorem Has.infix_shown (h : t.Has s) (depth : Nat) (unit : String) :
    q <:+: (t.shown depth unit).toList := by
  induction h generalizing depth with
  | leaf => exact hq.infix_blockOf depth unit hs
  | @node opening closing children t hmem _ ih =>
    have hitems := (ih (depth + 1)).trans (shown_infix_shownItems hmem (depth + 1) unit)
    refine hitems.trans ?_
    rw [shown, String.toList_append, String.toList_append]
    exact List.infix_append _ _ _

/-- **Trees are written with the words that are in their values**, wherever they
    start. -/
theorem Has.infix_shownAfter (h : t.Has s) (depth : Nat) (unit : String) :
    q <:+: (t.shownAfter depth unit).toList := by
  cases h with
  | leaf => exact hq.infix_blockOf depth unit hs
  | @node opening closing children t hmem ht =>
    have hitems := (ht.infix_shown hq hs (depth + 1) unit).trans
      (shown_infix_shownItems hmem (depth + 1) unit)
    refine hitems.trans ?_
    rw [shownAfter, String.toList_append, String.toList_append]
    exact List.infix_append _ _ _

end

end Tree

end CxxWriter
