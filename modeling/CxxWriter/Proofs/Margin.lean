/-
  The margin of a fragment does not matter.

  * `IsBlock`: lines of which the first and the last are not blank;
  * `IsVariant c t`: the text `t` consists of the lines `c` behind a common margin,
    with other blank lines in place of the blank ones among them, and with blanks
    around them;
  * `unindent_variant`: the normal form of such a text is that of the lines.
-/
import CxxWriter.Proofs.Block
import Mathlib.Data.List.Forall2

namespace CxxWriter

open Text

/-! ## Lines -/

namespace Text

theorem lines_append_newline (l t : List Char) : lines (l ++ '\n' :: t) = lines l ++ lines t :=
  splitOn_append_sep '\n' l t

/-- Lines that are put together are found again, cut up further where they are
    no single lines. -/
theorem lines_unlines {ls : List (List Char)} (h : ls ≠ []) :
    lines (unlines ls) = ls.flatMap lines := by
  induction ls with
  | nil => exact absurd rfl h
  | cons l ls ih =>
    cases ls with
    | nil => simp
    | cons m ms => rw [unlines_cons_cons, List.flatMap_cons, ← ih (by simp), lines_append_newline]

theorem flatMap_lines {ls : List (List Char)} (h : ∀ l ∈ ls, '\n' ∉ l) : ls.flatMap lines = ls := by
  induction ls with
  | nil => rfl
  | cons l ls ih =>
    rw [List.flatMap_cons, ih fun m hm => h m (List.mem_cons_of_mem l hm), lines,
      splitOn_of_not_mem _ (h l List.mem_cons_self)]
    rfl

section
variable {α : Type} {p : α → Bool}

/-- What is between the parts that are trimmed stays, if it starts and ends with
    something that is not. -/
theorem trim_between {pre m post : List α} (hpre : ∀ a ∈ pre, p a = true)
    (hpost : ∀ a ∈ post, p a = true) (hfirst : ∃ a, m.head? = some a ∧ p a = false)
    (hlast : ∃ a, m.getLast? = some a ∧ p a = false) : trim p (pre ++ (m ++ post)) = m := by
  obtain ⟨a, ha, hpa⟩ := hfirst
  obtain ⟨b, hb, hpb⟩ := hlast
  obtain ⟨r, rfl⟩ : ∃ r, m = a :: r := by
    cases m with
    | nil => cases ha
    | cons c r => cases ha; exact ⟨r, rfl⟩
  have hend : trimEnd p post = [] := trimEnd_eq_nil.2 hpost
  have hself : trimEnd p (a :: r) = a :: r := by
    refine trimEnd_eq_self fun c hc => ?_
    rw [hb] at hc
    cases hc
    exact hpb
  rw [trim, trimStart, List.dropWhile_append_of_pos hpre, List.cons_append,
    List.dropWhile_cons_of_neg (by simp [hpa]), ← List.cons_append, trimEnd_append, if_pos hend, hself]

end

end Text

namespace Block

/-! ## Margins -/

/-- Is a line another one behind a margin of some width, or are both blank? -/
def IsShifted (width : Nat) (l m : List Char) : Prop :=
  '\n' ∉ m ∧ (isBlankLine l = true ∧ isBlankLine m = true ∨
    isBlankLine l = false ∧ ∃ s, s.length = width ∧ (∀ c ∈ s, isBlank c = true) ∧ m = s ++ l)

variable {k : Nat} {l m : List Char} {c ls : List (List Char)}

theorem isBlankLine_append (s l : List Char) :
    isBlankLine (s ++ l) = (isBlankLine s && isBlankLine l) :=
  List.all_append

theorem IsShifted.isBlankLine (h : IsShifted k l m) : isBlankLine m = isBlankLine l := by
  obtain ⟨-, ⟨hl, hm⟩ | ⟨hl, s, -, -, rfl⟩⟩ := h
  · rw [hl, hm]
  · rw [isBlankLine_append, hl, Bool.and_false]

/-- A shifted line has a margin that is wider. -/
theorem IsShifted.margin (h : IsShifted k l m) (hl : Block.isBlankLine l = false) :
    margin m = k + margin l := by
  obtain ⟨-, ⟨hb, -⟩ | ⟨-, s, rfl, hs, rfl⟩⟩ := h
  · rw [hl] at hb
    cases hb
  · rw [Block.margin, Block.margin, List.takeWhile_append_of_pos hs, List.length_append]

theorem IsShifted.dropMargin (h : IsShifted k l m) (width : Nat) :
    dropMargin (k + width) m = dropMargin width l := by
  unfold Block.dropMargin
  rw [h.isBlankLine]
  obtain ⟨-, ⟨hb, -⟩ | ⟨-, s, rfl, -, rfl⟩⟩ := h
  · rw [if_pos hb, if_pos hb]
  · split
    · rfl
    · rw [← List.drop_drop, List.drop_left]

/-- The end of a line that is not blank may be trimmed before or after. -/
theorem IsShifted.trimEnd (h : IsShifted k l m) (hl : Block.isBlankLine l = false) :
    IsShifted k (trimEnd isBlank l) (trimEnd isBlank m) := by
  obtain ⟨hn, ⟨hb, -⟩ | ⟨-, s, hs, hblank, rfl⟩⟩ := h
  · rw [hl] at hb
    cases hb
  · have hne : Text.trimEnd isBlank l ≠ [] := by
      intro he
      rw [Block.isBlankLine, List.all_eq_false] at hl
      obtain ⟨c, hc, hb⟩ := hl
      exact hb (trimEnd_eq_nil.1 he c hc)
    rw [trimEnd_append, if_neg hne]
    refine ⟨fun h => hn ?_, .inr ⟨?_, s, hs, hblank, rfl⟩⟩
    · rcases List.mem_append.1 h with h | h
      · exact List.mem_append_left _ h
      · exact List.mem_append_right _ (mem_of_mem_trimEnd h)
    · rw [Block.isBlankLine, List.all_eq_false] at hl ⊢
      obtain ⟨c, hc, hb⟩ := hl
      exact ⟨c, mem_trimEnd hc (by simpa using hb), hb⟩

theorem min?_map_add (k : Nat) (ns : List Nat) :
    (ns.map (k + ·)).min? = ns.min?.map (k + ·) := by
  cases ns with
  | nil => rfl
  | cons n ns =>
    simp only [List.map_cons, List.min?_cons', Option.map_some, Option.some.injEq]
    induction ns generalizing n with
    | nil => rfl
    | cons m ns ih => rw [List.map_cons, List.foldl_cons, List.foldl_cons, Nat.add_min_add_left, ih]

theorem newline_shifted (h : List.Forall₂ (IsShifted k) c ls) : ∀ l ∈ ls, '\n' ∉ l := by
  induction h with
  | nil => exact fun _ h => absurd h List.not_mem_nil
  | cons hlm _ ih => exact List.forall_mem_cons.2 ⟨hlm.1, ih⟩

/-- The common margin grows by the width. -/
theorem commonMargin_shifted (h : List.Forall₂ (IsShifted k) c ls)
    (hc : ∃ l ∈ c, isBlankLine l = false) : commonMargin ls = k + commonMargin c := by
  have hmap : (ls.filter (!isBlankLine ·)).map margin =
      ((c.filter (!isBlankLine ·)).map margin).map (k + ·) := by
    clear hc
    induction h with
    | nil => rfl
    | @cons l m c ls hlm _ ih =>
      rw [List.filter_cons, List.filter_cons, hlm.isBlankLine]
      split
      · next hl =>
        rw [List.map_cons, List.map_cons, List.map_cons, ih, hlm.margin (by simpa using hl)]
      · exact ih
  obtain ⟨l, hl, hb⟩ := hc
  have hmem : margin l ∈ (c.filter (!isBlankLine ·)).map margin :=
    List.mem_map_of_mem (List.mem_filter.2 ⟨hl, by simp [hb]⟩)
  rw [commonMargin, commonMargin, hmap, min?_map_add]
  cases he : ((c.filter (!isBlankLine ·)).map margin).min? with
  | none =>
    rw [List.min?_eq_none_iff] at he
    rw [he] at hmem
    cases hmem
  | some n => rfl

theorem map_dropMargin_shifted (h : List.Forall₂ (IsShifted k) c ls) (width : Nat) :
    ls.map (dropMargin (k + width)) = c.map (dropMargin width) := by
  induction h with
  | nil => rfl
  | cons hlm _ ih => rw [List.map_cons, List.map_cons, hlm.dropMargin, ih]

/-! ## Variants of a block -/

/-- Are these lines, with the first and the last not blank? -/
structure IsBlock (c : List (List Char)) : Prop where
  line : ∀ l ∈ c, '\n' ∉ l
  first : ∃ l, c.head? = some l ∧ isBlankLine l = false
  last : ∃ l, c.getLast? = some l ∧ isBlankLine l = false

/-- Is a text made of the lines of a block behind a common margin?  Where the
    block has blank lines, the text has some blank lines.  There may be blank
    lines before and after, and blanks at the end of the last line. -/
def IsVariant (c : List (List Char)) (t : List Char) : Prop :=
  ∃ k pre ls w post, (∀ l ∈ pre ++ post, isBlankLine l = true ∧ '\n' ∉ l) ∧
    List.Forall₂ (IsShifted k) c ls ∧ (∀ a ∈ w, isBlank a = true) ∧
    t = unlines (pre ++ endWith w ls ++ post)

/-- The lines of a blank text are blank. -/
theorem isBlankLine_of_mem_lines {w l : List Char} (hw : ∀ a ∈ w, isBlank a = true)
    (hl : l ∈ lines w) : isBlankLine l = true :=
  List.all_eq_true.2 fun a ha => hw a (mem_of_mem_line hl ha)

theorem trimmed_block (h : IsBlock c) : trim isBlankLine (lines (unlines c)) = c := by
  have hne : c ≠ [] := by
    obtain ⟨l, hl, -⟩ := h.first
    rintro rfl
    cases hl
  have htrim : trim isBlankLine ([] ++ (c ++ [])) = c :=
    trim_between (fun _ h => absurd h List.not_mem_nil) (fun _ h => absurd h List.not_mem_nil) h.first h.last
  rw [lines_unlines hne, flatMap_lines h.line]
  simpa using htrim

theorem forall₂_concat {α β : Type} {R : α → β → Prop} {as : List α} {bs : List β} {a : α} {b : β} :
    List.Forall₂ R (as ++ [a]) (bs ++ [b]) ↔ List.Forall₂ R as bs ∧ R a b := by
  rw [← List.forall₂_reverse_iff, List.reverse_concat, List.reverse_concat, List.forall₂_cons,
    List.forall₂_reverse_iff, and_comm]

/-- The first and the last line of a variant of a block are not blank either. -/
theorem ends_shifted {cs ms : List (List Char)} {e : List Char} (h : IsBlock (cs ++ [l]))
    (hcs : List.Forall₂ (IsShifted k) cs ms) (hl : IsShifted k l m) :
    (∃ a, (ms ++ [m ++ e]).head? = some a ∧ isBlankLine a = false) ∧
      ∃ a, (ms ++ [m ++ e]).getLast? = some a ∧ isBlankLine a = false := by
  have hlast : isBlankLine (m ++ e) = false := by
    obtain ⟨a, ha, hb⟩ := h.last
    rw [List.getLast?_concat, Option.some.injEq] at ha
    rw [isBlankLine_append, hl.isBlankLine, ha, hb, Bool.false_and]
  refine ⟨?_, _, List.getLast?_concat, hlast⟩
  obtain ⟨a, ha, hb⟩ := h.first
  cases hcs with
  | nil => exact ⟨_, rfl, hlast⟩
  | cons hfirst _ =>
    cases ha
    exact ⟨_, rfl, hfirst.isBlankLine.trans hb⟩

/-- Of a variant, the lines of the block remain when blank lines are trimmed; the
    last may go on with blanks. -/
theorem trimmed_variant (h : IsBlock c) {t : List Char} (ht : IsVariant c t) :
    ∃ k cs l ms m e, c = cs ++ [l] ∧ List.Forall₂ (IsShifted k) cs ms ∧ IsShifted k l m ∧
      (∀ a ∈ e, isBlank a = true) ∧ trim isBlankLine (lines t) = ms ++ [m ++ e] := by
  obtain ⟨k, pre, ls, w, post, hblank, hls, hw, rfl⟩ := ht
  obtain ⟨cs, l, rfl⟩ : ∃ cs l, c = cs ++ [l] := by
    obtain ⟨l, hl, -⟩ := h.first
    exact (List.eq_nil_or_concat' c).resolve_left (by rintro rfl; cases hl)
  obtain ⟨ms, m, rfl⟩ : ∃ ms m, ls = ms ++ [m] := by
    refine (List.eq_nil_or_concat' ls).resolve_left ?_
    rintro rfl
    simpa using hls.length_eq
  obtain ⟨hms, hm⟩ := forall₂_concat.1 hls
  have hline := newline_shifted hms
  obtain ⟨e, es, hes⟩ := List.exists_cons_of_ne_nil (splitOn_ne_nil '\n' w)
  have hin : ∀ a ∈ e :: es, isBlankLine a = true := fun a ha =>
    isBlankLine_of_mem_lines hw (by rw [lines, hes]; exact ha)
  have hlast : lines (m ++ w) = (m ++ e) :: es := lines_append_of_not_mem hm.1 hes
  have hlines : lines (unlines (pre ++ endWith w (ms ++ [m]) ++ post)) =
      pre ++ ((ms ++ [m ++ e]) ++ (es ++ post)) := by
    rw [endWith_concat, lines_unlines (by simp)]
    simp only [List.flatMap_append, List.flatMap_cons, List.flatMap_nil, List.append_nil, hlast,
      flatMap_lines hline, flatMap_lines fun a ha => (hblank a (List.mem_append_left _ ha)).2,
      flatMap_lines fun a ha => (hblank a (List.mem_append_right _ ha)).2]
    simp
  have hpost : ∀ a ∈ es ++ post, isBlankLine a = true := by
    intro a ha
    rcases List.mem_append.1 ha with ha | ha
    · exact hin a (List.mem_cons_of_mem e ha)
    · exact (hblank a (List.mem_append_right _ ha)).1
  obtain ⟨hfirst, hend⟩ := ends_shifted h hms hm (e := e)
  refine ⟨k, cs, l, ms, m, e, rfl, hms, hm, List.all_eq_true.1 (hin e List.mem_cons_self), ?_⟩
  rw [hlines]
  exact trim_between (fun a ha => (hblank a (List.mem_append_left _ ha)).1) hpost hfirst hend

/-- **A margin, other blank lines, and blanks around a block do not matter.** -/
theorem unindent_variant (h : IsBlock c) {t : List Char} (ht : IsVariant c t) :
    unindent t = unindent (unlines c) := by
  obtain ⟨k, cs, l, ms, m, e, rfl, hms, hm, he, htrim⟩ := trimmed_variant h ht
  have hl : isBlankLine l = false := by
    obtain ⟨a, ha, hb⟩ := h.last
    rw [List.getLast?_concat] at ha
    cases ha
    exact hb
  have hend : trimEnd isBlank (m ++ e) = trimEnd isBlank m := by
    rw [trimEnd_append, if_pos (trimEnd_eq_nil.2 he)]
  have hshifted : List.Forall₂ (IsShifted k) (cs ++ [trimEnd isBlank l]) (ms ++ [trimEnd isBlank m]) :=
    forall₂_concat.2 ⟨hms, hm.trimEnd hl⟩
  have hink : ∃ a ∈ cs ++ [trimEnd isBlank l], isBlankLine a = false := by
    refine ⟨trimEnd isBlank l, by simp, ?_⟩
    rw [isBlankLine, List.all_eq_false] at hl ⊢
    obtain ⟨a, ha, hb⟩ := hl
    exact ⟨a, mem_trimEnd ha (by simpa using hb), hb⟩
  rw [unindent, unindent, unindentLines, unindentLines, htrim, trimmed_block h, trimLastLine_concat,
    trimLastLine_concat, hend]
  rw [commonMargin_shifted hshifted hink, map_dropMargin_shifted hshifted]

end Block

end CxxWriter
