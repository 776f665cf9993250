/-
  Code that has been formatted.

  * `formatLine_formatLine`: a line that is written with tabs is written again as it
    was before;
  * `isNormalForm_formatted`: the text that is written of a block is in normal form;
  * `unindent_written`: so it is what remains when the indentation is taken away from
    text that was written at any depth;
  * `formatted_code_stable`: to format code again changes nothing, and it makes no
    difference which of the two is written.
-/
import CxxWriter.Proofs.Action
import CxxWriter.Proofs.Normal
import CxxWriter.Proofs.Piece

namespace CxxWriter

open Block Text
open Buffer (blockLines)

theorem Text.unlines_endWith (e : List Char) {ls : List (List Char)} (h : ls ≠ []) :
    unlines (endWith e ls) = unlines ls ++ e := by
  obtain ⟨ms, l, rfl⟩ := (List.eq_nil_or_concat ls).resolve_left h
  simp [endWith_concat, unlines_concat]

namespace Block

variable {l t : List Char}

/-! ## Lines -/

/-- The number of spaces at the front of a line. -/
def leadingSpaces (l : List Char) : Nat := (l.takeWhile (· == ' ')).length

/-- Only an even run of spaces is converted. -/
theorem convertSpaces_eq_self (unit : List Char) (h : leadingSpaces l = 0 ∨ leadingSpaces l % 2 = 1) :
    convertSpaces unit l = l := by
  unfold convertSpaces
  rw [← leadingSpaces]
  rcases h with h | h
  · rw [h]
    rfl
  · rw [if_neg (by omega)]

/-- What is behind the spaces at the front does not start with one. -/
theorem leadingSpaces_dropWhile (l : List Char) : leadingSpaces (l.dropWhile (· == ' ')) = 0 := by
  cases hd : l.dropWhile (· == ' ') with
  | nil => rfl
  | cons c r =>
    have hc : (c == ' ') = false := head?_trimStart (p := (· == ' ')) (l := l) (by rw [trimStart, hd]; rfl)
    rw [leadingSpaces, List.takeWhile_cons_of_neg (by simp [hc])]
    rfl

/-- Tabs have taken the place of the spaces, or their number was odd. -/
theorem leadingSpaces_convertSpaces (l : List Char) :
    leadingSpaces (convertSpaces ['\t'] l) = 0 ∨ leadingSpaces (convertSpaces ['\t'] l) % 2 = 1 := by
  by_cases heven : leadingSpaces l % 2 = 0
  · left
    have hconvert : convertSpaces ['\t'] l =
        copies (leadingSpaces l / 2) ['\t'] ++ l.dropWhile (· == ' ') := by
      rw [convertSpaces, drop_takeWhile, ← leadingSpaces, if_pos heven]
    rw [hconvert, copies_singleton]
    cases leadingSpaces l / 2 with
    | zero => exact leadingSpaces_dropWhile l
    | succ n => rfl
  · right
    rw [convertSpaces_eq_self _ (.inr (by omega))]
    omega

/-- Trimming the end of a line leaves its front as it is, or nothing at all. -/
theorem leadingSpaces_trimEnd (h : trimEnd isSpace l ≠ []) :
    leadingSpaces (trimEnd isSpace l) = leadingSpaces l := by
  obtain ⟨e, -, he⟩ := exists_trimEnd isSpace l
  obtain ⟨c, hc⟩ := Option.isSome_iff_exists.1 (List.getLast?_isSome.2 h)
  have hink : isSpace c = false := getLast?_trimEnd hc
  have hstop : ((trimEnd isSpace l).takeWhile (· == ' ')).length ≠ (trimEnd isSpace l).length := by
    intro hlen
    have hall := (List.takeWhile_prefix (p := (· == ' ')) (l := trimEnd isSpace l)).eq_of_length hlen
    have hmem := List.mem_of_getLast? hc
    rw [← hall] at hmem
    rw [beq_iff_eq.1 (List.mem_takeWhile_imp (p := (· == ' ')) hmem)] at hink
    cases hink
  conv_rhs => rw [leadingSpaces, he, List.takeWhile_append, if_neg hstop]
  rfl

theorem convertSpaces_formatted (l : List Char) :
    convertSpaces ['\t'] (formatLine [] ['\t'] l) = formatLine [] ['\t'] l := by
  show convertSpaces ['\t'] (trimEnd isSpace (convertSpaces ['\t'] l)) = trimEnd isSpace (convertSpaces ['\t'] l)
  rcases eq_or_ne (trimEnd isSpace (convertSpaces ['\t'] l)) [] with hnil | hne
  · rw [hnil]
    rfl
  · refine convertSpaces_eq_self _ ?_
    rw [leadingSpaces_trimEnd hne]
    exact leadingSpaces_convertSpaces l

theorem leadLine_trimEnd (lead l : List Char) : leadLine lead (trimEnd isSpace l) = leadLine lead l := by
  rw [leadLine, leadLine, trimEnd_append, trimEnd_append, trimEnd_trimEnd]

/-- **A line that was written with tabs is written again as before.** -/
theorem formatLine_formatLine (lead l : List Char) :
    formatLine lead ['\t'] (formatLine [] ['\t'] l) = formatLine lead ['\t'] l := by
  rw [formatLine, convertSpaces_formatted]
  exact leadLine_trimEnd lead _

/-! ## Blocks -/

/-- A block is in normal form if its blank lines are empty, it does not end in blanks,
    and one of its lines starts with ink. -/
theorem isNormalForm_self (h : IsBlock (lines t)) (hempty : ∀ l ∈ lines t, isBlankLine l = true → l = [])
    (hend : ∀ l, (lines t).getLast? = some l → trimEnd isBlank l = l)
    (hink : ∃ l ∈ lines t, StartsWithInk l) : IsNormalForm t t := by
  obtain ⟨cut, rest, hsplit, -⟩ := h.exists_last
  have hcut : ∀ l ∈ lines t, IsCut 0 l l := by
    intro l hl
    cases hb : isBlankLine l with
    | true => exact .inl ⟨hb, hempty l hl hb⟩
    | false => exact .inr ⟨hb, [], rfl, fun _ h => absurd h List.not_mem_nil, rfl⟩
  refine ⟨[], lines t, [], cut, rest, 0, by simp, by simp, h, ?_, ?_, hink⟩
  · rw [← hsplit, List.forall₂_same]
    exact hcut
  · rw [hend rest (by rw [hsplit, List.getLast?_concat])]
    exact hsplit

/-- Of a line of ordinary characters that is not blank, something is written. -/
theorem isBlankLine_formatLine (ho : ∀ c ∈ l, isOrdinary c = true) (hb : isBlankLine l = false)
    (lead unit : List Char) : isBlankLine (formatLine lead unit l) = false := by
  obtain ⟨c, hc, hink⟩ := isBlankLine_eq_false.1 hb
  have hs : isSpace c = false := by simpa [isOrdinary, hink] using ho c hc
  exact isBlankLine_eq_false.2 ⟨c, mem_formatLine hc hs lead unit, hink⟩

/-- A line that starts with ink is written from there on. -/
theorem startsWithInk_formatLine (ho : ∀ c ∈ l, isOrdinary c = true) (h : StartsWithInk l)
    (unit : List Char) : StartsWithInk (formatLine [] unit l) := by
  obtain ⟨c, hc, hink⟩ := h
  have hs : isSpace c = false := by simpa [isOrdinary, hink] using ho c (List.mem_of_head? hc)
  obtain ⟨r, rfl⟩ := List.head?_eq_some_iff.1 hc
  have hline : convertSpaces unit (c :: r) = c :: r := by
    refine convertSpaces_line unit ?_
    rintro ⟨⟩
    cases hs
  refine ⟨c, ?_, hink⟩
  rw [formatLine, hline, leadLine, List.nil_append, trimEnd_cons hs]
  rfl

/-- A line that is written does not end in blanks. -/
theorem ink_getLast?_formatLine {lead unit : List Char} {c : Char}
    (h : (formatLine lead unit l).getLast? = some c) : isBlank c = false := by
  refine eq_false_of_ne_true fun hb => ?_
  have hs : isSpace c = false := getLast?_trimEnd h
  rw [isSpace_of_isBlank hb] at hs
  cases hs

theorem formatLine_eq_nil {lead unit : List Char} (h : isBlankLine (formatLine lead unit l) = true) :
    formatLine lead unit l = [] := by
  refine List.getLast?_eq_none_iff.1 (Option.eq_none_iff_forall_ne_some.2 fun c hc => ?_)
  have hink := ink_getLast?_formatLine hc
  rw [List.all_eq_true.1 h c (List.mem_of_getLast? hc)] at hink
  cases hink

/-- A line behind tabs is shifted by them. -/
theorem isShifted_formatLine (hl : '\n' ∉ l) (depth : Nat) :
    IsShifted depth (formatLine [] ['\t'] l) (formatLine (copies depth ['\t']) ['\t'] l) := by
  have htab : IsMargin ['\t'] := by decide
  refine ⟨newline_formatLine (htab.copies depth).newline htab.newline hl, ?_⟩
  have hmargin := formatLine_margin (copies_space depth) [] ['\t'] l
  rw [List.append_nil] at hmargin
  rw [hmargin]
  cases hb : isBlankLine (formatLine [] ['\t'] l) with
  | true =>
    rw [formatLine_eq_nil hb]
    exact .inl ⟨rfl, rfl⟩
  | false =>
    have hne : formatLine [] ['\t'] l ≠ [] := by
      intro hnil
      rw [hnil] at hb
      cases hb
    refine .inr ⟨rfl, copies depth ['\t'], ?_, fun c hc => ?_, marginLine_of_ne _ hne⟩
    · rw [copies_singleton, List.length_replicate]
    · rw [List.mem_singleton.1 (mem_of_mem_copies hc)]
      rfl

theorem lines_format {lead unit : List Char} (hlead : '\n' ∉ lead) (hu : '\n' ∉ unit) (t : List Char) :
    lines (format lead unit t) = (lines (unindent t)).map (formatLine lead unit) := by
  rw [format_eq lead hu]
  refine splitOn_joinWith _ (by simpa using splitOn_ne_nil '\n' (unindent t)) fun l hl => ?_
  obtain ⟨m, hm, rfl⟩ := List.mem_map.1 hl
  exact newline_formatLine hlead hu (not_mem_of_mem_lines hm)

/-- What is written of a block is in normal form. -/
theorem isNormalForm_formatted (ho : ∀ c ∈ t, isOrdinary c = true)
    (hb : ∃ l ∈ lines t, isBlankLine l = false) :
    IsBlock (lines (format [] ['\t'] t)) ∧ IsNormalForm (format [] ['\t'] t) (format [] ['\t'] t) := by
  have hlines : lines (format [] ['\t'] t) = (lines (unindent t)).map (formatLine [] ['\t']) :=
    lines_format (by simp) (by decide) t
  have hline {l : List Char} (hl : l ∈ lines (unindent t)) : ∀ c ∈ l, isOrdinary c = true :=
    fun c hc => ho c (mem_of_mem_unindent hl hc)
  have hform := isNormalForm_unindent hb
  obtain ⟨-, ⟨first, hfirst, hbf⟩, ⟨last, hlast, hbl⟩⟩ := hform.isBlock
  have hblock : IsBlock (lines (format [] ['\t'] t)) := by
    refine ⟨fun _ => not_mem_of_mem_lines, ⟨formatLine [] ['\t'] first, ?_, ?_⟩,
      formatLine [] ['\t'] last, ?_, ?_⟩
    · rw [hlines, List.head?_map, hfirst]
      rfl
    · exact isBlankLine_formatLine (hline (List.mem_of_head? hfirst)) hbf _ _
    · rw [hlines, List.getLast?_map, hlast]
      rfl
    · exact isBlankLine_formatLine (hline (List.mem_of_getLast? hlast)) hbl _ _
  refine ⟨hblock, isNormalForm_self hblock (fun l hl hblank => ?_) (fun l hl => ?_) ?_⟩
  · rw [hlines] at hl
    obtain ⟨m, -, rfl⟩ := List.mem_map.1 hl
    exact formatLine_eq_nil hblank
  · rw [hlines] at hl
    obtain ⟨m, -, rfl⟩ := List.mem_map.1 (List.mem_of_getLast? hl)
    exact trimEnd_eq_self fun _ => ink_getLast?_formatLine
  · obtain ⟨-, -, -, -, -, -, -, -, -, -, -, l, hl, hink⟩ := hform
    refine ⟨formatLine [] ['\t'] l, ?_, startsWithInk_formatLine (hline hl) hink _⟩
    rw [hlines]
    exact List.mem_map_of_mem hl

theorem format_blank (hb : ∀ l ∈ lines t, isBlankLine l = true) (depth : Nat) :
    format (copies depth ['\t']) ['\t'] t = [] := by
  rw [format_eq _ (by decide), unindent_blank hb]
  exact trimEnd_eq_nil.2 fun c hc => copies_space depth c (by simpa [convertSpaces, copies] using hc)

/-- **Written code is formatted code behind a margin.**  Whatever the depth was, and
    whatever blanks follow, without its margin it is as if it had been written outside of
    all levels. -/
theorem unindent_written (ho : ∀ c ∈ t, isOrdinary c = true) (depth : Nat) {w : List Char}
    (hw : ∀ c ∈ w, isBlank c = true) :
    unindent (format (copies depth ['\t']) ['\t'] t ++ w) = format [] ['\t'] t := by
  have htab : IsMargin ['\t'] := by decide
  by_cases hb : ∃ l ∈ lines t, isBlankLine l = false
  · obtain ⟨hblock, hform⟩ := isNormalForm_formatted ho hb
    have hvariant : IsVariant (lines (format [] ['\t'] t)) (format (copies depth ['\t']) ['\t'] t ++ w) := by
      refine ⟨depth, [], lines (format (copies depth ['\t']) ['\t'] t), w, [], by simp, ?_, hw, ?_⟩
      · rw [lines_format (by simp) htab.newline, lines_format (htab.copies depth).newline htab.newline,
          List.forall₂_map_left_iff, List.forall₂_map_right_iff, List.forall₂_same]
        exact fun l hl => isShifted_formatLine (not_mem_of_mem_lines hl) depth
      · rw [List.nil_append, List.append_nil, unlines_endWith w (splitOn_ne_nil _ _), unlines,
          joinWith_splitOn]
    rw [unindent_variant hblock hvariant, unlines, joinWith_splitOn, unindent_eq_self hform]
  · have hblank : ∀ l ∈ lines t, isBlankLine l = true := by simpa using hb
    have hnil : format [] ['\t'] t = [] := format_blank hblank 0
    rw [format_blank hblank depth, hnil, List.nil_append]
    exact unindent_blank fun l hl => isBlankLine_of_mem_lines hw hl

/-- What has the same code at its heart is written in the same way. -/
theorem format_congr {u : List Char} (h : unindent u = format [] ['\t'] t)
    (lead : List Char) : format lead ['\t'] u = format lead ['\t'] t := by
  have htab : '\n' ∉ ['\t'] := by decide
  rw [format_eq lead htab, format_eq lead htab, h, lines_format (by simp) htab, List.map_map]
  refine congrArg unlines (List.map_congr_left fun l _ => ?_)
  exact formatLine_formatLine lead l

end Block

/-! ## Writing -/

variable {t x : String}

theorem emitOpen_congr {b : Buffer} (hu : b.unit = "\t")
    (h : unindent x.toList = format [] ['\t'] t.toList) : b.emitOpen x = b.emitOpen t := by
  have hformatted : b.formatted x = b.formatted t := by
    rw [Buffer.formatted, Buffer.formatted, hu]
    exact congrArg String.ofList (format_congr h _)
  rw [Buffer.emitOpen, Buffer.emitOpen, hformatted]

/-- It makes no difference which of two texts with the same code is written. -/
theorem writes_congr {s : Session} (hu : s.buffer.unit = "\t")
    (h : unindent x.toList = format [] ['\t'] t.toList) :
    (Op.emit (.text x)).perform.apply s = (Op.emit (.text t)).perform.apply s ∧
      (Op.emitOpen (.text x)).perform.apply s = (Op.emitOpen (.text t)).perform.apply s := by
  have hopen := emitOpen_congr hu h
  have hemit : s.buffer.emit x = s.buffer.emit t := congrArg Buffer.newline hopen
  have hx : (Value.text x).fragment? = some x := rfl
  have ht : (Value.text t).fragment? = some t := rfl
  constructor
  · rw [Op.perform, Op.perform, Op.apply_silent (Action.apply_emit hx s),
      Op.apply_silent (Action.apply_emit ht s), hemit]
  · rw [Op.perform, Op.perform, Op.apply_silent (Action.apply_emitOpen hx s),
      Op.apply_silent (Action.apply_emitOpen ht s), hopen]

/-- Code as it is written with tabs outside of all levels. -/
def tabbed (t : String) : String := String.ofList (reindent [] ['\t'] (unindent t.toList))

/-- **Code that has been formatted is stable.**  Let the white space of a text be blanks.
    To format it again with tabs changes nothing.  A writer with tabs, in whatever state
    it is, writes the formatted code as it writes the text; and so it does with all that
    another writer with tabs has written of the text. -/
theorem formatted_code_stable (ht : Within isOrdinary t) :
    tabbed (tabbed t) = tabbed t ∧
    (∀ s : Session, s.buffer.unit = "\t" →
      (Op.emit (.text (tabbed t))).perform.apply s = (Op.emit (.text t)).perform.apply s ∧
      (Op.emitOpen (.text (tabbed t))).perform.apply s = (Op.emitOpen (.text t)).perform.apply s) ∧
    ∀ s₁ s₂ : Session, s₁.buffer.unit = "\t" → s₂.buffer.unit = "\t" →
      ∃ s₁' x, (Op.emit (.text t)).perform.apply s₁ = (.ok .nothing, s₁') ∧
        s₁'.buffer.text = s₁.buffer.text ++ x ∧
        (Op.emit (.text x)).perform.apply s₂ = (Op.emit (.text t)).perform.apply s₂ := by
  have hcode : unindent (tabbed t).toList = format [] ['\t'] t.toList := by
    have hwritten := unindent_written ht 0 (w := []) fun _ h => absurd h List.not_mem_nil
    rw [List.append_nil] at hwritten
    rw [tabbed, String.toList_ofList]
    exact hwritten
  refine ⟨?_, fun s hs => writes_congr hs hcode, fun s₁ s₂ h₁ h₂ => ?_⟩
  · have hagain := format_congr hcode []
    exact congrArg String.ofList hagain
  · refine ⟨_, Buffer.blockOf s₁.buffer.depth "\t" t ++ "\n",
      Action.apply_bind_ok (Action.apply_emit rfl s₁) _, ?_, (writes_congr h₂ ?_).1⟩
    · show (s₁.buffer.emit t).text = _
      rw [Buffer.emit, Buffer.newline, Buffer.text_push, Buffer.emitOpen_text, h₁, String.append_assoc]
    · have hwritten := unindent_written ht s₁.buffer.depth (w := ['\n']) (List.forall_mem_singleton.2 rfl)
      rw [String.toList_append, Buffer.blockOf, String.toList_ofList, Buffer.indentationOf, String.toList_ofList]
      exact hwritten

/-- Spaces in front of a tab, an odd and an even run of them, a carriage return and blank
    lines, written one and two levels deep. -/
theorem formatted_code_stable_mixed :
    let t := "\n  if (a) \x7b\r\n \x0c\n      b;\t\n     c;\td\n  \t  e;\n  \x7d\t\n \n"
    let f := "if (a) \x7b\n\n\t\tb;\n   c;\td\n\t  e;\n\x7d"
    let s₁ : Session := { Session.start .empty Config.default "\t" Files.empty [] with
      buffer := ⟨["x;\n"], 1, "\t"⟩ }
    let s₂ : Session := { s₁ with buffer := ⟨["y = "], 2, "\t"⟩ }
    Within isOrdinary t ∧ tabbed t = f ∧ tabbed f = f ∧
    (Op.emit (.text f)).perform.apply s₂ = (Op.emit (.text t)).perform.apply s₂ ∧
    ∃ s₁' x, (Op.emit (.text t)).perform.apply s₁ = (.ok .nothing, s₁') ∧
      s₁'.buffer.text = s₁.buffer.text ++ x ∧
      (Op.emit (.text x)).perform.apply s₂ = (Op.emit (.text t)).perform.apply s₂ := by
  intro t f s₁ s₂
  have ht : Within isOrdinary t := List.all_eq_true.1 (by decide +kernel)
  have hf : tabbed t = f := by decide +kernel
  obtain ⟨hagain, hwrite, hother⟩ := formatted_code_stable ht
  rw [hf] at hagain hwrite
  exact ⟨ht, hf, hagain, (hwrite s₂ rfl).1, hother s₁ s₂ rfl rfl⟩

end CxxWriter
