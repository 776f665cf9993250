/-
  Indentation by tabs can be read back.

  * `spacesForTabs` writes two spaces for every tab at the front of a line;
  * `spacesForTabs_convertSpaces`: it undoes the conversion of spaces into tabs, if no
    tab stood among them;
  * `tabs_read_back`: what is written of a fragment, without the tabs of its depth and
    with spaces for the other tabs at the front of lines, is the block that was
    written, up to white space at the ends of lines.
-/
import CxxWriter.Proofs.Action
import CxxWriter.Proofs.Layout
import CxxWriter.Proofs.Margin

namespace CxxWriter

open Block Text

namespace Block

/-- A line with two spaces for every tab at its front. -/
def spacesForTabs (l : List Char) : List Char :=
  copies (l.takeWhile (· == '\t')).length [' ', ' '] ++ l.dropWhile (· == '\t')

variable {l r : List Char}

/-- Two spaces stand for a unit of nesting. -/
theorem copies_pair (n : Nat) (c : Char) : copies n [c, c] = List.replicate (n * 2) c := by
  induction n with
  | zero => rfl
  | succ n ih =>
    rw [Nat.add_comm n 1, copies_add, ih, Nat.add_mul, List.replicate_add]
    rfl

/-- Tabs in front of what does not start with one. -/
theorem spacesForTabs_append (n : Nat) (h : r.head? ≠ some '\t') :
    spacesForTabs (copies n ['\t'] ++ r) = copies n [' ', ' '] ++ r := by
  obtain ⟨hfront, hbody⟩ := span_tabs n h
  rw [spacesForTabs, hfront, hbody, copies_singleton, List.length_replicate]

/-- A line that does not start with a tab has none at its front. -/
theorem spacesForTabs_eq_self (h : l.head? ≠ some '\t') : spacesForTabs l = l :=
  spacesForTabs_append 0 h

/-- White space in front of a line goes with the end of it, if nothing else is there. -/
theorem trimEnd_margin {margin : List Char} (h : ∀ c ∈ margin, isSpace c = true) (l : List Char) :
    trimEnd isSpace (margin ++ l) = marginLine margin (trimEnd isSpace l) := by
  have hlead := leadLine_margin h [] l
  rwa [List.append_nil] at hlead

theorem head?_of_trimEnd {c : Char} (h : (trimEnd isSpace l).head? = some c) : l.head? = some c := by
  obtain ⟨e, -, hsplit⟩ := exists_trimEnd isSpace l
  rw [hsplit, List.head?_append, h]
  rfl

/-- Leading spaces, and what is behind them. -/
theorem exists_spaces (l : List Char) : ∃ w r, l = List.replicate w ' ' ++ r ∧
    ∀ unit, convertSpaces unit l = if w % 2 = 0 then copies (w / 2) unit ++ r else l := by
  have hspaces : l.takeWhile (· == ' ') = List.replicate (l.takeWhile (· == ' ')).length ' ' :=
    List.eq_replicate_of_mem fun c hc => beq_iff_eq.1 (List.mem_takeWhile_imp (p := (· == ' ')) hc)
  refine ⟨(l.takeWhile (· == ' ')).length, l.dropWhile (· == ' '), ?_, fun unit => ?_⟩
  · rw [← hspaces]
    exact List.takeWhile_append_dropWhile.symm
  · rw [convertSpaces, drop_takeWhile]

/-- The conversion of leading spaces into tabs is undone. -/
theorem spacesForTabs_convertSpaces (h : '\t' ∉ l.takeWhile isBlank) :
    spacesForTabs (trimEnd isSpace (convertSpaces ['\t'] l)) = trimEnd isSpace l := by
  obtain ⟨w, r, rfl, hconvert⟩ := exists_spaces l
  have hblank : ∀ c ∈ List.replicate w ' ', isBlank c = true := fun c hc => by
    rw [List.eq_of_mem_replicate hc]
    rfl
  rw [List.takeWhile_append_of_pos hblank, List.mem_append, not_or] at h
  have hr : (trimEnd isSpace r).head? ≠ some '\t' := by
    intro ht
    obtain ⟨q, rfl⟩ := List.head?_eq_some_iff.1 (head?_of_trimEnd ht)
    exact h.2 (by rw [List.takeWhile_cons_of_pos (by decide)]; exact List.mem_cons_self)
  rw [hconvert]
  split
  · next heven =>
    have hpairs : List.replicate w ' ' = copies (w / 2) [' ', ' '] := by
      rw [copies_pair, Nat.div_mul_cancel (Nat.dvd_of_mod_eq_zero heven)]
    rw [trimEnd_margin (copies_space _), trimEnd_margin fun c hc => isSpace_of_isBlank (hblank c hc), hpairs]
    by_cases hnil : trimEnd isSpace r = []
    · rw [hnil]
      rfl
    · rw [marginLine_of_ne _ hnil, marginLine_of_ne _ hnil, spacesForTabs_append _ hr]
  · next hodd =>
    refine spacesForTabs_eq_self fun ht => ?_
    cases w with
    | zero => exact hodd rfl
    | succ w =>
      have hhead := head?_of_trimEnd ht
      rw [List.replicate_succ] at hhead
      cases hhead

/-- A line that is written at a depth, from behind the tabs of the depth. -/
theorem formatLine_tabs (depth : Nat) (l : List Char) : formatLine (copies depth ['\t']) ['\t'] l =
    marginLine (copies depth ['\t']) (trimEnd isSpace (convertSpaces ['\t'] l)) :=
  trimEnd_margin (copies_space depth) _

theorem prefix_marginLine (lead : List Char) {l : List Char} (h : marginLine lead l ≠ []) :
    lead <+: marginLine lead l := by
  rcases eq_or_ne l [] with rfl | hl
  · exact absurd rfl h
  · rw [marginLine_of_ne _ hl]
    exact List.prefix_append _ _

theorem drop_marginLine (depth : Nat) (l : List Char) :
    (marginLine (copies depth ['\t']) l).drop depth = l := by
  by_cases hl : l = []
  · rw [hl, marginLine_nil, List.drop_nil]
  · rw [marginLine_of_ne _ hl, copies_singleton]
    exact List.drop_left' (List.length_replicate)

end Block

/-- **Indentation by tabs loses nothing.**  Let no line of a block have a tab among the
    blanks at its front.  Written at any depth, each of its lines that is not empty
    starts with a tab for every level.  Without these, and with two spaces for every
    tab that is then at the front of a line, the text is the block again, up to white
    space at the ends of its lines. -/
theorem tabs_read_back {s : Session} {code : Value} {t : String} (hu : s.buffer.unit = "\t")
    (ht : code.fragment? = some t)
    (htab : ∀ l ∈ lines (unindent t.toList), '\t' ∉ l.takeWhile isBlank) :
    ∃ s' x, (Op.emit code).perform.apply s = (.ok .nothing, s') ∧
      s'.buffer.text.toList = s.buffer.text.toList ++ x ++ ['\n'] ∧
      (∀ l ∈ lines x, l ≠ [] → copies s.buffer.depth ['\t'] <+: l) ∧
      unlines ((lines x).map fun l => spacesForTabs (l.drop s.buffer.depth)) =
        unlines ((lines (unindent t.toList)).map (trimEnd isSpace)) := by
  have hline : ∀ l ∈ Buffer.blockLines s.buffer.depth ['\t'] t.toList, '\n' ∉ l := fun _ =>
    Buffer.newline_of_mem_blockLines (by decide)
  have hlines : lines (Buffer.blockOf s.buffer.depth "\t" t).toList =
      Buffer.blockLines s.buffer.depth ['\t'] t.toList := by
    rw [Buffer.toList_blockOf _ (by decide)]
    exact splitOn_joinWith _ (Buffer.blockLines_ne_nil _ _ _) hline
  refine ⟨_, (Buffer.blockOf s.buffer.depth "\t" t).toList, Action.apply_bind_ok (Action.apply_emit ht s) _,
    ?_, fun l hl hne => ?_, ?_⟩
  · show (s.buffer.emit t).text.toList = _
    rw [Buffer.emit, Buffer.newline, Buffer.text_push, Buffer.emitOpen_text, hu, String.toList_append,
      String.toList_append]
    rfl
  · rw [hlines] at hl
    obtain ⟨m, -, rfl⟩ := List.mem_map.1 hl
    rw [formatLine_tabs] at hne ⊢
    exact prefix_marginLine _ hne
  · rw [hlines, Buffer.blockLines, List.map_map]
    refine congrArg unlines (List.map_congr_left fun l hl => ?_)
    rw [Function.comp_apply, formatLine_tabs, drop_marginLine, spacesForTabs_convertSpaces (htab l hl)]

/-- A block with an even and an odd run of spaces, a line of white space beyond ASCII and a
    tab behind other characters, two levels deep. -/
theorem tabs_read_back_mixed :
    let t := "\n  if (a)\n      b;\t\n     c;\td\n   \u00a0\n\n  end \u2003 "
    let s : Session := { Session.start .empty Config.default "\t" Files.empty [] with
      buffer := ⟨["x;\n"], 2, "\t"⟩ }
    (∀ l ∈ lines (unindent t.toList), '\t' ∉ l.takeWhile isBlank) ∧
    ∃ s' x, (Op.emit (.text t)).perform.apply s = (.ok .nothing, s') ∧
      s'.buffer.text.toList = s.buffer.text.toList ++ x ++ ['\n'] ∧
      (∀ l ∈ lines x, l ≠ [] → copies 2 ['\t'] <+: l) ∧
      unlines ((lines x).map fun l => spacesForTabs (l.drop 2)) = "if (a)\n    b;\n   c;\td\n\n\nend".toList := by
  intro t s
  have htab : ∀ l ∈ lines (unindent t.toList), '\t' ∉ l.takeWhile isBlank := by decide +kernel
  have ht : (Value.text t).fragment? = some t := rfl
  obtain ⟨s', x, hs, hx, hdeep, hback⟩ := tabs_read_back (s := s) rfl ht htab
  refine ⟨htab, s', x, hs, hx, hdeep, hback.trans ?_⟩
  decide +kernel

end CxxWriter
