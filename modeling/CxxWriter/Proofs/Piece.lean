/-
  What is written on lines of its own.

  * a `Piece` is a fragment, a comment, the initial value of a member, or a
    declaration with a tree as its value; `Piece.lines` are its lines at a depth;
  * `emit_piece`, `emitComment_piece`, `member_piece`, `assignment_piece`: these are
    the lines that a buffer gets;
  * `lines_margin`: a piece is written at a greater depth as it is at a lesser
    one, with a margin in front of its lines, if it is `IsOrdinary` and `IsFilled`.
-/
import CxxWriter.Proofs.Layout
import CxxWriter.Proofs.Within

namespace CxxWriter

open Block Text
open Buffer (blockOf blockLines)

/-- What is written on lines of its own. -/
inductive Piece where
  | gap
  | block (t : String)
  | comment (t : String)
  | member (lead name value trail : String)
  | assignment (declaration opening closing : String) (children : List Tree)

/-- The lines of the initial value of a member. -/
def memberLines (depth : Nat) (unit lead name value trail : List Char) : List (List Char) :=
  match lines (unindent value) with
  | [] => []
  | l :: ls => endWith (')' :: trail) ((copies depth unit ++ lead ++ name ++ '(' :: l) ::
      ls.map (formatLine (copies depth unit) unit))

/-- The lines of a piece at a depth. -/
def Piece.lines (depth : Nat) (unit : List Char) : Piece → List (List Char)
  | .gap => [[]]
  | .block t => blockLines depth unit t.toList
  | .comment t =>
    blockLines depth unit "/*".toList ++
      (Text.lines (unindent t.toList)).map (leadLine (copies depth unit ++ " * ".toList)) ++
      [copies depth unit ++ " */".toList]
  | .member lead name value trail =>
    memberLines depth unit lead.toList name.toList value.toList trail.toList
  | .assignment declaration opening closing children =>
    endWith (' ' :: opening.toList) (blockLines depth unit (declaration ++ " =").toList) ++
      Tree.layoutItems (depth + 1) unit children ++
      endWith [';'] (blockLines depth unit closing.toList)

/-! ## Writing a piece -/

namespace Buffer

theorem toList_indentation (b : Buffer) : b.indentation.toList = copies b.depth b.unit.toList :=
  String.toList_ofList

theorem emit_piece (b : Buffer) (hu : '\n' ∉ b.unit.toList) (t : String) :
    (b.emit t).text.toList =
      b.text.toList ++ ended ((Piece.block t).lines b.depth b.unit.toList) := by
  rw [emit, newline, text_push, emitOpen_text, String.toList_append, String.toList_append,
    toList_blockOf b.depth hu, Piece.lines, ← unlines_ended (blockLines_ne_nil _ _ _),
    List.append_assoc]
  rfl

theorem emitComment_piece (b : Buffer) (hu : '\n' ∉ b.unit.toList) (t : String) :
    (b.emitComment t).text.toList =
      b.text.toList ++ ended ((Piece.comment t).lines b.depth b.unit.toList) := by
  have hbody : leadLines (b.indentation ++ " * ").toList (unindent t.toList) ++ ['\n'] =
      ended ((lines (unindent t.toList)).map (leadLine (copies b.depth b.unit.toList ++ " * ".toList))) := by
    rw [leadLines, String.toList_append, toList_indentation]
    exact unlines_ended (by simpa using splitOn_ne_nil '\n' (unindent t.toList))
  have hclose : (b.indentation ++ " */").toList = copies b.depth b.unit.toList ++ " */".toList := by
    rw [String.toList_append, toList_indentation]
  have htext : (b.emitComment t).text = (b.emit "/*").text ++
      String.ofList (leadLines (b.indentation ++ " * ").toList (unindent t.toList)) ++ "\n" ++
      (b.indentation ++ " */") ++ "\n" := rfl
  rw [htext, Piece.lines, ended_append, ended_append, ended_cons, ended_nil, ← hbody]
  simp only [String.toList_append, String.toList_ofList, emit_piece b hu, Piece.lines, ← hclose,
    List.append_assoc]
  rfl

/-- A block does not end in a line feed. -/
theorem rest_ne_nil {t l : List Char} : lines (unindent t) ≠ l :: lines [] := by
  intro h
  have hne : unindent t ≠ [] := by
    intro he
    rw [he] at h
    cases h
  obtain ⟨c, hc, -⟩ := ink_of_getLast? (l := []) hne (by rw [h]; rfl)
  cases hc

/-- The value of a member, line by line. -/
theorem exists_memberValue (b : Buffer) (hu : '\n' ∉ b.unit.toList) (value : String) :
    ∃ l ls, lines (unindent value.toList) = l :: ls ∧ (Action.memberValue b value).toList =
      unlines (l :: ls.map (formatLine (copies b.depth b.unit.toList) b.unit.toList)) := by
  unfold Action.memberValue
  dsimp only
  rcases first_line (unindent value.toList) with ⟨hd, hl⟩ | ⟨r, hd, hl⟩
  · refine ⟨_, [], hl, ?_⟩
    rw [hd, if_pos (by rfl), String.toList_ofList]
    rfl
  · refine ⟨_, lines r, hl, ?_⟩
    have hr : r ≠ [] := by
      rintro rfl
      exact rest_ne_nil hl
    have hne : (lines r).map (formatLine (copies b.depth b.unit.toList) b.unit.toList) ≠ [] := by
      simpa using splitOn_ne_nil '\n' r
    obtain ⟨m, ms, hm⟩ := List.exists_cons_of_ne_nil hne
    rw [hd, List.drop_one, List.tail_cons, if_neg (by simpa using hr), String.toList_ofList,
      toList_indentation, reindent_eq _ hu, hm]
    rfl

theorem member_piece (b : Buffer) (hu : '\n' ∉ b.unit.toList) (lead name value trail : String) :
    (b.emitRaw (b.indentation ++ lead ++ name ++ "(" ++ Action.memberValue b value ++ ")" ++
      trail)).newline.text.toList =
      b.text.toList ++ ended ((Piece.member lead name value trail).lines b.depth b.unit.toList) := by
  obtain ⟨l, ls, hl, hv⟩ := exists_memberValue b hu value
  rw [Piece.lines, memberLines, hl]
  dsimp only
  rw [ended_endWith _ (by simp)]
  simp only [newline, emitRaw, text_push, String.toList_append, hv, toList_indentation]
  cases ls with
  | nil => simp
  | cons m ms => simp

/-- A declaration with a tree as its value. -/
theorem assignment_piece (b : Buffer) (hu : '\n' ∉ b.unit.toList) {declaration opening closing : String}
    {children : List Tree} (hc : Tree.IsBare closing.toList) (hr : Tree.refusals? children = none) :
    ((Tree.node opening closing children).write
      ((b.emitOpen (declaration ++ " =")).emitRaw " ")).buffer.closeValue.text.toList =
      b.text.toList ++ ended
        ((Piece.assignment declaration opening closing children).lines b.depth b.unit.toList) := by
  have hline : ((b.emitOpen (declaration ++ " =")).emitRaw " ").atLineStart = false := by
    rw [atLineStart_eq, emitRaw, text_push, startsLine_append]
    rfl
  have hstripped (x : String) : stripped (x ++ blockOf b.depth b.unit closing) =
      x ++ blockOf b.depth b.unit closing := by
    rw [hc.blockOf_eq, ← String.append_assoc, hc.stripped_append]
  have hn : (Tree.node opening closing children).refusal? = none := hr
  have hitems := Tree.toList_shownItems children (b.depth + 1) hu hr
  have hd : ((b.emitOpen (declaration ++ " =")).emitRaw " ").depth = b.depth := rfl
  have hunit : ((b.emitOpen (declaration ++ " =")).emitRaw " ").unit = b.unit := rfl
  rw [closeValue_text, Tree.write_text_after _ hn hline, hd, hunit, Tree.shownAfter,
    ← String.append_assoc, ← String.append_assoc, hstripped, Piece.lines,
    ended_append, ended_append, ended_endWith _ (blockLines_ne_nil _ _ _),
    ended_endWith _ (blockLines_ne_nil _ _ _), ← toList_blockOf b.depth hu,
    ← toList_blockOf b.depth hu, ← hitems]
  simp only [emitRaw, text_push, emitOpen_text, String.toList_append, List.append_assoc]
  rfl

end Buffer

/-! ## Ink -/

/-- Is a character no white space, or white space that separates tokens? -/
def Text.isOrdinary (c : Char) : Bool := !isSpace c || isBlank c

/-- Is there anything in a text but blanks, and no other white space? -/
def Text.hasInk (t : String) : Bool := t.toList.all isOrdinary && t.toList.any (!isBlank ·)

mutual

/-- Is there ink in all values and closing delimiters of a tree? -/
def Tree.isFilled : Tree → Bool
  | .leaf v => v.fragment?.any hasInk
  | .node _ closing children => hasInk closing && areFilled children

/-- Is there ink in all values and closing delimiters of trees? -/
def Tree.areFilled : List Tree → Bool
  | [] => true
  | t :: ts => t.isFilled && areFilled ts

end

theorem Tree.areFilled_iff {ts : List Tree} : areFilled ts = true ↔ ∀ t ∈ ts, t.isFilled = true := by
  induction ts with
  | nil => simp [areFilled]
  | cons t ts ih => simp [areFilled, ih]

/-- The last line that is written of a text with ink is not empty. -/
theorem ne_nil_of_getLast?_blockLines {t : String} (ht : hasInk t = true) {depth : Nat}
    {unit l : List Char} (hl : (blockLines depth unit t.toList).getLast? = some l) : l ≠ [] := by
  simp only [hasInk, Bool.and_eq_true, List.all_eq_true, List.any_eq_true, Bool.not_eq_true'] at ht
  obtain ⟨hplain, a, ha, hb⟩ := ht
  rw [blockLines, List.getLast?_map] at hl
  obtain ⟨m, hm, rfl⟩ := Option.map_eq_some_iff.1 hl
  obtain ⟨c, hc, hb⟩ := ink_of_getLast? (unindent_ne_nil ha hb) hm
  have hs : isSpace c = false := by
    have := hplain c (mem_of_mem_unindent (List.mem_of_getLast? hm) hc)
    simpa [isOrdinary, hb] using this
  exact List.ne_nil_of_mem (mem_formatLine hc hs _ _)

/-! ## Margins -/

variable {unit : List Char}

theorem blockLines_margin (hu : IsMargin unit) (k depth : Nat) (t : List Char) :
    blockLines (k + depth) unit t = (blockLines depth unit t).map (marginLine (copies k unit)) := by
  rw [blockLines, blockLines, copies_add, List.map_map]
  exact List.map_congr_left fun l _ => formatLine_margin (fun c hc => (hu.copies k c hc).1) _ _ l

namespace Tree

theorem withComma_eq (ls : List (List Char)) : withComma ls = endWith [','] ls := by
  rcases List.eq_nil_or_concat ls with rfl | ⟨ms, m, rfl⟩
  · rfl
  · rw [List.concat_eq_append, withComma_concat, endWith_concat]

theorem ne_nil_of_getLast?_layout {t : Tree} (ht : t.isFilled = true) {depth : Nat} {l : List Char}
    (hl : (t.layout depth unit).getLast? = some l) : l ≠ [] := by
  cases t with
  | leaf v =>
    obtain ⟨s, hs, hink⟩ := (Option.any_eq_true _ _).1 ht
    rw [layout, hs] at hl
    exact ne_nil_of_getLast?_blockLines hink hl
  | node opening closing children =>
    rw [isFilled, Bool.and_eq_true] at ht
    rw [layout, List.getLast?_append_of_ne_nil _ (Buffer.blockLines_ne_nil _ _ _)] at hl
    exact ne_nil_of_getLast?_blockLines ht.1 hl

mutual

theorem layout_margin (hu : IsMargin unit) (k : Nat) : ∀ (t : Tree), t.isFilled = true → ∀ depth,
    t.layout (k + depth) unit = (t.layout depth unit).map (marginLine (copies k unit))
  | .leaf v, _, depth => by rw [layout, layout, blockLines_margin hu]
  | .node opening closing children, ht, depth => by
    rw [isFilled, Bool.and_eq_true] at ht
    rw [layout, layout, blockLines_margin hu, blockLines_margin hu, Nat.add_assoc,
      layoutItems_margin hu k children ht.2, List.map_append, List.map_append]

theorem layoutItems_margin (hu : IsMargin unit) (k : Nat) :
    ∀ (ts : List Tree), areFilled ts = true → ∀ depth,
      layoutItems (k + depth) unit ts = (layoutItems depth unit ts).map (marginLine (copies k unit))
  | [], _, _ => rfl
  | t :: ts, ht, depth => by
    rw [areFilled, Bool.and_eq_true] at ht
    rw [layoutItems, layoutItems, layout_margin hu k t ht.1, layoutItems_margin hu k ts ht.2,
      List.map_append]
    split
    · rfl
    · rw [withComma_eq, withComma_eq, endWith_margin _ _ fun l => ne_nil_of_getLast?_layout ht.1]

end

end Tree

/-- Are the parts of a piece that stand on one line without line feeds, and is
    there no white space but blanks where a line goes on behind a block? -/
def Piece.IsOrdinary : Piece → Prop
  | .member lead name value trail =>
    '\n' ∉ lead.toList ∧ '\n' ∉ name.toList ∧ '\n' ∉ trail.toList ∧ Within isOrdinary value
  | .assignment declaration _ _ _ => Within isOrdinary declaration
  | _ => True

/-- Is there ink in the tree of a piece? -/
def Piece.IsFilled : Piece → Prop
  | .assignment _ opening closing children =>
    '\n' ∉ opening.toList ∧ hasInk closing = true ∧ Tree.areFilled children = true
  | _ => True

theorem memberLines_margin (hu : IsMargin unit) (k depth : Nat) (lead name : List Char)
    {value : String} (hv : Within isOrdinary value) (trail : List Char) :
    memberLines (k + depth) unit lead name value.toList trail =
      (memberLines depth unit lead name value.toList trail).map (marginLine (copies k unit)) := by
  unfold memberLines
  cases hls : lines (unindent value.toList) with
  | nil => rfl
  | cons l ls =>
    have hmap : ls.map (formatLine (copies (k + depth) unit) unit) =
        (ls.map (formatLine (copies depth unit) unit)).map (marginLine (copies k unit)) := by
      rw [copies_add, List.map_map]
      exact List.map_congr_left fun m _ => formatLine_margin (fun c hc => (hu.copies k c hc).1) _ _ m
    have hfirst : copies (k + depth) unit ++ lead ++ name ++ '(' :: l =
        marginLine (copies k unit) (copies depth unit ++ lead ++ name ++ '(' :: l) := by
      rw [marginLine_of_ne _ (by simp), copies_add]
      simp only [List.append_assoc]
    dsimp only
    rw [hfirst, hmap, ← List.map_cons, endWith_margin]
    intro m hm
    rcases List.eq_nil_or_concat ls with rfl | ⟨ks, j, rfl⟩
    · rw [List.map_nil, List.getLast?_singleton, Option.some.injEq] at hm
      simp [← hm]
    · -- the last line of the value is not blank, and no white space of another kind
      rw [List.concat_eq_append] at hls hm
      rw [List.map_append, List.map_singleton, ← List.cons_append, List.getLast?_concat,
        Option.some.injEq] at hm
      have hne : unindent value.toList ≠ [] := by
        intro he
        rw [he] at hls
        simp [splitOn] at hls
      have hlast : (lines (unindent value.toList)).getLast? = some j := by
        rw [hls, ← List.cons_append, List.getLast?_concat]
      obtain ⟨c, hc, hb⟩ := ink_of_getLast? hne hlast
      have hs : isSpace c = false := by
        have := hv c (mem_of_mem_unindent (List.mem_of_getLast? hlast) hc)
        simpa [isOrdinary, hb] using this
      rw [← hm]
      exact List.ne_nil_of_mem (mem_formatLine hc hs _ _)

/-- **A margin in front of the lines makes the piece of a greater depth.** -/
theorem Piece.lines_margin (hu : IsMargin unit) (k depth : Nat) {p : Piece} (hp : p.IsOrdinary)
    (hf : p.IsFilled) :
    p.lines (k + depth) unit = (p.lines depth unit).map (marginLine (copies k unit)) := by
  cases p with
  | gap => rfl
  | block t =>
    rw [lines, lines]
    exact blockLines_margin hu k depth _
  | comment t =>
    have hlead (l : List Char) : leadLine (copies (k + depth) unit ++ " * ".toList) l =
        marginLine (copies k unit) (leadLine (copies depth unit ++ " * ".toList) l) := by
      rw [copies_add, List.append_assoc]
      exact leadLine_margin (fun c hc => (hu.copies k c hc).1) _ l
    have hclose : copies (k + depth) unit ++ " */".toList =
        marginLine (copies k unit) (copies depth unit ++ " */".toList) := by
      rw [marginLine_of_ne _ (by simp), copies_add, List.append_assoc]
    rw [lines, lines, blockLines_margin hu, hclose, List.map_congr_left fun l _ => hlead l,
      List.map_append, List.map_append, List.map_map]
    rfl
  | member lead name value trail =>
    obtain ⟨-, -, -, hv⟩ := hp
    rw [lines, lines]
    exact memberLines_margin hu k depth _ _ hv _
  | assignment declaration opening closing children =>
    obtain ⟨-, hc, hts⟩ := hf
    have hink : hasInk (declaration ++ " =") = true := by
      rw [hasInk, String.toList_append, List.all_append, List.any_append, List.all_eq_true.2 hp]
      simp [isOrdinary, show isSpace '=' = false by decide, show isBlank '=' = false by decide,
        show isBlank ' ' = true by decide]
    rw [lines, lines, blockLines_margin hu, blockLines_margin hu, Nat.add_assoc,
      Tree.layoutItems_margin hu k children hts,
      endWith_margin _ _ fun l => ne_nil_of_getLast?_blockLines hink,
      endWith_margin _ _ fun l => ne_nil_of_getLast?_blockLines hc, List.map_append, List.map_append]

theorem newline_of_mem_memberLines {lead name value trail : List Char} (hu : '\n' ∉ unit)
    (hl : '\n' ∉ lead) (hn : '\n' ∉ name) (ht : '\n' ∉ trail) (depth : Nat) :
    ∀ l ∈ memberLines depth unit lead name value trail, '\n' ∉ l := by
  have hcopies : '\n' ∉ copies depth unit := fun h => hu (mem_of_mem_copies h)
  intro l hmem
  unfold memberLines at hmem
  split at hmem
  · cases hmem
  · next m ms hls =>
    have hin : ∀ j ∈ m :: ms, '\n' ∉ j := fun j hj =>
      not_mem_of_mem_lines (t := unindent value) (by rw [hls]; exact hj)
    have hall : ∀ j ∈ (copies depth unit ++ lead ++ name ++ '(' :: m) ::
        ms.map (formatLine (copies depth unit) unit), '\n' ∉ j := by
      intro j hj
      rcases List.mem_cons.1 hj with rfl | hj
      · simp [hcopies, hl, hn, hin m List.mem_cons_self]
      · obtain ⟨i, hi, rfl⟩ := List.mem_map.1 hj
        exact newline_formatLine hcopies hu (hin i (List.mem_cons_of_mem m hi))
    rcases mem_endWith hmem with h | ⟨j, hj, rfl⟩
    · exact hall l h
    · simp [hall j hj, ht]

theorem Piece.newline_of_mem_lines (hu : '\n' ∉ unit) (depth : Nat) {p : Piece} (hp : p.IsOrdinary)
    (hf : p.IsFilled) : ∀ l ∈ p.lines depth unit, '\n' ∉ l := by
  have hcopies : '\n' ∉ copies depth unit := fun h => hu (mem_of_mem_copies h)
  have hblock {t l : List Char} (h : l ∈ blockLines depth unit t) : '\n' ∉ l :=
    Buffer.newline_of_mem_blockLines hu h
  intro l h
  cases p with
  | gap =>
    rw [List.mem_singleton.1 h]
    exact List.not_mem_nil
  | block t => exact hblock h
  | comment t =>
    rcases List.mem_append.1 h with h | h
    · rcases List.mem_append.1 h with h | h
      · exact hblock h
      · obtain ⟨m, hm, rfl⟩ := List.mem_map.1 h
        exact newline_leadLine (by simp [hcopies]) (not_mem_of_mem_lines hm)
    · rw [List.mem_singleton.1 h]
      simp [hcopies]
  | member lead name value trail =>
    obtain ⟨hl, hn, ht, -⟩ := hp
    rw [lines] at h
    exact newline_of_mem_memberLines hu hl hn ht depth l h
  | assignment declaration opening closing children =>
    rcases List.mem_append.1 h with h | h
    · rcases List.mem_append.1 h with h | h
      · rcases mem_endWith h with h | ⟨m, hm, rfl⟩
        · exact hblock h
        · simp [hblock hm, hf.1]
      · exact Tree.newline_of_mem_layoutItems children (depth + 1) hu l h
    · rcases mem_endWith h with h | ⟨m, hm, rfl⟩
      · exact hblock h
      · simp [hblock hm]

end CxxWriter
