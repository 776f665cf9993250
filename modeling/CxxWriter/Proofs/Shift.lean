/-
  Output at a greater depth.

  * `Op.nest k ops` carries out operations `k` levels deeper;
  * `Op.isShiftable`: operations that write whole lines and are given texts
    without white space of an uncommon kind;
  * `Becomes.isFilled`: a tree that is filled in the end was filled when it was
    written;
  * `nested_output_shifted`: what is written deeper is what is written, with a
    margin in front of every line that is not empty.
-/
import CxxWriter.Proofs.Output

namespace CxxWriter

open Block Text

/-! ## Outlines -/

namespace Outline

/-- Does a property hold of all pieces of an outline? -/
def All (P : Piece → Prop) (o : Outline) : Prop := ∀ e ∈ o, P e.2

variable {P : Piece → Prop}

theorem all_nil : All P [] := fun _ h => absurd h List.not_mem_nil

theorem all_append {o o' : Outline} : All P (o ++ o') ↔ All P o ∧ All P o' := List.forall_mem_append

theorem all_deeper {o : Outline} : All P (deeper o) ↔ All P o := List.forall_mem_map

theorem all_singleton {n : Nat} {p : Piece} : All P [(n, p)] ↔ P p := List.forall_mem_singleton

theorem all_blocks (h : ∀ t, P (.block t)) (ts : List String) : All P (blocks ts) := by
  intro e he
  obtain ⟨t, -, rfl⟩ := List.mem_map.1 he
  exact h t

theorem all_returnType (h : ∀ t, P (.block t)) (d : Declaration) : All P (returnType d) := by
  unfold returnType
  split
  · exact all_nil
  · exact all_blocks h _

variable {unit : List Char} {o : Outline}

theorem lines_margin (hu : IsMargin unit) (k depth : Nat) (hp : All Piece.IsOrdinary o)
    (hf : All Piece.IsFilled o) :
    lines (k + depth) unit o = (lines depth unit o).map (marginLine (copies k unit)) := by
  rw [lines, lines, List.map_flatMap]
  refine List.flatMap_congr fun e he => ?_
  rw [Nat.add_assoc]
  exact Piece.lines_margin hu k _ (hp e he) (hf e he)

theorem newline_of_mem_lines (hu : '\n' ∉ unit) (depth : Nat) (hp : All Piece.IsOrdinary o)
    (hf : All Piece.IsFilled o) : ∀ l ∈ lines depth unit o, '\n' ∉ l := by
  intro l hl
  obtain ⟨e, he, hl⟩ := List.mem_flatMap.1 hl
  exact Piece.newline_of_mem_lines hu _ (hp e he) (hf e he) l hl

end Outline

/-! ## Operations -/

namespace Op

open Outline (All all_append all_deeper all_blocks all_singleton all_returnType)

/-- Does an operation write whole lines, is it given no white space but blanks,
    and is every name of a member on one line? -/
def isShiftable (op : Op) : Bool :=
  op.isLined && op.isWithin isOrdinary && match op with
    | .constructor _ initial _ => initial.all fun e => e.1.isWithin (· != '\n')
    | _ => true

/-- Operations that are carried out some levels deeper. -/
def nest : Nat → List Op → List Op
  | 0, ops => ops
  | k + 1, ops => [.indented (nest k ops) .null]

theorem within_source {q : Char → Bool} (hq : ∀ c, isSpace c = false → q c = true) {v : Value}
    (h : v.isWithin q = true) : Within q v.source := by
  unfold Value.source
  cases hv : v.fragment? with
  | none => exact fun c hc => absurd hc (by simp)
  | some t => exact within_fragment hq h hv

theorem isOrdinary_of_solid {c : Char} (h : isSpace c = false) : isOrdinary c = true := by
  simp [isOrdinary, h]

theorem all_members {initial : List (Value × Value)}
    (hp : initial.all (fun e => e.1.isWithin isOrdinary && e.2.isWithin isOrdinary) = true)
    (hn : initial.all (fun e => e.1.isWithin (· != '\n')) = true) {lead : String}
    (hl : '\n' ∉ lead.toList) : All Piece.IsOrdinary (Outline.members lead initial) := by
  induction initial generalizing lead with
  | nil => exact Outline.all_nil
  | cons e rest ih =>
    simp only [List.all_cons, Bool.and_eq_true] at hp hn
    have hname : '\n' ∉ e.1.source.toList := by
      have hsolid : ∀ c, isSpace c = false → (c != '\n') = true := by
        intro c hc
        rw [bne_iff_ne]
        rintro rfl
        cases hc
      intro hm
      simpa using within_source hsolid hn.1 _ hm
    have htrail : '\n' ∉ (if rest.isEmpty then "" else ",").toList := by
      split <;> decide
    refine List.forall_mem_cons.2 ⟨?_, ih hp.2 hn.2 (by decide)⟩
    exact ⟨hl, hname, htrail, within_source (fun _ => isOrdinary_of_solid) hp.1.2⟩

theorem all_outline :
    (∀ op : Op, op.everywhere isShiftable = true → ∀ s, All Piece.IsOrdinary (op.outline s)) ∧
    ∀ ops : List Op, allEverywhere isShiftable ops = true →
      ∀ s, All Piece.IsOrdinary (outlines ops s) := by
  have hblocks (ts : List String) : All Piece.IsOrdinary (Outline.blocks ts) :=
    all_blocks (fun _ => trivial) ts
  refine Op.induction_everywhere ?noted ?compound ?simple ?nil ?cons
  case noted =>
    intro label op ih s
    rw [outline]
    exact ih s
  case compound =>
    intro op hc hop hbody s
    cases op with
    | indented body reply =>
      rw [outline, all_deeper]
      exact hbody s
    | guarded name body =>
      rw [outline, all_append, all_append]
      exact ⟨hblocks _, hbody s, hblocks _⟩
    | struct name body =>
      rw [outline, all_append, all_append, all_deeper]
      exact ⟨hblocks _, hbody s, hblocks _⟩
    | typedefStruct name body =>
      rw [outline, all_append, all_append, all_deeper]
      exact ⟨hblocks _, hbody s, hblocks _⟩
    | function declaration body =>
      rw [outline, all_append, all_append, all_append, all_deeper]
      exact ⟨all_returnType (fun _ => trivial) _, hblocks _, hbody s, hblocks _⟩
    | constructor declaration initial body =>
      simp only [isShiftable, isLined, isWithin, Bool.and_eq_true, Bool.true_and] at hop
      rw [outline, all_append, all_append, all_append, all_append, all_append, all_deeper, all_deeper]
      exact ⟨all_returnType (fun _ => trivial) _, hblocks _, all_members hop.1.2 hop.2 (by decide),
        hblocks _, hbody s, hblocks _⟩
    | nestedWith handle brackets child body =>
      rw [outline]
      exact hbody _
    | attempt | declareWith | initializer => exact Outline.all_nil
    | _ => cases hc
  case simple =>
    intro op hs hop s
    cases op with
    | newline => exact all_singleton.2 trivial
    | emit | separator | includeHeader | define | defineString | declare | declareValue =>
      rw [outline]
      exact hblocks _
    | comment text => exact all_singleton.2 trivial
    | declareInitializer declaration handle =>
      rw [outline]
      cases s.treeOf handle with
      | leaf v => exact Outline.all_nil
      | node opening closing children =>
        simp only [isShiftable, isWithin, Bool.and_eq_true, Bool.and_true] at hop
        exact all_singleton.2 (within_source (fun _ => isOrdinary_of_solid) hop.2)
    | noted | indented | guarded | struct | typedefStruct | function | constructor | nestedWith =>
      cases hs
    | _ => exact Outline.all_nil
  case nil => exact fun _ => Outline.all_nil
  case cons =>
    intro op ops _ ih ihs s
    rw [outlines, all_append]
    exact ⟨ih s, ihs _⟩

end Op

/-! ## Trees that were written -/

namespace Forest

/-- Is there ink in all trees that were written while a forest became another
    one? -/
def FilledTo (f g : Forest) : Prop :=
  ∀ p, g.isRoot p = true → g.isClosed p = true → f.isClosed p = false → (g.tree p).isFilled = true

/-- What has ink in the end had it before: elements are only added. -/
theorem Becomes.isFilled {f g : Forest} (h : f.Becomes g) (p : Nat) (hp : p < f.size)
    (hg : (g.tree p).isFilled = true) : (f.tree p).isFilled = true := by
  obtain ⟨blocks, hl⟩ := id h
  obtain ⟨c, hc⟩ : ∃ c, f.get? p = some c := ⟨_, List.getElem?_eq_getElem hp⟩
  obtain ⟨d, hd, -, -, hpre, -⟩ := hl hc
  rw [Forest.tree, hd] at hg
  rw [Forest.tree, hc]
  dsimp only at hg ⊢
  rw [Tree.isFilled, Bool.and_eq_true, Tree.areFilled_iff] at hg ⊢
  refine ⟨by cases c.brackets <;> decide, fun t ht => ?_⟩
  obtain ⟨e, he, het⟩ := List.mem_filterMap.1 ht
  have hin : e ∈ d.elements := hpre.subset he
  cases e with
  | text s =>
    cases het
    exact hg.2 _ (List.mem_filterMap.2 ⟨_, hin, rfl⟩)
  | composite child =>
    dsimp only at het
    split at het
    · next hlt =>
      -- a nested composite has been begun later, so the places left get fewer
      cases het
      refine Becomes.isFilled h child hlt.2 (hg.2 _ (List.mem_filterMap.2 ⟨_, hin, ?_⟩))
      exact dif_pos ⟨hlt.1, Nat.lt_of_lt_of_le hlt.2 hl.size_le⟩
    · cases het
termination_by f.size - p

/-- Then the trees that were written on the way had ink when they were. -/
theorem FilledTo.isFilled {f g : Forest} (h : f.FilledTo g) {t : Tree} (ht : f.WrittenTo g t) :
    ∃ (b : Brackets) (children : List Tree), t = .node b.opening b.closing children ∧
      Tree.areFilled children = true := by
  obtain ⟨m, p, hfm, hroot, hopen, rfl, hmg⟩ := ht
  obtain ⟨b, children, ht⟩ := Action.exists_tree hroot
  obtain ⟨blocks, hl⟩ := id hmg
  obtain ⟨blocks', hl'⟩ := hfm
  obtain ⟨c, hc, hr⟩ := (Option.any_eq_true _ _).1 hroot
  rw [beq_iff_eq] at hr
  have hc' : (m.close p).get? p = some { c with isWritten := true } := by
    rw [get?_close, hc, Option.map_some, if_pos rfl]
  have hclosed : (m.close p).isClosed p = true :=
    isClosed_iff.2 ⟨_, hc', _, by rw [hr]; exact hc', rfl⟩
  obtain ⟨d, hd, hdr, -⟩ := hl hc'
  have hgroot : g.isRoot p = true := (Option.any_eq_true _ _).2 ⟨d, hd, by simp [hdr, hr]⟩
  have hfopen : f.isClosed p = false := by
    cases hf : f.isClosed p with
    | false => rfl
    | true =>
      rw [hl'.closed hf] at hopen
      cases hopen
  have hfilled := hmg.isFilled p (List.getElem?_eq_some_iff.1 hc').1 (h p hgroot (hl.closed hclosed) hfopen)
  rw [ht, Tree.isFilled, Bool.and_eq_true] at hfilled
  exact ⟨b, children, ht, hfilled.2⟩

end Forest

theorem Printed.isFilled {o : Outline} {r r' : Session} (h : Printed o r r')
    (hf : r.forest.FilledTo r'.forest) : Outline.All Piece.IsFilled o := by
  rintro ⟨n, p⟩ he
  cases p with
  | assignment declaration opening closing children =>
    have hmem : Tree.node opening closing children ∈ Outline.trees o :=
      List.mem_filterMap.2 ⟨_, he, rfl⟩
    obtain ⟨b, children', heq, hfilled⟩ := hf.isFilled (h.trees _ hmem)
    cases heq
    refine ⟨?_, ?_, hfilled⟩
    · cases b <;> decide
    · cases b <;> decide
  | _ => trivial

/-! ## Nesting -/

/-- A session some levels deeper. -/
def Session.deeper (s : Session) (k : Nat) : Session :=
  { s with buffer := { s.buffer with depth := s.buffer.depth + k } }

namespace Op

open CxxWriter.Action

/-- Carrying out operations deeper only changes the depth that they start at. -/
theorem apply_nest (ops : List Op) (k : Nat) (s : Session) :
    ((performAll (nest k ops)).apply s).1 = ((performAll ops).apply (s.deeper k)).1 ∧
      ((performAll (nest k ops)).apply s).2.buffer.text =
        ((performAll ops).apply (s.deeper k)).2.buffer.text := by
  induction k generalizing s with
  | zero => exact ⟨rfl, rfl⟩
  | succ k ih =>
    have henter : ({ s with buffer := s.buffer.enter } : Session).deeper k = s.deeper (k + 1) := by
      rw [Session.deeper, Session.deeper, Buffer.enter, Nat.add_assoc, Nat.add_comm 1 k]
    obtain ⟨he, ht⟩ := ih { s with buffer := s.buffer.enter }
    rw [henter] at he ht
    rw [← he, ← ht, nest, performAll, performAll, discard_eq, perform, bind_assoc, bind_assoc, apply_bind,
      apply_indented]
    rcases (performAll (nest k ops)).apply { s with buffer := s.buffer.enter } with ⟨_ | _, t⟩
    · exact ⟨rfl, rfl⟩
    · exact ⟨rfl, rfl⟩

end Op

/-- **Nesting operations only moves what they write.**  Take operations that
    write whole lines and end well, at the start of a line and with a unit of
    spaces and tabs.  The trees that are written as values have ink in all their
    elements.  Then the operations also end well some levels deeper, and write
    the same there, with as many units in front of every line that is not
    empty. -/
theorem nested_output_shifted {s : Session} {ops : List Op}
    (hu : ∀ c ∈ s.buffer.unit.toList, c = ' ' ∨ c = '\t') (hline : s.buffer.atLineStart = true)
    (hp : Op.allEverywhere Op.isShiftable ops = true)
    (hok : ((Op.performAll ops).apply s).1 = .ok ())
    (hf : s.forest.FilledTo ((Op.performAll ops).apply s).2.forest) (k : Nat) :
    ∃ x : List Char,
      ((Op.performAll ops).apply s).2.buffer.text.toList = s.buffer.text.toList ++ x ∧
      ((Op.performAll (Op.nest k ops)).apply s).1 = .ok () ∧
      ((Op.performAll (Op.nest k ops)).apply s).2.buffer.text.toList =
        s.buffer.text.toList ++ marginLines (copies k s.buffer.unit.toList) x := by
  have hm : IsMargin s.buffer.unit.toList := .of_spaces hu
  have hl : Op.allEverywhere Op.isLined ops = true := by
    refine (Op.everywhere_mono fun op hop => ?_).2 ops hp
    simp only [Op.isShiftable, Bool.and_eq_true] at hop
    exact hop.1.1
  have hagree : Agrees (s.deeper k) s :=
    ⟨trivial, rfl, rfl, s.forest.isWithin_true, (Agrees.refl s).trace⟩
  have hsteady := (Op.everywhere_mono fun _ => Op.isSteady_of_isLined).2 ops hl
  have hok' : ((Op.performAll ops).apply (s.deeper k)).1 = .ok () :=
    ((freeLaw.both.2 ops hsteady _ _ hagree).1).trans hok
  have hprinted := (Op.prints_both.2 ops hl s) (.refl s) ⟨hline, hm.newline⟩ (Prod.ext hok rfl)
  have hdeeper := (Op.prints_both.2 ops hl s) hagree ⟨hline, hm.newline⟩ (Prod.ext hok' rfl)
  have hplain := Op.all_outline.2 ops hp s
  have hfilled := hprinted.isFilled hf
  obtain ⟨he, ht⟩ := Op.apply_nest ops k s
  refine ⟨_, hprinted.text, he.trans hok', ?_⟩
  rw [ht, hdeeper.text, marginLines_ended _ (Outline.newline_of_mem_lines hm.newline _ hplain hfilled),
    ← Outline.lines_margin hm k _ hplain hfilled, Nat.add_comm k]
  rfl

/-- A structure, and an array with a nested one that is built in a function. -/
theorem nested_output_shifted_array :
    let s := Session.start .empty Config.default " \t" Files.empty []
    let ops : List Op := [
      .struct (.text "S") [.comment (.text "a\n\n  b"), .declare (.text "int x")],
      .function (.text "void f()") [.beginInitializer .array "a", .element "a" (.text " 1\n  + 2"),
        .nestedWith "a" .struct "b" [.stringElement "b" (.text " ")],
        .declareInitializer (.text "int v[]") "a"]]
    s.buffer.atLineStart = true ∧ Op.allEverywhere Op.isShiftable ops = true ∧
      ((Op.performAll ops).apply s).1 = .ok () ∧
      s.forest.FilledTo ((Op.performAll ops).apply s).2.forest ∧
      ∃ x : List Char,
        ((Op.performAll ops).apply s).2.buffer.text.toList = s.buffer.text.toList ++ x ∧
        ((Op.performAll (Op.nest 2 ops)).apply s).1 = .ok () ∧
        ((Op.performAll (Op.nest 2 ops)).apply s).2.buffer.text.toList =
          s.buffer.text.toList ++ marginLines (copies 2 s.buffer.unit.toList) x := by
  intro s ops
  have hu : ∀ c ∈ " \t".toList, c = ' ' ∨ c = '\t' := by simp
  have hp : Op.allEverywhere Op.isShiftable ops = true := by decide
  have hget {o : Except Error Unit} (h : o.isOk = true) : o = .ok () := by
    cases o with
    | ok => rfl
    | error => cases h
  have hok : ((Op.performAll ops).apply s).1 = .ok () := hget (by decide +kernel)
  have hforest : ((Op.performAll ops).apply s).2.forest = ⟨[
      ⟨.array, [.text " 1\n  + 2", .composite 1], 0, true⟩,
      ⟨.struct, [.text "\" \""], 0, false⟩]⟩ := by decide +kernel
  have hf : s.forest.FilledTo ((Op.performAll ops).apply s).2.forest := by
    rw [hforest]
    intro p hr hc ho
    rcases p with _ | _ | _
    · decide +kernel
    · cases hr
    · cases hr
  exact ⟨rfl, hp, hok, hf, nested_output_shifted hu rfl hp hok hf 2⟩

end CxxWriter
