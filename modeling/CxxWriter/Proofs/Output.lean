/-
  What operations write that end well.

  * an `Outline` lists pieces, each at so many levels below the first;
  * `Op.outline` is the outline of an operation.  It depends on the session only
    where trees are written;
  * `Prints s o a`: carried out on any session with the initializers of `s`, an
    action that ends well writes the outline `o`, and writes the trees in it for
    the first time;
  * `prints_both`: operations write their outlines.
-/
import CxxWriter.Proofs.Piece
import CxxWriter.Proofs.Twin
import CxxWriter.Proofs.Written

namespace CxxWriter

open Block Text

/-! ## Outlines -/

/-- Pieces, each with the number of levels it is deeper than the first. -/
abbrev Outline := List (Nat × Piece)

namespace Outline

/-- The lines of an outline at a depth. -/
def lines (depth : Nat) (unit : List Char) (o : Outline) : List (List Char) :=
  o.flatMap fun e => e.2.lines (depth + e.1) unit

/-- An outline one level deeper. -/
def deeper (o : Outline) : Outline := o.map fun e => (e.1 + 1, e.2)

/-- Fragments one after the other. -/
def blocks (ts : List String) : Outline := ts.map fun t => (0, .block t)

/-- The trees in an outline. -/
def trees (o : Outline) : List Tree :=
  o.filterMap fun
    | (_, .assignment _ opening closing children) => some (.node opening closing children)
    | _ => none

@[simp] theorem lines_append (depth : Nat) (unit : List Char) (o o' : Outline) :
    lines depth unit (o ++ o') = lines depth unit o ++ lines depth unit o' :=
  List.flatMap_append

theorem lines_singleton (depth : Nat) (unit : List Char) (p : Piece) :
    lines depth unit [(0, p)] = p.lines depth unit :=
  List.append_nil _

theorem lines_deeper (depth : Nat) (unit : List Char) (o : Outline) :
    lines depth unit (deeper o) = lines (depth + 1) unit o := by
  rw [lines, deeper, List.flatMap_map, lines]
  refine List.flatMap_congr fun e _ => ?_
  rw [Nat.add_comm e.1 1, Nat.add_assoc]

@[simp] theorem trees_append (o o' : Outline) : trees (o ++ o') = trees o ++ trees o' :=
  List.filterMap_append

theorem trees_deeper (o : Outline) : trees (deeper o) = trees o := by
  rw [trees, deeper, List.filterMap_map]
  refine List.filterMap_congr ?_
  rintro ⟨d, p⟩ -
  cases p <;> rfl

end Outline

/-- The source text of a value that is a fragment. -/
def Value.source (v : Value) : String := v.fragment?.getD ""

/-- The declaration that a value is. -/
def Value.declaration (v : Value) : Declaration :=
  ((v.fragment?.bind Declaration.split?).getD ⟨"", "", ""⟩)

/-- The tree that is written for a handle. -/
def Session.treeOf (s : Session) (handle : String) : Tree :=
  match s.handles.find? (·.1 == handle) with
  | some (_, place) => (s.forest.close place).tree place
  | none => .leaf .null

/-- Begins a nested composite and names it; gives the places of both. -/
def Action.openNested (handle : String) (brackets : Brackets) (child : String) :
    Action (Nat × Nat) := do
  let place ← placeOf handle
  let inner ← beginNested place brackets
  setHandle child inner
  return (place, inner)

namespace Outline

/-- A return type on a line of its own. -/
def returnType (d : Declaration) : Outline :=
  if d.returnType.isEmpty then [] else blocks [d.returnType]

/-- The initial values of members. -/
def members (lead : String) : List (Value × Value) → Outline
  | [] => []
  | (name, value) :: rest =>
    (0, .member lead name.source value.source (if rest.isEmpty then "" else ",")) :: members "  " rest

/-- A declaration with a tree as its value. -/
def assignment (declaration : String) : Tree → Outline
  | .node opening closing children => [(0, .assignment declaration opening closing children)]
  | .leaf _ => []

end Outline

namespace Op

open Outline (blocks deeper)

/-- Does an operation write an outline, if it ends well?  This leaves out what
    continues or changes lines, values that are written by a body, errors that
    are caught, other units and templates. -/
def isLined : Op → Bool
  | .noted .. | .newline | .emit _ | .comment _ | .separator | .snapshot | .state | .literal _
  | .indented .. | .includeHeader _ | .define _ | .defineString .. | .guarded .. | .struct ..
  | .typedefStruct .. | .function .. | .constructor .. | .declare _ | .declareValue ..
  | .declareInitializer .. | .beginInitializer .. | .element .. | .stringElement .. | .nested ..
  | .nestedWith .. | .elementCount _ | .isRoot _ | .treeOf _ => true
  | _ => false

mutual

/-- What an operation writes that is carried out in a session and ends well. -/
def outline : Op → Session → Outline
  | .noted _ op, s => op.outline s
  | .newline, _ => [(0, .gap)]
  | .emit code, _ => blocks [code.source]
  | .comment text, _ => [(0, .comment text.source)]
  | .separator, _ => blocks [""]
  | .includeHeader header, _ => blocks ["#include " ++ header.source]
  | .define definition, _ => blocks ["#define " ++ definition.source]
  | .defineString name value, _ =>
    blocks ["#define " ++ (name.source ++ " " ++ Literal.ofString value.source)]
  | .declare declaration, _ => blocks [declaration.source ++ ";"]
  | .declareValue declaration value, _ => blocks [declaration.source ++ " = " ++ value.source ++ ";"]
  | .declareInitializer declaration handle, s => .assignment declaration.source (s.treeOf handle)
  | .indented body _, s => deeper (outlines body s)
  | .guarded name body, s =>
    blocks ["#ifndef " ++ name.source, "#define " ++ name.source, ""] ++
      (outlines body s ++ blocks ["", "#endif /* " ++ name.source ++ " */"])
  | .struct name body, s =>
    blocks ["struct " ++ name.source ++ " \x7b"] ++ (deeper (outlines body s) ++ blocks ["\x7d;"])
  | .typedefStruct name body, s =>
    blocks ["typedef struct \x7b"] ++
      (deeper (outlines body s) ++ blocks ["\x7d " ++ name.source ++ ";"])
  | .function declaration body, s =>
    .returnType declaration.declaration ++ (blocks [declaration.declaration.signature ++ " \x7b"] ++
      (deeper (outlines body s) ++ blocks ["\x7d", ""]))
  | .constructor declaration initial body, s =>
    .returnType declaration.declaration ++ (blocks [declaration.declaration.signature] ++
      (deeper (.members ": " initial) ++ (blocks ["\x7b"] ++
        (deeper (outlines body s) ++ blocks ["\x7d", ""]))))
  | .nestedWith handle brackets child body, s =>
    outlines body ((Action.openNested handle brackets child).apply s).2
  | _, _ => []

/-- What operations write one after the other. -/
def outlines : List Op → Session → Outline
  | [], _ => []
  | op :: ops, s => op.outline s ++ outlines ops (op.perform.apply s).2

end

end Op

/-! ## Sessions -/

/-- Do two sessions hold the same initializers, after the same notes? -/
abbrev Agrees : Session → Session → Prop := Twins (fun _ _ => True) (fun _ => true)

theorem Forest.isWithin_true (f : Forest) : f.IsWithin fun _ => true := fun _ _ _ _ _ _ _ => rfl

theorem Agrees.refl (s : Session) : Agrees s s :=
  ⟨trivial, rfl, rfl, s.forest.isWithin_true, List.forall₂_same.2 fun _ _ => ⟨rfl, trivial, .same _⟩⟩

/-- Does a line start, and is the unit without line feeds? -/
structure Session.IsReady (s : Session) : Prop where
  line : s.buffer.atLineStart = true
  unit : '\n' ∉ s.buffer.unit.toList

/-- Has a tree been written while a forest became another one? -/
def Forest.WrittenTo (f g : Forest) (t : Tree) : Prop :=
  ∃ h p, f.Becomes h ∧ h.isRoot p = true ∧ h.isClosed p = false ∧ t = (h.close p).tree p ∧
    (h.close p).Becomes g

/-- Has an outline been written between two sessions? -/
structure Printed (o : Outline) (r r' : Session) : Prop where
  depth : r'.buffer.depth = r.buffer.depth
  unit : r'.buffer.unit = r.buffer.unit
  text : r'.buffer.text.toList =
    r.buffer.text.toList ++ ended (Outline.lines r.buffer.depth r.buffer.unit.toList o)
  grown : r.forest.Becomes r'.forest
  trees : ∀ t ∈ Outline.trees o, r.forest.WrittenTo r'.forest t

namespace Printed

variable {o o' : Outline} {r r' r'' : Session}

/-- Nothing has been written. -/
theorem of_text (hd : r'.buffer.depth = r.buffer.depth) (hu : r'.buffer.unit = r.buffer.unit)
    (ht : r'.buffer.text = r.buffer.text) (hg : r.forest.Becomes r'.forest) : Printed [] r r' :=
  ⟨hd, hu, by rw [ht]; exact (List.append_nil _).symm, hg, fun _ h => absurd h List.not_mem_nil⟩

theorem trans (h : Printed o r r') (h' : Printed o' r' r'') : Printed (o ++ o') r r'' where
  depth := h'.depth.trans h.depth
  unit := h'.unit.trans h.unit
  text := by
    rw [h'.text, h.text, h.depth, h.unit, Outline.lines_append, ended_append, List.append_assoc]
  grown := h.grown.trans h'.grown
  trees t ht := by
    rw [Outline.trees_append] at ht
    rcases List.mem_append.1 ht with ht | ht
    · obtain ⟨f, p, hf, hr, ho, rfl, hg⟩ := h.trees t ht
      exact ⟨f, p, hf, hr, ho, rfl, hg.trans h'.grown⟩
    · obtain ⟨f, p, hf, hr, ho, rfl, hg⟩ := h'.trees t ht
      exact ⟨f, p, h.grown.trans hf, hr, ho, rfl, hg⟩

/-- The next line starts where the last one ended. -/
theorem ready (h : Printed o r r') (hr : r.IsReady) : r'.IsReady := by
  refine ⟨?_, by rw [h.unit]; exact hr.unit⟩
  have hline := hr.line
  rw [Buffer.atLineStart_eq, Buffer.startsLine, Bool.or_eq_true, String.isEmpty_iff,
    ← String.toList_eq_nil_iff, Buffer.endsLine, beq_iff_eq] at hline ⊢
  rw [h.text]
  rcases List.eq_nil_or_concat (Outline.lines r.buffer.depth r.buffer.unit.toList o) with hn | ⟨ls, l, hl⟩
  · rw [hn, ended_nil, List.append_nil]
    exact hline
  · rw [hl]
    simp

end Printed

namespace Action

variable {α β : Type} {s s' : Session} {o o' : Outline}

/-- Does the action write an outline, if it ends well, on any session with the
    initializers of `s`? -/
def Prints (s : Session) (o : Outline) (a : Action α) : Prop :=
  ∀ ⦃r x r'⦄, Agrees r s → r.IsReady → a.apply r = (.ok x, r') → Printed o r r'

/-- Does the action write an outline, if it ends well, and leave the
    initializers alone? -/
structure Prose (o : Outline) (a : Action α) : Prop where
  prints : ∀ ⦃r x r'⦄, r.IsReady → a.apply r = (.ok x, r') → Printed o r r'
  handles : ∀ r, (a.apply r).2.handles = r.handles
  forest : ∀ r, (a.apply r).2.forest = r.forest
  trace : ∀ r, (a.apply r).2.trace = r.trace

theorem Prose.agrees {a : Action α} (ha : Prose o a) {r : Session} (h : Agrees r s) :
    Agrees (a.apply r).2 s where
  buffer := trivial
  handles := (ha.handles r).trans h.handles
  forest := (ha.forest r).trans h.forest
  within := by rw [ha.forest r]; exact h.within
  trace := by rw [ha.trace r]; exact h.trace

theorem Prose.isPrints {a : Action α} (ha : Prose o a) : Prints s o a := fun _ _ _ _ => @ha.prints _ _ _

/-- One action after another, from the initializers that the first one leaves. -/
theorem Prints.next {a : Action α} {f : α → Action β} (ha : Prints s o a)
    (hs : ∀ {r}, Agrees r s → Agrees (a.apply r).2 s') (hf : ∀ x, Prints s' o' (f x)) :
    Prints s (o ++ o') (a >>= f) := by
  intro r y r'' hr hready hy
  obtain ⟨x, r', e, hy⟩ := apply_bind_iff.1 hy
  have hagrees := hs hr
  rw [e] at hagrees
  have hfirst := ha hr hready e
  exact hfirst.trans (hf x hagrees (hfirst.ready hready) hy)

theorem Prose.next {a : Action α} {f : α → Action β} (ha : Prose o a)
    (hf : ∀ x, Prints s o' (f x)) : Prints s (o ++ o') (a >>= f) :=
  ha.isPrints.next ha.agrees hf

/-- An action that writes the same on any session may come after anything. -/
theorem Prints.last {a : Action α} {f : α → Action β} (ha : Prints s o a)
    (hf : ∀ x s', Prints s' o' (f x)) : Prints s (o ++ o') (a >>= f) := by
  intro r y r'' hr hready hy
  obtain ⟨x, r', e, hy⟩ := apply_bind_iff.1 hy
  have hfirst := ha hr hready e
  exact hfirst.trans (hf x r' (.refl r') (hfirst.ready hready) hy)

theorem Prose.bind {a : Action α} {f : α → Action β} (ha : Prose o a) (hf : ∀ x, Prose o' (f x)) :
    Prose (o ++ o') (a >>= f) where
  prints r _ _ hready hx := ha.isPrints.last (fun x _ => (hf x).isPrints) (.refl r) hready hx
  handles := bind_keeps _ ha.handles fun x => (hf x).handles
  forest := bind_keeps _ ha.forest fun x => (hf x).forest
  trace := bind_keeps _ ha.trace fun x => (hf x).trace

/-! ## Actions -/

theorem prose_pure (x : α) : Prose [] (pure x) :=
  ⟨by rintro r _ _ _ ⟨⟩; exact .of_text rfl rfl rfl (.refl _), fun _ => rfl, fun _ => rfl, fun _ => rfl⟩

theorem prose_changeBuffer {f : Buffer → Buffer} {p : Piece} (hd : ∀ b, (f b).depth = b.depth)
    (hu : ∀ b, (f b).unit = b.unit)
    (ht : ∀ b : Buffer, '\n' ∉ b.unit.toList →
      (f b).text.toList = b.text.toList ++ ended (p.lines b.depth b.unit.toList))
    (hp : Outline.trees [(0, p)] = []) : Prose [(0, p)] (changeBuffer f) := by
  refine ⟨?_, fun _ => rfl, fun _ => rfl, fun _ => rfl⟩
  rintro r _ _ hready ⟨⟩
  refine ⟨hd _, hu _, ?_, .refl _, by simp [hp]⟩
  rw [Outline.lines_singleton]
  exact ht r.buffer hready.unit

theorem prose_emitText (t : String) : Prose (Outline.blocks [t]) (emitText t) :=
  prose_changeBuffer (fun _ => rfl) (fun _ => rfl) (fun b hu => b.emit_piece hu t) rfl

/-- What only keeps records gives the same anywhere. -/
theorem prints_report {rep : Reporting α} (hrep : rep.Steady) {y : α}
    (hy : ∀ {x records}, rep.Tells (.ok x) records → x = y) {f : α → Action β}
    (hf : Prints s o (f y)) : Prints s o (report rep >>= f) := by
  obtain ⟨outcome, records, h⟩ := hrep
  intro r z r' hr hready hz
  rw [apply_bind, apply_report_tells h] at hz
  cases outcome with
  | error e => cases hz
  | ok x =>
    cases hy h
    have hr' : Agrees { r with log := r.log ++ records } s :=
      ⟨trivial, hr.handles, hr.forest, hr.within, hr.trace⟩
    have hp := hf hr' ⟨hready.line, hready.unit⟩ hz
    exact ⟨hp.depth, hp.unit, hp.text, hp.grown, hp.trees⟩

theorem eq_source {v : Value} {x : String} {records : Log}
    (h : (Reporting.fragment v).Tells (.ok x) records) : x = v.source := by
  rw [Value.source]
  cases hv : v.fragment? with
  | none => cases (Reporting.tells_fragment_none hv []).symm.trans (h [])
  | some t =>
    cases (Reporting.tells_fragment hv []).symm.trans (h [])
    rfl

/-- A fragment is given. -/
theorem prints_fragment (v : Value) {f : String → Action β} (hf : Prints s o (f v.source)) :
    Prints s o (report (.fragment v) >>= f) :=
  prints_report (Reporting.steady_fragment v) eq_source hf

theorem prints_literal (v : Value) {f : String → Action β}
    (hf : Prints s o (f (Literal.ofString v.source))) : Prints s o (report (.literal v) >>= f) := by
  refine prints_report (Reporting.steady_literal v) (fun {x records} h => ?_) hf
  rw [Value.source]
  cases hv : v.fragment? with
  | none => cases (Reporting.tells_literal_none hv []).symm.trans (h [])
  | some t =>
    cases (Reporting.tells_literal hv []).symm.trans (h [])
    rfl

theorem prints_declaration (v : Value) {f : Declaration → Action β}
    (hf : Prints s o (f v.declaration)) : Prints s o (report (.declaration v) >>= f) := by
  refine prints_report (Reporting.steady_declaration v) (fun {d records} h => ?_) hf
  obtain ⟨t, hv, hd⟩ := Reporting.of_tells_declaration h
  rw [Value.declaration, hv, Option.bind_some, hd]
  rfl

theorem prose_newline : Prose [(0, .gap)] (changeBuffer (·.newline)) := by
  refine prose_changeBuffer (fun _ => rfl) (fun _ => rfl) (fun b _ => ?_) rfl
  rw [Buffer.newline, Buffer.text_push, String.toList_append]
  rfl

theorem prose_emitComment (t : String) : Prose [(0, .comment t)] (changeBuffer (·.emitComment t)) :=
  prose_changeBuffer (fun _ => rfl) (fun _ => rfl) (fun b hu => b.emitComment_piece hu t) rfl

/-- What only looks at the session writes nothing. -/
theorem prints_read (f : Session → α) : Prints s [] (do return f (← get)) := by
  rintro r _ _ _ _ ⟨⟩
  exact .of_text rfl rfl rfl (.refl _)

theorem prints_joined : Prints s [] (changeBuffer (·.joined)) := by
  rintro r _ _ _ _ ⟨⟩
  exact .of_text r.buffer.joined_depth r.buffer.joined_unit r.buffer.joined_text (.refl _)

theorem prints_pure (x : α) : Prints s [] (pure x) := (prose_pure x).isPrints

theorem prints_emitText (t : String) : Prints s (Outline.blocks [t]) (emitText t) :=
  (prose_emitText t).isPrints

theorem Prints.silent {a : Action Unit} (ha : Prints s o a) : Prints s o (Op.silent a) := by
  rw [← List.append_nil o]
  exact ha.last fun _ _ => prints_pure _

theorem Prints.indented {a : Action Unit} (ha : Prints s o a) :
    Prints s (Outline.deeper o) (indented a) := by
  intro r x r' hr hready hx
  rw [apply_indented] at hx
  have hr' : Agrees { r with buffer := r.buffer.enter } s :=
    ⟨trivial, hr.handles, hr.forest, hr.within, hr.trace⟩
  rcases e : a.apply { r with buffer := r.buffer.enter } with ⟨_ | y, t⟩
  · rw [e] at hx
    cases hx
  · rw [e] at hx
    cases hx
    have hp := ha hr' ⟨hready.line, hready.unit⟩ e
    refine ⟨?_, hp.unit, ?_, hp.grown, ?_⟩
    · exact congrArg (· - 1) hp.depth
    · rw [Outline.lines_deeper]
      exact hp.text
    · rw [Outline.trees_deeper]
      exact hp.trees

theorem Prints.noted (label : String) {a : Action Reply} (ha : Prints s o a) :
    Prints s o (noted label a) := by
  intro r x r' hr hready hx
  rw [apply_noted] at hx
  rcases e : a.apply r with ⟨_ | y, t⟩
  · rw [e] at hx
    cases hx
  · rw [e] at hx
    cases hx
    have hp := ha hr hready e
    exact ⟨hp.depth, hp.unit, hp.text, hp.grown, hp.trees⟩

/-- The return type, and what comes after it. -/
theorem prints_returnType (d : Declaration) {a : Action β} (ha : Prints s o a) :
    Prints s (Outline.returnType d ++ o) (returnType d >>= fun _ => a) := by
  unfold Outline.returnType returnType
  split
  · exact (prose_pure _).next fun _ => ha
  · exact (prose_emitText _).next fun _ => ha

theorem prose_fragment (v : Value) {o : String → Outline} {f : String → Action β}
    (hf : ∀ t, Prose (o t) (f t)) : Prose (o v.source) (report (.fragment v) >>= f) where
  prints r _ _ hready hx := prints_fragment v (hf v.source).isPrints (.refl r) hready hx
  handles := bind_keeps _ (fun _ => rfl) fun t => (hf t).handles
  forest := bind_keeps _ (fun _ => rfl) fun t => (hf t).forest
  trace := bind_keeps _ (fun _ => rfl) fun t => (hf t).trace

theorem Prose.indented {a : Action Unit} (ha : Prose o a) : Prose (Outline.deeper o) (indented a) where
  prints r _ _ hready hx := ha.isPrints.indented (.refl r) hready hx
  handles r := ha.handles { r with buffer := r.buffer.enter }
  forest r := ha.forest { r with buffer := r.buffer.enter }
  trace r := ha.trace { r with buffer := r.buffer.enter }

theorem prose_member (lead name value trail : String) :
    Prose [(0, .member lead name value trail)] (changeBuffer fun b =>
      (b.emitRaw (b.indentation ++ lead ++ name ++ "(" ++ memberValue b value ++ ")" ++ trail)).newline) :=
  prose_changeBuffer (fun _ => rfl) (fun _ => rfl)
    (fun b hu => b.member_piece hu lead name value trail) rfl

theorem prose_members (initial : List (Value × Value)) (lead : String) :
    Prose (Outline.members lead initial) (members lead initial) := by
  induction initial generalizing lead with
  | nil => exact prose_pure _
  | cons e rest ih =>
    obtain ⟨name, value⟩ := e
    refine prose_fragment name (o := fun n => (0, .member lead n value.source _) ::
      Outline.members "  " rest) fun n => ?_
    refine prose_fragment value (o := fun v => (0, .member lead n v _) ::
      Outline.members "  " rest) fun v => ?_
    exact (prose_member lead n v _).bind fun _ => ih "  "

/-! ## Initializers -/

/-- What is beside the text writes nothing. -/
theorem prints_aside {a : Action α} (h : Aside a)
    (hg : ∀ r : Session, r.forest.Becomes (a.apply r).2.forest) : Prints s [] a := by
  intro r x r' _ _ hx
  have hb := h.buffer r
  have hg := hg r
  rw [hx] at hb hg
  exact .of_text (by rw [hb]) (by rw [hb]) (by rw [hb]) hg

/-- What is beside the text may come before anything. -/
theorem Aside.next {a : Action α} (h : Aside a) (hg : ∀ r : Session, r.forest.Becomes (a.apply r).2.forest)
    {f : α → Action β} (hf : ∀ x, Prints (a.apply s).2 o (f x)) : Prints s o (a >>= f) :=
  (prints_aside h hg).next
    (fun hr => ((Twin.of_aside h fun _ _ => Forest.isWithin_true _) _ s hr).2) hf

theorem Keeps.becomes {a : Action α} (h : Keeps [] a) (r : Session) :
    r.forest.Becomes (a.apply r).2.forest :=
  ⟨[], h r⟩

theorem becomes_attachNested (place child : Nat) (r : Session) :
    r.forest.Becomes ((attachNested place child).apply r).2.forest :=
  ⟨[place], keeps_attachNested place child r⟩

theorem prints_setHandle (handle : String) (place : Nat) : Prints s [] (setHandle handle place) :=
  prints_aside (aside_setHandle handle place) (keeps_setHandle handle place).becomes

theorem prints_ask (f : Forest → α) : Prints s [] (do return f (← get).forest) := by
  have hk : Keeps [] (do return f (← get).forest : Action α) := .of_eq fun _ => rfl
  exact prints_aside (aside_ask f) hk.becomes

/-- The place of a handle is looked up first. -/
theorem prints_placeOf (handle : String) {f : Nat → Action β}
    (hf : ∀ place, Prints ((placeOf handle).apply s).2 o (f place)) :
    Prints s o (placeOf handle >>= f) :=
  (aside_placeOf handle).next (keeps_placeOf handle).becomes hf

theorem prints_openNested (handle : String) (brackets : Brackets) (child : String) :
    Prints s [] (openNested handle brackets child) :=
  prints_placeOf handle fun place =>
  (aside_beginNested place brackets).next (keeps_beginNested place brackets).becomes fun inner =>
  (aside_setHandle child inner).next (keeps_setHandle child inner).becomes fun _ => prints_pure _

theorem agrees_openNested (handle : String) (brackets : Brackets) (child : String) {r : Session}
    (h : Agrees r s) : Agrees ((openNested handle brackets child).apply r).2
      ((openNested handle brackets child).apply s).2 :=
  (((twin_placeOf handle).next fun place => (twin_beginNested place brackets).next fun inner =>
    (twin_setHandle child inner).next fun _ => twin_pure _) r s h).2

/-- The tree of a root stands between brackets. -/
theorem exists_tree {f : Forest} {place : Nat} (h : f.isRoot place = true) :
    ∃ (b : Brackets) (children : List Tree),
      (f.close place).tree place = .node b.opening b.closing children := by
  obtain ⟨c, hc, -⟩ := (Option.any_eq_true _ _).1 h
  rw [Forest.tree, Forest.get?_close, hc, Option.map_some, if_pos rfl]
  exact ⟨_, _, rfl⟩

/-- A declaration with an initializer as its value. -/
theorem prints_value (declaration : String) (place : Nat) :
    Prints s (Outline.assignment declaration ((s.forest.close place).tree place)) (do
      changeBuffer fun b => (b.emitOpen (declaration ++ " =")).emitRaw " "
      writeInitializer place
      changeBuffer (·.closeValue)) := by
  intro r x r' hr hready hx
  rw [← hr.forest]
  rw [writeInitializer_eq, bind_assoc, apply_bind_ok (apply_changeBuffer _ r), apply_bind,
    apply_closeRoot] at hx
  dsimp only at hx
  cases hroot : r.forest.isRoot place with
  | false => rw [hroot] at hx; cases hx
  | true =>
    cases hclosed : r.forest.isClosed place with
    | true => rw [hroot, hclosed] at hx; cases hx
    | false =>
      obtain ⟨b, children, ht⟩ := exists_tree hroot
      rw [hroot, hclosed, if_pos rfl, if_neg (by simp), ht] at hx
      dsimp only at hx
      obtain ⟨log, hw⟩ := apply_writeTree (.node b.opening b.closing children) { r with
        buffer := (r.buffer.emitOpen (declaration ++ " =")).emitRaw " "
        forest := r.forest.close place
        log := r.log ++ [announcement (r.forest.close place) place] }
      cases hn : (Tree.node b.opening b.closing children).refusal? with
      | some v =>
        rw [hn] at hw
        rw [apply_bind_error hw] at hx
        cases hx
      | none =>
        rw [hn] at hw
        rw [apply_bind_ok hw, apply_changeBuffer] at hx
        cases hx
        rw [ht]
        exact {
          depth := by
            rw [Buffer.closeValue_depth, Tree.write_depth]
            rfl
          unit := by
            rw [Buffer.closeValue_unit, Tree.write_unit]
            rfl
          text := by
            rw [Outline.assignment, Outline.lines_singleton]
            exact Buffer.assignment_piece r.buffer hready.unit (Tree.bare_closing b) hn
          grown := ⟨[], Forest.later_close _ _⟩
          trees := by
            intro t hmem
            rw [List.mem_singleton.1 hmem, ← ht]
            exact ⟨r.forest, place, .refl _, hroot, hclosed, rfl, .refl _⟩ }

theorem prints_declareInitializer (declaration : Value) (handle : String) :
    Prints s (Op.outline (.declareInitializer declaration handle) s)
      (Op.declareInitializer declaration handle).perform := by
  intro r x r' hr hready hx
  rw [Op.perform, apply_bind, apply_placeOf, hr.handles] at hx
  rw [Op.outline, Session.treeOf]
  cases hf : s.handles.find? (·.1 == handle) with
  | none =>
    rw [hf] at hx
    cases hx
  | some e =>
    obtain ⟨_, place⟩ := e
    rw [hf] at hx
    have hp : Prints s _ (Op.silent (declareWith declaration (writeInitializer place))) :=
      .silent (prints_fragment declaration (prints_value declaration.source place))
    exact hp hr hready hx

end Action

/-! ## All operations -/

open CxxWriter.Action

/-- Runs on sessions with the same initializers end alike, whatever is written. -/
theorem freeLaw : TwinLaw (fun _ _ => True) (fun _ => true) where
  chars _ _ := rfl
  emitOpen _ _ := trivial
  emitRaw _ _ := trivial
  comment _ _ := trivial
  member _ _ _ _ _ := trivial
  tree _ _ := trivial
  strip _ := trivial
  joined _ := trivial
  enter _ := trivial
  leave _ := trivial

namespace Op

theorem isSteady_of_isLined {op : Op} (h : op.isLined = true) :
    op.isSteady (fun _ => true) = true := by
  have hv (v : Value) : v.isWithin (fun _ => true) = true := by cases v <;> simp [Value.isWithin]
  cases op <;> first
    | simp [isSteady, isTemplate, isWithin, hv]; done
    | cases h

/-- Lined operations leave the same initializers, whatever is written. -/
theorem agrees_perform {op : Op} (hp : op.everywhere isLined = true) {r s : Session}
    (h : Agrees r s) : Agrees (op.perform.apply r).2 (op.perform.apply s).2 :=
  (freeLaw.both.1 op ((everywhere_mono fun _ => isSteady_of_isLined).1 op hp) r s h).2

/-- Operations without others in them. -/
theorem prints_simple {s : Session} {op : Op} (hs : op.isSimple = true) (hl : op.isLined = true) :
    Prints s (op.outline s) op.perform := by
  have hcode (v : Value) (f : String → String) :
      Prints s (Outline.blocks [f v.source]) (silent (report (.fragment v) >>= fun t => emitText (f t))) :=
    .silent (prints_fragment v (prints_emitText _))
  cases op with
  | newline =>
    rw [outline]
    exact .silent prose_newline.isPrints
  | emit v =>
    rw [outline]
    exact hcode v id
  | comment v =>
    rw [outline]
    exact .silent (prints_fragment v (prose_emitComment _).isPrints)
  | separator =>
    rw [outline]
    exact .silent (prints_emitText "")
  | includeHeader v =>
    rw [outline]
    exact hcode v ("#include " ++ ·)
  | define v =>
    rw [outline]
    exact hcode v ("#define " ++ ·)
  | defineString name v =>
    rw [outline]
    exact .silent (prints_fragment name (prints_literal v (prints_emitText _)))
  | declare v =>
    rw [outline]
    exact hcode v (· ++ ";")
  | declareValue v w =>
    rw [outline]
    exact .silent (prints_fragment v (prints_fragment w (prints_emitText _)))
  | declareInitializer v handle => exact prints_declareInitializer v handle
  | snapshot =>
    show Prints s ([] ++ []) _
    exact prints_joined.last fun _ _ => prints_read fun t => Reply.value (.text t.buffer.text)
  | state =>
    show Prints s [] _
    exact prints_read fun t => Reply.buffer t.buffer
  | literal v =>
    show Prints s [] _
    exact prints_literal v (prints_pure _)
  | beginInitializer brackets handle =>
    show Prints s [] _
    exact (aside_beginInitializer brackets).next (keeps_beginInitializer brackets).becomes fun place =>
      .silent (prints_setHandle handle place)
  | element handle v =>
    show Prints s [] _
    exact prints_placeOf handle fun place =>
      .silent (prints_aside (aside_addElement place v) (keeps_addElement place v).becomes)
  | stringElement handle v =>
    show Prints s [] _
    refine prints_placeOf handle fun place => .silent (prints_literal v ?_)
    exact prints_aside (aside_addElement place _) (keeps_addElement place _).becomes
  | nested handle brackets child =>
    show Prints s [] _
    exact prints_placeOf handle fun place =>
      (aside_beginNested place brackets).next (keeps_beginNested place brackets).becomes fun inner =>
      (aside_attachNested place inner).next (becomes_attachNested place inner) fun _ =>
      .silent (prints_setHandle child inner)
  | elementCount handle =>
    show Prints s [] _
    exact prints_placeOf handle fun place => prints_ask fun f => Reply.value (.int (f.elementCount place))
  | isRoot handle =>
    show Prints s [] _
    exact prints_placeOf handle fun place => prints_ask fun f => Reply.value (.bool (f.isRoot place))
  | treeOf handle =>
    show Prints s [] _
    exact prints_placeOf handle fun place => prints_ask fun f => Reply.tree (f.tree place)
  | indented | guarded | struct | typedefStruct | function | constructor | nestedWith => cases hs
  | noted => cases hs
  | _ => cases hl

/-- Operations around a body. -/
theorem prints_compound {s : Session} {op : Op} (hc : op.isCompound = true) (hl : op.isLined = true)
    (hb : ∀ s, Prints s (outlines op.body s) (performAll op.body)) :
    Prints s (op.outline s) op.perform := by
  cases op with
  | indented body reply =>
    rw [outline, ← List.append_nil (Outline.deeper _)]
    exact (hb s).indented.last fun _ _ => prints_pure _
  | guarded name body =>
    rw [outline]
    refine .silent (prints_fragment name ?_)
    exact (prose_emitText _).next fun _ => (prose_emitText _).next fun _ =>
      (prose_emitText _).next fun _ => (hb s).last fun _ _ => (prose_emitText _).next fun _ =>
      prints_emitText _
  | struct name body =>
    rw [outline]
    refine .silent (prints_fragment name ?_)
    exact (prose_emitText _).next fun _ => (hb s).indented.last fun _ _ => prints_emitText _
  | typedefStruct name body =>
    rw [outline]
    refine .silent ((prose_emitText _).next fun _ => (hb s).indented.last fun _ _ => ?_)
    exact prints_fragment name (prints_emitText _)
  | function declaration body =>
    rw [outline]
    refine .silent (prints_declaration declaration (prints_returnType _ ?_))
    exact (prose_emitText _).next fun _ => (hb s).indented.last fun _ _ =>
      (prose_emitText _).next fun _ => prints_emitText _
  | constructor declaration initial body =>
    rw [outline]
    refine .silent (prints_declaration declaration (prints_returnType _ ?_))
    exact (prose_emitText _).next fun _ => (prose_members initial ": ").indented.next fun _ =>
      (prose_emitText _).next fun _ => (hb s).indented.last fun _ _ =>
      (prose_emitText _).next fun _ => prints_emitText _
  | nestedWith handle brackets child body =>
    rw [outline]
    have h : (Op.nestedWith handle brackets child body).perform =
        openNested handle brackets child >>= fun p => performAll body >>= fun _ =>
          silent (attachNested p.1 p.2) := by
      simp only [perform, openNested, bind_assoc, pure_bind]
    rw [h, ← List.nil_append (outlines body _), ← List.append_nil (outlines body _)]
    refine (prints_openNested handle brackets child).next (agrees_openNested handle brackets child)
      fun p => (hb _).last fun _ _ => .silent ?_
    exact prints_aside (aside_attachNested p.1 p.2) (becomes_attachNested p.1 p.2)
  | attempt | declareWith | initializer => cases hl
  | _ => cases hc

/-- **Operations that end well write their outlines.**  So does a body. -/
theorem prints_both :
    (∀ op : Op, op.everywhere isLined = true → ∀ s, Prints s (op.outline s) op.perform) ∧
    ∀ ops : List Op, allEverywhere isLined ops = true →
      ∀ s, Prints s (outlines ops s) (performAll ops) := by
  refine Op.induction_everywhere ?noted ?compound ?simple ?nil ?cons
  case noted =>
    intro label op ih s
    rw [outline]
    exact (ih s).noted label
  case compound => exact fun op hc hp ih s => prints_compound hc hp ih
  case simple => exact fun op hs hp s => prints_simple hs hp
  case nil => exact fun _ => prints_pure _
  case cons =>
    intro op ops hp ih ihs s
    rw [outlines]
    have hop : Prints s (op.outline s) (discard op.perform) := by
      rw [discard_eq, ← List.append_nil (op.outline s)]
      exact (ih s).last fun _ _ => prints_pure _
    refine hop.next (fun {r} hr => ?_) fun _ => ihs _
    have hsame : ((discard op.perform).apply r).2 = (op.perform.apply r).2 := by
      rw [discard_eq, apply_bind]
      rcases op.perform.apply r with ⟨_ | _, _⟩ <;> rfl
    rw [hsame]
    exact agrees_perform hp hr

end Op

end CxxWriter
