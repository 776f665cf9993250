/-
  Operations that build no initializers.

  * `Aloof a`: the action has nothing to do with handles and composites;
    `Apart opening`: nor have the opening of an operation and its ending;
  * `Still a`: the action leaves all handles and composites as they are, but it
    may write trees; `Calm opening`: so does the opening of an operation, and its
    ending too;
  * `aloof_perform`, `still_perform`, `apart_opening`: this holds unless an operation
    begins composites or adds elements, and it is aloof if it writes no root either.
-/
import CxxWriter.Proofs.Phases

namespace CxxWriter

/-- A forest, had none of its trees been written. -/
def Forest.unwritten (f : Forest) : Forest :=
  ⟨f.composites.map fun c => { c with isWritten := false }⟩

theorem Forest.unwritten_close (f : Forest) (place : Nat) :
    (f.close place).unwritten = f.unwritten := by
  refine congrArg Forest.mk (List.ext_getElem? fun i => ?_)
  rw [close, List.getElem?_map, List.getElem?_map, List.getElem?_modify]
  cases f.composites[i]? with
  | none => rfl
  | some c => by_cases h : place = i <;> simp [h]

namespace Op

/-- Does an operation begin composites, or add elements? -/
def builds : Op → Bool
  | .beginInitializer .. | .element .. | .stringElement .. | .nested .. | .nestedWith ..
  | .initializer .. => true
  | _ => false

/-- Does an operation write a root? -/
def renders : Op → Bool
  | .writeInitializer .. | .declareInitializer .. | .initializer .. => true
  | _ => false

end Op

namespace Action

variable {α β : Type}

/-! ## Actions that have nothing to do with initializers -/

/-- Does the action leave handles and composites alone? -/
def Aloof (a : Action α) : Prop :=
  ∀ s, (a.apply s).2.handles = s.handles ∧ (a.apply s).2.forest = s.forest

theorem Aloof.next {a : Action α} {f : α → Action β} (ha : Aloof a) (hf : ∀ x, Aloof (f x)) :
    Aloof (a >>= f) := fun s =>
  ⟨bind_keeps (·.handles) (fun s => (ha s).1) (fun x s => (hf x s).1) s,
    bind_keeps (·.forest) (fun s => (ha s).2) (fun x s => (hf x s).2) s⟩

theorem aloof_pure (x : α) : Aloof (pure x) := fun _ => ⟨rfl, rfl⟩

theorem aloof_throw (e : Error) : Aloof (throw e : Action α) := fun _ => ⟨rfl, rfl⟩

theorem aloof_report (r : Reporting α) : Aloof (report r) := fun _ => ⟨rfl, rfl⟩

theorem aloof_changeBuffer (f : Buffer → Buffer) : Aloof (changeBuffer f) := fun _ => ⟨rfl, rfl⟩

theorem aloof_ask (f : Session → α) : Aloof (do return f (← get)) := fun _ => ⟨rfl, rfl⟩

theorem aloof_placeOf (handle : String) : Aloof (placeOf handle) := by
  intro s
  rw [apply_placeOf]
  exact ⟨rfl, rfl⟩

theorem aloof_setUnit (unit : Value) : Aloof (setUnit unit) := by
  intro s
  obtain ⟨log, h⟩ := apply_setUnit unit s
  rw [h]
  cases unit.asText? <;> exact ⟨rfl, rfl⟩

theorem aloof_writeTree (t : Tree) : Aloof (writeTree t) := by
  intro s
  obtain ⟨log, h⟩ := apply_writeTree t s
  rw [h]
  exact ⟨rfl, rfl⟩

theorem Aloof.indented {a : Action α} (ha : Aloof a) : Aloof (indented a) := by
  intro s
  rw [apply_indented]
  exact ha { s with buffer := s.buffer.enter }

theorem aloof_returnType (d : Declaration) : Aloof (returnType d) := by
  unfold returnType
  split
  · exact aloof_pure _
  · exact aloof_changeBuffer _

theorem aloof_members (lead : String) (initial : List (Value × Value)) :
    Aloof (members lead initial) := by
  induction initial generalizing lead with
  | nil => exact aloof_pure _
  | cons e rest ih =>
    exact (aloof_report _).next fun _ => (aloof_report _).next fun _ =>
      (aloof_changeBuffer _).next fun _ => ih _

theorem aloofTemplateLaw : TemplateLaw (fun a => Aloof a) where
  result := aloof_pure
  next := Aloof.next
  failure := aloof_throw
  report := aloof_report
  session := aloof_ask id
  setEngine _ := fun _ => ⟨rfl, rfl⟩
  append _ := aloof_changeBuffer _

theorem aloof_perform {op : Op} (hs : op.isSimple = true) (hb : op.builds = false)
    (hr : op.renders = false) : Aloof op.perform := by
  have hemit (t : String) : Aloof (emitText t) := aloof_changeBuffer _
  have hsilent {a : Action Unit} (ha : Aloof a) : Aloof (Op.silent a) :=
    ha.next fun _ => aloof_pure _
  have hcode {f : String → Action Unit} (v : Value) (hf : ∀ t, Aloof (f t)) :
      Aloof (report (.fragment v) >>= f) := (aloof_report _).next hf
  cases op with
  | noted _ _ => cases hs
  | newline | stripNewlines => exact hsilent (aloof_changeBuffer _)
  | emit v | emitOpen v | emitRaw v | comment v | includeHeader v | define v | declare v =>
    exact hsilent (hcode v fun _ => aloof_changeBuffer _)
  | separator => exact hsilent (hemit _)
  | setUnit unit => exact hsilent (aloof_setUnit unit)
  | snapshot => exact (aloof_changeBuffer _).next fun _ => aloof_ask _
  | state => exact aloof_ask _
  | literal v => exact (aloof_report _).next fun _ => aloof_pure _
  | fail message => exact aloof_throw _
  | defineString name v => exact hsilent (hcode name fun _ => (aloof_report _).next fun _ => hemit _)
  | declareValue declaration v => exact hsilent (hcode declaration fun _ => hcode v fun _ => hemit _)
  | elementCount handle | isRoot handle | treeOf handle =>
    exact (aloof_placeOf handle).next fun place => aloof_ask _
  | writeTree t => exact hsilent (aloof_writeTree t)
  | template source given | templateFile name given | addTemplate name source | hasTemplate name =>
    exact aloofTemplateLaw.perform _ rfl
  | indented _ _ | attempt _ | guarded _ _ | struct _ _ | typedefStruct _ _ | function _ _
  | constructor _ _ _ | declareWith _ _ => cases hs
  | writeInitializer _ | declareInitializer _ _ => cases hr
  | _ => cases hb

/-! ### Around a body -/

/-- Are handles and composites left alone before the body and after it? -/
structure Apart (a : Action Ending) : Prop where
  opening : Aloof a
  ending : ∀ {s ending}, (a.apply s).1 = .ok ending → Aloof ending.perform

theorem Apart.after {a : Action α} {f : α → Action Ending} (ha : Aloof a) (hf : ∀ x, Apart (f x)) :
    Apart (a >>= f) := by
  refine ⟨ha.next fun x => (hf x).opening, fun {s ending} he => ?_⟩
  obtain ⟨x, t, -, h⟩ := apply_bind_iff.1 (Prod.ext he rfl)
  exact (hf x).ending (congrArg Prod.fst h)

theorem apart_pure {ending : Ending} (h : Aloof ending.perform) : Apart (pure ending) := by
  refine ⟨aloof_pure _, ?_⟩
  rintro s _ ⟨⟩
  exact h

/-- A closing that leaves handles and forest alone. -/
theorem aloof_closing {c : Closing}
    (h : ∀ s, (c.change s).handles = s.handles ∧ (c.change s).forest = s.forest) :
    Aloof (pure c >>= Closing.perform) := by
  rw [pure_bind]
  refine Aloof.next ?_ fun _ => Aloof.next h fun _ => aloof_pure _
  cases c.tree with
  | none => exact aloof_pure _
  | some t => exact aloof_writeTree t

theorem apart_opening {op : Op} (hc : op.isCompound = true) (hb : op.builds = false) :
    Apart op.opening := by
  have hemit (t : String) : Aloof (emitText t) := aloof_changeBuffer _
  have hplain {c : Closing}
      (h : ∀ s, (c.change s).handles = s.handles ∧ (c.change s).forest = s.forest) :
      Apart (pure ⟨[], pure c⟩) := apart_pure (aloof_closing h)
  have hdeep {closing : Action Closing} (h : Aloof (closing >>= Closing.perform)) :
      Apart (do changeBuffer (·.enter); return ⟨[], do changeBuffer (·.leave); closing⟩) := by
    refine .after (aloof_changeBuffer _) fun _ => apart_pure ?_
    rw [Ending.perform, bind_assoc]
    exact (aloof_changeBuffer _).next fun _ => h
  cases op with
  | indented body reply => exact hdeep (aloof_closing fun _ => ⟨rfl, rfl⟩)
  | attempt body => exact hplain fun _ => ⟨rfl, rfl⟩
  | guarded name body =>
    exact .after (aloof_report _) fun name => .after (hemit _) fun _ => .after (hemit _) fun _ =>
      .after (hemit _) fun _ => hplain fun _ => ⟨rfl, rfl⟩
  | struct name body =>
    exact .after (aloof_report _) fun name => .after (hemit _) fun _ =>
      hdeep (aloof_closing fun _ => ⟨rfl, rfl⟩)
  | typedefStruct name body =>
    refine .after (hemit _) fun _ => hdeep ?_
    rw [bind_assoc]
    exact (aloof_report _).next fun name => aloof_closing fun _ => ⟨rfl, rfl⟩
  | function declaration body =>
    exact .after (aloof_report _) fun d => .after (aloof_returnType d) fun _ =>
      .after (hemit _) fun _ => hdeep (aloof_closing fun _ => ⟨rfl, rfl⟩)
  | constructor declaration initial body =>
    exact .after (aloof_report _) fun d => .after (aloof_returnType d) fun _ =>
      .after (hemit _) fun _ => .after (aloof_members _ initial).indented fun _ =>
      .after (hemit _) fun _ => hdeep (aloof_closing fun _ => ⟨rfl, rfl⟩)
  | declareWith declaration body =>
    exact .after (aloof_report _) fun s => .after (aloof_changeBuffer _) fun _ =>
      hplain fun _ => ⟨rfl, rfl⟩
  | nestedWith _ _ _ _ | initializer _ _ _ => cases hb
  | _ => cases hc

/-! ## Actions that may write trees -/

/-- Does the action leave handles and composites as they are? -/
def Still (a : Action α) : Prop :=
  ∀ s, (a.apply s).2.handles = s.handles ∧ (a.apply s).2.forest.unwritten = s.forest.unwritten

theorem Aloof.still {a : Action α} (h : Aloof a) : Still a := fun s => ⟨(h s).1, by rw [(h s).2]⟩

theorem Still.next {a : Action α} {f : α → Action β} (ha : Still a) (hf : ∀ x, Still (f x)) :
    Still (a >>= f) := fun s =>
  ⟨bind_keeps (·.handles) (fun s => (ha s).1) (fun x s => (hf x s).1) s,
    bind_keeps (·.forest.unwritten) (fun s => (ha s).2) (fun x s => (hf x s).2) s⟩

theorem still_closeRoot (place : Nat) : Still (closeRoot place) := by
  intro s
  rw [apply_closeRoot]
  split
  · split
    · exact ⟨rfl, rfl⟩
    · exact ⟨rfl, Forest.unwritten_close _ _⟩
  · exact ⟨rfl, rfl⟩

theorem still_writeInitializer (place : Nat) : Still (writeInitializer place) := by
  rw [writeInitializer_eq]
  exact (still_closeRoot place).next fun t => (aloof_writeTree t).still

theorem still_declareWith (declaration : Value) {a : Action Unit} (ha : Still a) :
    Still (declareWith declaration a) :=
  (aloof_report _).still.next fun _ => (aloof_changeBuffer _).still.next fun _ =>
    ha.next fun _ => (aloof_changeBuffer _).still

theorem still_perform {op : Op} (hs : op.isSimple = true) (hb : op.builds = false) :
    Still op.perform := by
  cases hr : op.renders with
  | false => exact (aloof_perform hs hb hr).still
  | true =>
    have hsilent {a : Action Unit} (ha : Still a) : Still (Op.silent a) :=
      ha.next fun _ => (aloof_pure _).still
    cases op with
    | writeInitializer handle =>
      exact (aloof_placeOf handle).still.next fun place => hsilent (still_writeInitializer place)
    | declareInitializer declaration handle =>
      exact (aloof_placeOf handle).still.next fun place =>
        hsilent (still_declareWith declaration (still_writeInitializer place))
    | initializer _ _ _ => cases hb
    | _ => cases hr

/-- Is everything still before the body and after it? -/
structure Calm (a : Action Ending) : Prop where
  opening : Still a
  ending : ∀ {s ending}, (a.apply s).1 = .ok ending → Still ending.perform

theorem Apart.calm {a : Action Ending} (h : Apart a) : Calm a :=
  ⟨h.opening.still, fun he => (h.ending he).still⟩

theorem calm_opening {op : Op} (hc : op.isCompound = true) (hb : op.builds = false) :
    Calm op.opening :=
  (apart_opening hc hb).calm

end Action

end CxxWriter
