/-
  Two runs of the same operations.

  * `Twins R q s₁ s₂`: the sessions agree but for their texts; the buffers are
    related by `R`;
  * `Twin R q a`: carried out on such sessions, the action comes to the same and
    leaves such sessions;
  * `TwinLaw R q`: what has to be known about `R`, for this to hold of all
    operations that neither change the unit nor use templates, and are given
    texts of characters for which `q` holds (`TwinLaw.both`,
    `TwinLaw.play`).
-/
import CxxWriter.Proofs.Aside
import CxxWriter.Proofs.Forest
import CxxWriter.Proofs.Within
import Mathlib.Data.List.Forall2

namespace CxxWriter

open Text

/-! ## Sessions -/

/-- Does `q` hold of all texts of the initializers? -/
def Forest.IsWithin (q : Char → Bool) (f : Forest) : Prop :=
  ∀ ⦃p c⦄, f.get? p = some c → ∀ t, .text t ∈ c.elements → Within q t

/-- Did two operations end with the same error or reply?  A reply may also be the
    state of related buffers, or their texts. -/
inductive EndTwins (R : Buffer → Buffer → Prop) : Except Error Reply → Except Error Reply → Prop
  | same (o) : EndTwins R o o
  | state {b₁ b₂} : R b₁ b₂ → EndTwins R (.ok (.buffer b₁)) (.ok (.buffer b₂))
  | snapshot {b₁ b₂} : R b₁ b₂ →
    EndTwins R (.ok (.value (.text b₁.text))) (.ok (.value (.text b₂.text)))

/-- Were two notes taken about the same operation, with related buffers? -/
structure Step.Twins (R : Buffer → Buffer → Prop) (n₁ n₂ : Step) : Prop where
  label : n₁.label = n₂.label
  buffer : R n₁.buffer n₂.buffer
  outcome : EndTwins R n₁.outcome n₂.outcome

theorem EndTwins.imp {R S : Buffer → Buffer → Prop} (hRS : ∀ b₁ b₂, R b₁ b₂ → S b₁ b₂)
    {o₁ o₂ : Except Error Reply} (h : EndTwins R o₁ o₂) : EndTwins S o₁ o₂ := by
  cases h with
  | same => exact .same _
  | state hb => exact .state (hRS _ _ hb)
  | snapshot hb => exact .snapshot (hRS _ _ hb)

theorem Step.Twins.imp {R S : Buffer → Buffer → Prop} (hRS : ∀ b₁ b₂, R b₁ b₂ → S b₁ b₂) {n₁ n₂ : Step}
    (h : Step.Twins R n₁ n₂) : Step.Twins S n₁ n₂ :=
  ⟨h.label, hRS _ _ h.buffer, h.outcome.imp hRS⟩

/-- Do two sessions agree but for their texts, which `R` relates? -/
structure Twins (R : Buffer → Buffer → Prop) (q : Char → Bool) (s₁ s₂ : Session) : Prop where
  buffer : R s₁.buffer s₂.buffer
  handles : s₁.handles = s₂.handles
  forest : s₁.forest = s₂.forest
  within : s₁.forest.IsWithin q
  trace : List.Forall₂ (Step.Twins R) s₁.trace s₂.trace

/-- What has to be known about related buffers. -/
structure TwinLaw (R : Buffer → Buffer → Prop) (q : Char → Bool) : Prop where
  chars : ∀ c, c ≠ '\t' → q c = true
  emitOpen : ∀ {b₁ b₂} {t : String}, R b₁ b₂ → Within q t → R (b₁.emitOpen t) (b₂.emitOpen t)
  emitRaw : ∀ {b₁ b₂} {t : String}, R b₁ b₂ → Within q t → R (b₁.emitRaw t) (b₂.emitRaw t)
  comment : ∀ {b₁ b₂} {t : String}, R b₁ b₂ → Within q t →
    R (b₁.emitComment t) (b₂.emitComment t)
  member : ∀ {b₁ b₂} {lead name value trail : String}, R b₁ b₂ → lead = ": " ∨ lead = "  " →
    Within q name → Within q value → Within q trail →
    R (b₁.emitRaw (b₁.indentation ++ lead ++ name ++ "(" ++ Action.memberValue b₁ value ++ ")" ++ trail))
      (b₂.emitRaw (b₂.indentation ++ lead ++ name ++ "(" ++ Action.memberValue b₂ value ++ ")" ++ trail))
  tree : ∀ {b₁ b₂} {t : Tree}, R b₁ b₂ → t.isWithin q = true →
    R (t.write b₁).buffer (t.write b₂).buffer
  strip : ∀ {b₁ b₂}, R b₁ b₂ → R b₁.stripNewlines b₂.stripNewlines
  joined : ∀ {b₁ b₂}, R b₁ b₂ → R b₁.joined b₂.joined
  enter : ∀ {b₁ b₂}, R b₁ b₂ → R b₁.enter b₂.enter
  leave : ∀ {b₁ b₂}, R b₁ b₂ → R b₁.leave b₂.leave

/-- Does an operation neither change the unit nor use templates, and is it given
    texts of such characters only? -/
def Op.isSteady (q : Char → Bool) : Op → Bool
  | .setUnit _ => false
  | op => !op.isTemplate && op.isWithin q

namespace Forest.IsWithin

variable {q : Char → Bool} {f : Forest}

theorem add (h : f.IsWithin q) {c : Composite} (hc : c.elements = []) :
    Forest.IsWithin q ⟨f.composites ++ [c]⟩ := by
  intro p d hd t ht
  rcases Nat.lt_or_ge p f.composites.length with hp | hp
  · rw [Forest.get?, List.getElem?_append_left hp] at hd
    exact h hd t ht
  · rw [Forest.get?, List.getElem?_append_right hp] at hd
    rw [List.mem_singleton.1 (List.mem_of_getElem? hd), hc] at ht
    cases ht

theorem attach (h : f.IsWithin q) (place : Nat) {e : Element} (he : ∀ t, e = .text t → Within q t) :
    (f.attach place e).IsWithin q := by
  intro p d hd t ht
  rw [Forest.get?_attach] at hd
  obtain ⟨c, hc, rfl⟩ := Option.map_eq_some_iff.1 hd
  split at ht
  · rcases List.mem_append.1 ht with ht | ht
    · exact h hc t ht
    · exact he t (List.mem_singleton.1 ht).symm
  · exact h hc t ht

theorem close (h : f.IsWithin q) (place : Nat) : (f.close place).IsWithin q := by
  intro p d hd t ht
  rw [Forest.get?_close] at hd
  obtain ⟨c, hc, rfl⟩ := Option.map_eq_some_iff.1 hd
  split at ht
  · exact h hc t ht
  · exact h hc t ht

end Forest.IsWithin

namespace Action

variable {R : Buffer → Buffer → Prop} {q : Char → Bool} {α β : Type}

/-- Carried out on sessions that agree but for their texts, the action has
    outcomes that are related and leaves such sessions. -/
def Twin (R : Buffer → Buffer → Prop) (q : Char → Bool) (E : Except Error α → Except Error α → Prop)
    (a : Action α) : Prop :=
  ∀ s₁ s₂, Twins R q s₁ s₂ → E (a.apply s₁).1 (a.apply s₂).1 ∧
    Twins R q (a.apply s₁).2 (a.apply s₂).2

/-- One action after another, which may count on what the first one gives. -/
theorem Twin.next_of {a : Action α} {f : α → Action β} (ha : Twin R q Eq a)
    (hf : ∀ s x, s.forest.IsWithin q → (a.apply s).1 = .ok x → Twin R q Eq (f x)) :
    Twin R q Eq (a >>= f) := by
  intro s₁ s₂ h
  obtain ⟨he, ht⟩ := ha s₁ s₂ h
  rcases same_outcome he with ⟨e, t₁, t₂, h₁, h₂⟩ | ⟨x, t₁, t₂, h₁, h₂⟩
  · rw [h₁, h₂] at ht
    rw [apply_bind_error h₁, apply_bind_error h₂]
    exact ⟨rfl, ht⟩
  · rw [h₁, h₂] at ht
    rw [apply_bind_ok h₁, apply_bind_ok h₂]
    exact hf s₁ x h.within (by rw [h₁]) _ _ ht

theorem Twin.next {a : Action α} {f : α → Action β} (ha : Twin R q Eq a)
    (hf : ∀ x, Twin R q Eq (f x)) : Twin R q Eq (a >>= f) :=
  ha.next_of fun _ x _ _ => hf x

/-- What is beside the text is the same. -/
theorem Twin.of_aside {a : Action α} (h : Aside a)
    (hf : ∀ s, s.forest.IsWithin q → (a.apply s).2.forest.IsWithin q) : Twin R q Eq a := by
  intro s₁ s₂ ht
  obtain ⟨he, hh, hforest⟩ := h.same s₁ s₂ ht.handles ht.forest
  refine ⟨he, ?_, hh, hforest, hf s₁ ht.within, ?_⟩
  · rw [h.buffer, h.buffer]
    exact ht.buffer
  · rw [h.trace, h.trace]
    exact ht.trace

theorem twin_pure (x : α) : Twin R q Eq (pure x) := .of_aside (aside_pure x) fun _ h => h

theorem twin_throw (e : Error) : Twin R q Eq (throw e : Action α) :=
  .of_aside (aside_throw e) fun _ h => h

theorem twin_report {r : Reporting α} (hr : r.Steady) : Twin R q Eq (report r) :=
  .of_aside (aside_report hr) fun _ h => h

theorem twin_placeOf (handle : String) : Twin R q Eq (placeOf handle) :=
  .of_aside (aside_placeOf handle) fun s h => by rw [apply_placeOf]; exact h

theorem twin_ask (f : Forest → α) : Twin R q Eq (do return f (← get).forest) :=
  .of_aside (aside_ask f) fun _ h => h

theorem twin_setHandle (handle : String) (place : Nat) : Twin R q Eq (setHandle handle place) :=
  .of_aside (aside_setHandle handle place) fun _ h => h

theorem twin_beginInitializer (brackets : Brackets) : Twin R q Eq (beginInitializer brackets) :=
  .of_aside (aside_beginInitializer brackets) fun _ h => h.add rfl

theorem twin_beginNested (place : Nat) (brackets : Brackets) :
    Twin R q Eq (beginNested place brackets) := by
  refine .of_aside (aside_beginNested place brackets) fun s h => ?_
  rw [apply_beginNested]
  split
  · exact h
  · exact h.add rfl

theorem twin_attachNested (place child : Nat) : Twin R q Eq (attachNested place child) :=
  .of_aside (aside_attachNested place child) fun _ h => h.attach place nofun

theorem twin_closeRoot (place : Nat) : Twin R q Eq (closeRoot place) := by
  refine .of_aside (aside_closeRoot place) fun s h => ?_
  rw [apply_closeRoot]
  split
  · split
    · exact h
    · exact h.close place
  · exact h

theorem twin_addElement (place : Nat) {code : Value}
    (hc : ∀ t, code.fragment? = some t → Within q t) : Twin R q Eq (addElement place code) := by
  refine .of_aside (aside_addElement place code) fun s h => ?_
  rw [apply_addElement]
  split
  · exact h
  · cases hf : code.fragment? with
    | none => exact h
    | some t =>
      refine h.attach place ?_
      rintro _ ⟨⟩
      exact hc t hf

theorem twin_changeBuffer {f : Buffer → Buffer} (hf : ∀ {b₁ b₂}, R b₁ b₂ → R (f b₁) (f b₂)) :
    Twin R q Eq (changeBuffer f) :=
  fun _ _ h => ⟨rfl, hf h.buffer, h.handles, h.forest, h.within, h.trace⟩

theorem Twin.reply {a : Action Reply} (ha : Twin R q Eq a) : Twin R q (EndTwins R) a := by
  intro s₁ s₂ h
  obtain ⟨he, ht⟩ := ha s₁ s₂ h
  rw [he]
  exact ⟨.same _, ht⟩

/-- A reply that is thrown away need not be the same. -/
theorem Twin.discarded {a : Action Reply} (ha : Twin R q (EndTwins R) a) : Twin R q Eq (discard a) := by
  intro s₁ s₂ h
  obtain ⟨he, ht⟩ := ha s₁ s₂ h
  rcases h₁ : a.apply s₁ with ⟨o₁, t₁⟩
  rcases h₂ : a.apply s₂ with ⟨o₂, t₂⟩
  rw [h₁, h₂] at he ht
  rw [discard_eq, apply_bind, apply_bind, h₁, h₂]
  cases he with
  | same => cases o₁ with
    | ok => exact ⟨rfl, ht⟩
    | error => exact ⟨rfl, ht⟩
  | state => exact ⟨rfl, ht⟩
  | snapshot => exact ⟨rfl, ht⟩

theorem Twin.attempt {a : Action Unit} (ha : Twin R q Eq a) : Twin R q Eq (attempt a) := by
  intro s₁ s₂ h
  obtain ⟨he, ht⟩ := ha s₁ s₂ h
  rw [apply_attempt, apply_attempt, he]
  exact ⟨rfl, ht⟩

theorem Twin.noted (label : String) {a : Action Reply} (ha : Twin R q (EndTwins R) a) :
    Twin R q (EndTwins R) (noted label a) := by
  intro s₁ s₂ h
  obtain ⟨he, hb, hh, hf, hw, hns⟩ := ha s₁ s₂ h
  rw [apply_noted, apply_noted]
  exact ⟨he, hb, hh, hf, hw, List.rel_append hns (.cons ⟨rfl, hb, he⟩ .nil)⟩

end Action

/-! ## The tree of a forest -/

theorem Forest.IsWithin.tree {q : Char → Bool} (hq : ∀ c, c ≠ '\t' → q c = true) {f : Forest}
    (h : f.IsWithin q) (place : Nat) : (f.tree place).isWithin q = true := by
  have hplain {t : String} (ht : '\t' ∉ t.toList) : t.toList.all q = true :=
    List.all_eq_true.2 fun c hc => hq c fun e => ht (e ▸ hc)
  rw [Forest.tree]
  split
  · rfl
  · next c hc =>
    have hopen : c.brackets.opening.toList.all q = true := by
      cases c.brackets <;> exact hplain (by decide)
    have hclose : c.brackets.closing.toList.all q = true := by
      cases c.brackets <;> exact hplain (by decide)
    rw [Tree.isWithin, hopen, hclose, Bool.true_and, Bool.true_and, Tree.areWithin_iff]
    intro t ht
    obtain ⟨e, he, het⟩ := List.mem_filterMap.1 ht
    cases e with
    | text s =>
      cases het
      exact List.all_eq_true.2 (h hc s he)
    | composite child =>
      dsimp only at het
      split at het
      · cases het
        exact Forest.IsWithin.tree hq h child
      · cases het
termination_by f.size - place

namespace TwinLaw

open CxxWriter.Action

variable {R : Buffer → Buffer → Prop} {q : Char → Bool}

theorem plain (h : TwinLaw R q) {t : String} (ht : '\t' ∉ t.toList) : Within q t :=
  fun c hc => h.chars c fun e => ht (e ▸ hc)

/-- A fragment that is given. -/
theorem given (h : TwinLaw R q) {α : Type} {v : Value} (hv : v.isWithin q = true)
    {f : String → Action α} (hf : ∀ t, Within q t → Twin R q Eq (f t)) :
    Twin R q Eq (report (.fragment v) >>= f) := by
  refine (twin_report (Reporting.steady_fragment v)).next_of fun s t _ hr => hf t ?_
  refine within_fragment (fun c hc => h.chars c (by rintro rfl; cases hc)) hv ?_
  cases hv' : v.fragment? with
  | none =>
    rw [apply_report_tells (Reporting.tells_fragment_none hv')] at hr
    cases hr
  | some u =>
    rw [apply_report_tells (Reporting.tells_fragment hv')] at hr
    cases hr
    rfl

/-- A literal holds no tabs. -/
theorem literal (h : TwinLaw R q) {α : Type} (v : Value) {f : String → Action α}
    (hf : ∀ t, Within q t → Twin R q Eq (f t)) : Twin R q Eq (report (.literal v) >>= f) := by
  refine (twin_report (Reporting.steady_literal v)).next_of fun s t _ hr => hf t (h.plain ?_)
  cases hv' : v.fragment? with
  | none =>
    rw [apply_report_tells (Reporting.tells_literal_none hv')] at hr
    cases hr
  | some u =>
    rw [apply_report_tells (Reporting.tells_literal hv')] at hr
    cases hr
    exact Literal.tab_ofString u

/-- A declaration that is given. -/
theorem declared (h : TwinLaw R q) {v : Value} (hv : v.isWithin q = true)
    {f : Declaration → Action Unit}
    (hf : ∀ d, Within q d.returnType → Within q d.signature → Twin R q Eq (f d)) :
    Twin R q Eq (report (.declaration v) >>= f) := by
  refine (twin_report (Reporting.steady_declaration v)).next_of fun s d _ hr => ?_
  obtain ⟨outcome, records, ho⟩ := Reporting.steady_declaration v
  rw [apply_report_tells ho] at hr
  cases show outcome = .ok d from hr
  obtain ⟨t, hf', hd⟩ := Reporting.of_tells_declaration ho
  have hw : Within q t := within_fragment (fun c hc => h.chars c (by rintro rfl; cases hc)) hv hf'
  obtain ⟨hreturn, hsig⟩ := Declaration.within_split (h.chars _ (by decide)) hw hd
  exact hf d hreturn hsig

/-! ## Parts of operations -/

theorem emitText (h : TwinLaw R q) {t : String} (ht : Within q t) :
    Twin R q Eq (Action.emitText t) :=
  twin_changeBuffer fun hb => h.emitRaw (h.emitOpen hb ht) (h.plain (by decide))

theorem separator (h : TwinLaw R q) : Twin R q Eq Action.separator := h.emitText (h.plain (by decide))

theorem silent {a : Action Unit} (ha : Twin R q Eq a) : Twin R q (EndTwins R) (Op.silent a) :=
  (ha.next fun _ => twin_pure _).reply

theorem returnType (h : TwinLaw R q) {d : Declaration} (hd : Within q d.returnType) :
    Twin R q Eq (Action.returnType d) := by
  unfold Action.returnType
  split
  · exact twin_pure _
  · exact h.emitText hd

theorem indented (h : TwinLaw R q) {a : Action Unit} (ha : Twin R q Eq a) :
    Twin R q Eq (Action.indented a) := by
  intro s₁ s₂ ht
  obtain ⟨he, hb, hh, hf, hw, hns⟩ := ha { s₁ with buffer := s₁.buffer.enter }
    { s₂ with buffer := s₂.buffer.enter } ⟨h.enter ht.buffer, ht.handles, ht.forest, ht.within, ht.trace⟩
  rw [apply_indented, apply_indented]
  exact ⟨he, h.leave hb, hh, hf, hw, hns⟩

theorem members (h : TwinLaw R q) {initial : List (Value × Value)}
    (hi : initial.all (fun e => e.1.isWithin q && e.2.isWithin q) = true) {lead : String}
    (hl : lead = ": " ∨ lead = "  ") : Twin R q Eq (Action.members lead initial) := by
  induction initial generalizing lead with
  | nil => exact twin_pure _
  | cons e rest ih =>
    simp only [List.all_cons, Bool.and_eq_true] at hi
    refine h.given hi.1.1 fun name hname => h.given hi.1.2 fun value hvalue => ?_
    refine Twin.next (twin_changeBuffer fun hb => ?_) fun _ => ih hi.2 (.inr rfl)
    refine h.emitRaw (h.member hb hl hname hvalue ?_) (h.plain (by decide))
    split
    · exact h.plain (by decide)
    · exact h.plain (by decide)

theorem declareWith (h : TwinLaw R q) {declaration : Value} (hv : declaration.isWithin q = true)
    {a : Action Unit} (ha : Twin R q Eq a) : Twin R q Eq (Action.declareWith declaration a) := by
  refine h.given hv fun s hs => ?_
  refine (twin_changeBuffer fun hb => ?_).next fun _ => ha.next fun _ => twin_changeBuffer fun hb => ?_
  · exact h.emitRaw (h.emitOpen hb (hs.append (h.plain (by decide)))) (h.plain (by decide))
  · exact h.emitRaw (h.emitRaw (h.strip hb) (h.plain (by decide))) (h.plain (by decide))

theorem writeTree (h : TwinLaw R q) {t : Tree} (ht : t.isWithin q = true) :
    Twin R q Eq (Action.writeTree t) := by
  intro s₁ s₂ hs
  have hb := h.tree hs.buffer ht
  obtain ⟨log₁, h₁⟩ := apply_writeTree t s₁
  obtain ⟨log₂, h₂⟩ := apply_writeTree t s₂
  rw [h₁, h₂]
  exact ⟨rfl, hb, hs.handles, hs.forest, hs.within, hs.trace⟩

theorem writeInitializer (h : TwinLaw R q) (place : Nat) :
    Twin R q Eq (Action.writeInitializer place) := by
  rw [writeInitializer_eq]
  refine (twin_closeRoot place).next_of fun s t hw ht => writeTree h ?_
  rw [apply_closeRoot] at ht
  split at ht
  · split at ht
    · cases ht
    · cases ht
      exact (hw.close place).tree h.chars place
  · cases ht

/-! ## All operations -/

theorem snapshot (h : TwinLaw R q) : Twin R q (EndTwins R) Op.snapshot.perform :=
  fun _ _ ht => ⟨.snapshot (h.joined ht.buffer), h.joined ht.buffer, ht.handles, ht.forest, ht.within,
    ht.trace⟩

theorem state : Twin R q (EndTwins R) Op.state.perform := fun _ _ ht => ⟨.state ht.buffer, ht⟩

/-- Operations without others in them. -/
theorem perform_simple (h : TwinLaw R q) {op : Op} (hs : op.isSimple = true)
    (hp : op.isSteady q = true) : Twin R q (EndTwins R) op.perform := by
  have hcode {v : Value} (hv : v.isWithin q = true) {f : String → Buffer → Buffer}
      (hf : ∀ {t}, Within q t → ∀ {b₁ b₂}, R b₁ b₂ → R (f t b₁) (f t b₂)) :
      Twin R q Eq (report (.fragment v) >>= fun t => changeBuffer (f t)) :=
    h.given hv fun t ht => twin_changeBuffer fun hb => hf ht hb
  have hemit {v : Value} (hv : v.isWithin q = true) {f : String → String}
      (hf : ∀ {t}, Within q t → Within q (f t)) :
      Twin R q Eq (report (.fragment v) >>= fun t => Action.emitText (f t)) :=
    h.given hv fun t ht => h.emitText (hf ht)
  cases op with
  | newline => exact silent (twin_changeBuffer fun hb => h.emitRaw hb (h.plain (by decide)))
  | stripNewlines => exact silent (twin_changeBuffer h.strip)
  | emit v => exact silent (hemit hp id)
  | emitOpen v => exact silent (hcode hp fun ht _ _ hb => h.emitOpen hb ht)
  | emitRaw v => exact silent (hcode hp fun ht _ _ hb => h.emitRaw hb ht)
  | comment v => exact silent (hcode hp fun ht _ _ hb => h.comment hb ht)
  | separator => exact silent h.separator
  | snapshot => exact h.snapshot
  | state => exact state
  | literal v => exact ((twin_report (Reporting.steady_literal v)).next fun _ => twin_pure _).reply
  | fail message => exact (twin_throw _).reply
  | includeHeader v => exact silent (hemit hp (h.plain (by decide)).append)
  | define v => exact silent (hemit hp (h.plain (by decide)).append)
  | defineString name v =>
    exact silent (h.given hp fun n hn => h.literal v fun l hl =>
      h.emitText ((h.plain (by decide)).append ((hn.append (h.plain (by decide))).append hl)))
  | declare v => exact silent (hemit hp fun ht => ht.append (h.plain (by decide)))
  | declareValue v w =>
    have hp : v.isWithin q = true ∧ w.isWithin q = true := by
      simpa [Op.isSteady, Op.isTemplate, Op.isWithin] using hp
    exact silent (h.given hp.1 fun s hs => h.given hp.2 fun t ht =>
      h.emitText (((hs.append (h.plain (by decide))).append ht).append (h.plain (by decide))))
  | declareInitializer v handle =>
    exact ((twin_placeOf handle).next fun place =>
      (h.declareWith hp (h.writeInitializer place)).next fun _ => twin_pure _).reply
  | beginInitializer brackets handle =>
    exact ((twin_beginInitializer brackets).next fun place =>
      (twin_setHandle handle place).next fun _ => twin_pure _).reply
  | element handle v =>
    have hv : ∀ t, v.fragment? = some t → Within q t := fun t =>
      within_fragment (fun c hc => h.chars c (by rintro rfl; cases hc)) hp
    exact ((twin_placeOf handle).next fun place =>
      (twin_addElement place hv).next fun _ => twin_pure _).reply
  | stringElement handle v =>
    refine ((twin_placeOf handle).next fun place => Twin.next ?_ fun _ => twin_pure _).reply
    refine h.literal v fun l hl => twin_addElement place ?_
    rintro _ ⟨⟩
    exact hl
  | nested handle brackets child =>
    exact ((twin_placeOf handle).next fun place => (twin_beginNested place brackets).next fun inner =>
      (twin_attachNested place inner).next fun _ => (twin_setHandle child inner).next fun _ =>
      twin_pure _).reply
  | writeInitializer handle =>
    exact ((twin_placeOf handle).next fun place =>
      (h.writeInitializer place).next fun _ => twin_pure _).reply
  | elementCount handle =>
    exact ((twin_placeOf handle).next fun place =>
      twin_ask fun f => Reply.value (.int (f.elementCount place))).reply
  | isRoot handle =>
    exact ((twin_placeOf handle).next fun place =>
      twin_ask fun f => Reply.value (.bool (f.isRoot place))).reply
  | treeOf handle =>
    exact ((twin_placeOf handle).next fun place => twin_ask fun f => Reply.tree (f.tree place)).reply
  | writeTree t => exact silent (h.writeTree hp)
  | setUnit | template | templateFile | addTemplate | hasTemplate => cases hp
  | _ => cases hs

/-- Operations around a body. -/
theorem perform_compound (h : TwinLaw R q) {op : Op} (hc : op.isCompound = true)
    (hp : op.isSteady q = true) (hb : Twin R q Eq (Op.performAll op.body)) :
    Twin R q (EndTwins R) op.perform := by
  have hplain {t : String} (ht : '\t' ∉ t.toList) : Within q t := h.plain ht
  have hfix {t : String} (ht : '\t' ∉ t.toList) : Twin R q Eq (Action.emitText t) :=
    h.emitText (h.plain ht)
  cases op with
  | indented body reply => exact ((h.indented hb).next fun _ => twin_pure _).reply
  | attempt body => exact hb.attempt.reply
  | guarded name body =>
    refine silent (h.given hp fun n hn => ?_)
    exact (h.emitText ((hplain (by decide)).append hn)).next fun _ =>
      (h.emitText ((hplain (by decide)).append hn)).next fun _ => h.separator.next fun _ =>
      hb.next fun _ => h.separator.next fun _ =>
      h.emitText (((hplain (by decide)).append hn).append (hplain (by decide)))
  | struct name body =>
    refine silent (h.given hp fun n hn => ?_)
    exact (h.emitText (((hplain (by decide)).append hn).append (hplain (by decide)))).next fun _ =>
      (h.indented hb).next fun _ => hfix (by decide)
  | typedefStruct name body =>
    refine silent ((hfix (by decide)).next fun _ => (h.indented hb).next fun _ => ?_)
    exact h.given hp fun n hn =>
      h.emitText (((hplain (by decide)).append hn).append (hplain (by decide)))
  | function declaration body =>
    refine silent (h.declared hp fun d hr hd => ?_)
    exact (h.returnType hr).next fun _ => (h.emitText (hd.append (hplain (by decide)))).next fun _ =>
      (h.indented hb).next fun _ => (hfix (by decide)).next fun _ => h.separator
  | constructor declaration initial body =>
    have hp : declaration.isWithin q = true ∧
        initial.all (fun e => e.1.isWithin q && e.2.isWithin q) = true := by
      rw [← Bool.and_eq_true]
      exact hp
    refine silent (h.declared hp.1 fun d hr hd => ?_)
    exact (h.returnType hr).next fun _ => (h.emitText hd).next fun _ =>
      (h.indented (h.members hp.2 (.inl rfl))).next fun _ =>
      (hfix (by decide)).next fun _ => (h.indented hb).next fun _ =>
      (hfix (by decide)).next fun _ => h.separator
  | declareWith declaration body => exact silent (h.declareWith hp hb)
  | nestedWith handle brackets child body =>
    exact ((twin_placeOf handle).next fun place => (twin_beginNested place brackets).next fun inner =>
      (twin_setHandle child inner).next fun _ => hb.next fun _ =>
      (twin_attachNested place inner).next fun _ => twin_pure _).reply
  | initializer brackets handle body =>
    exact ((twin_beginInitializer brackets).next fun place => (twin_setHandle handle place).next
      fun _ => hb.next fun _ => (h.writeInitializer place).next fun _ => twin_pure _).reply
  | _ => cases hc

/-- An operation, and a body that ends at its first error. -/
theorem both (h : TwinLaw R q) :
    (∀ op : Op, op.everywhere (Op.isSteady q) = true → Twin R q (EndTwins R) op.perform) ∧
    ∀ ops : List Op, Op.allEverywhere (Op.isSteady q) ops = true → Twin R q Eq (Op.performAll ops) := by
  refine Op.induction_everywhere ?noted ?compound ?simple ?nil ?cons
  case noted => exact fun label op ih => ih.noted label
  case compound => exact fun op hc hp ih => h.perform_compound hc hp ih
  case simple => exact fun op hs hp => h.perform_simple hs hp
  case nil => exact twin_pure _
  case cons => exact fun op ops _ ih ihs => ih.discarded.next fun _ => ihs

/-- A script that goes on after errors. -/
theorem play (h : TwinLaw R q) {ops : List Op} (hp : Op.allEverywhere (Op.isSteady q) ops = true)
    {s₁ s₂ : Session} (hs : Twins R q s₁ s₂) :
    List.Forall₂ (List.Forall₂ (Step.Twins R)) (s₁.play ops).notes (s₂.play ops).notes ∧
    R (s₁.play ops).session.buffer (s₂.play ops).session.buffer := by
  induction ops generalizing s₁ s₂ with
  | nil => exact ⟨.nil, hs.buffer⟩
  | cons op ops ih =>
    simp only [Op.allEverywhere, Bool.and_eq_true] at hp
    obtain ⟨-, ht⟩ := h.both.1 op hp.1 { s₁ with trace := [] } { s₂ with trace := [] }
      ⟨hs.buffer, hs.handles, hs.forest, hs.within, .nil⟩
    obtain ⟨hn, hb⟩ := ih hp.2 ht
    exact ⟨.cons ht.trace hn, hb⟩

end TwinLaw

end CxxWriter
