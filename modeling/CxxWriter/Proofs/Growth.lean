/-
  Operations only append, and what they append does not depend on the text
  before it.

  * `Session.Alike`: two sessions agree on what operations without templates
    look at: the depth, the unit, whether a line starts, and the initializers;
  * `GrownAlike`: from two sessions, the same text was appended and the same was
    noted;
  * `Blind a`: carried out on sessions that are alike, the action comes to the
    same and lets them grow alike.  All operations do that remove no line feeds
    and use no templates (`play_alike`).
-/
import CxxWriter.Proofs.Aside
import Mathlib.Data.List.Forall2

namespace CxxWriter

/-! ## Sessions that are alike -/

/-- Do two buffers agree but for the text? -/
structure Buffer.Alike (b₁ b₂ : Buffer) : Prop where
  depth : b₁.depth = b₂.depth
  unit : b₁.unit = b₂.unit
  line : b₁.atLineStart = b₂.atLineStart

/-- Do two sessions agree on what operations without templates look at? -/
structure Session.Alike (s₁ s₂ : Session) : Prop where
  buffer : s₁.buffer.Alike s₂.buffer
  handles : s₁.handles = s₂.handles
  forest : s₁.forest = s₂.forest

/-- Do two operations end with results, or with the same error? -/
inductive EndAlike : Except Error Reply → Except Error Reply → Prop
  | ok {x y} : EndAlike (.ok x) (.ok y)
  | error {e} : EndAlike (.error e) (.error e)

theorem EndAlike.of_eq {o₁ o₂ : Except Error Reply} (h : o₁ = o₂) : EndAlike o₁ o₂ := by
  subst h
  cases o₁ with
  | ok => exact .ok
  | error => exact .error

/-- Were the same text appended and the same end met when two notes were taken,
    since the texts `x₁` and `x₂`? -/
structure Step.Alike (x₁ x₂ : String) (n₁ n₂ : Step) : Prop where
  label : n₁.label = n₂.label
  text : ∃ y, n₁.buffer.text = x₁ ++ y ∧ n₂.buffer.text = x₂ ++ y
  buffer : n₁.buffer.Alike n₂.buffer
  outcome : EndAlike n₁.outcome n₂.outcome

/-- What holds since a later moment holds since an earlier one. -/
theorem Step.Alike.since {x₁ x₂ y : String} {n₁ n₂ : Step}
    (h : Step.Alike (x₁ ++ y) (x₂ ++ y) n₁ n₂) : Step.Alike x₁ x₂ n₁ n₂ := by
  obtain ⟨hl, ⟨z, hz₁, hz₂⟩, hb, ho⟩ := h
  refine ⟨hl, ⟨y ++ z, ?_, ?_⟩, hb, ho⟩
  · rw [hz₁, String.append_assoc]
  · rw [hz₂, String.append_assoc]

/-- From the sessions `s₁` and `s₂`, the same text was appended and the same was
    noted until they became `t₁` and `t₂`, which are alike. -/
structure GrownAlike (s₁ s₂ t₁ t₂ : Session) : Prop where
  text : ∃ x, t₁.buffer.text = s₁.buffer.text ++ x ∧ t₂.buffer.text = s₂.buffer.text ++ x
  notes : ∃ ns₁ ns₂, t₁.trace = s₁.trace ++ ns₁ ∧ t₂.trace = s₂.trace ++ ns₂ ∧
    List.Forall₂ (Step.Alike s₁.buffer.text s₂.buffer.text) ns₁ ns₂
  alike : t₁.Alike t₂

/-- The same text keeps buffers alike. -/
theorem Buffer.Alike.grown {b₁ b₂ c₁ c₂ : Buffer} (h : b₁.Alike b₂) {x : String}
    (h₁ : c₁.text = b₁.text ++ x) (h₂ : c₂.text = b₂.text ++ x) (hd : c₁.depth = c₂.depth)
    (hu : c₁.unit = c₂.unit) : c₁.Alike c₂ := by
  refine ⟨hd, hu, ?_⟩
  have hl := h.line
  rw [atLineStart_eq, atLineStart_eq] at hl
  rw [atLineStart_eq, atLineStart_eq, h₁, h₂, startsLine_append, startsLine_append, hl]

namespace GrownAlike

variable {s₁ s₂ t₁ t₂ u₁ u₂ : Session}

theorem refl (h : s₁.Alike s₂) : GrownAlike s₁ s₂ s₁ s₂ :=
  ⟨⟨"", by simp, by simp⟩, ⟨[], [], by simp, by simp, .nil⟩, h⟩

theorem trans (h : GrownAlike s₁ s₂ t₁ t₂) (h' : GrownAlike t₁ t₂ u₁ u₂) :
    GrownAlike s₁ s₂ u₁ u₂ := by
  obtain ⟨⟨x, hx₁, hx₂⟩, ⟨ns₁, ns₂, hn₁, hn₂, hns⟩, -⟩ := h
  obtain ⟨⟨y, hy₁, hy₂⟩, ⟨ms₁, ms₂, hm₁, hm₂, hms⟩, ha⟩ := h'
  rw [hx₁, hx₂] at hms
  exact {
    text := ⟨x ++ y, by rw [hy₁, hx₁, String.append_assoc], by rw [hy₂, hx₂, String.append_assoc]⟩
    notes := ⟨ns₁ ++ ms₁, ns₂ ++ ms₂, by rw [hm₁, hn₁, List.append_assoc],
      by rw [hm₂, hn₂, List.append_assoc], List.rel_append hns (hms.imp fun _ _ => Step.Alike.since)⟩
    alike := ha }

/-- Growth of the buffer alone. -/
theorem of_buffer (h : s₁.Alike s₂) {b₁ b₂ : Buffer} {x : String}
    (h₁ : b₁.text = s₁.buffer.text ++ x) (h₂ : b₂.text = s₂.buffer.text ++ x)
    (hd : b₁.depth = b₂.depth) (hu : b₁.unit = b₂.unit) :
    GrownAlike s₁ s₂ { s₁ with buffer := b₁ } { s₂ with buffer := b₂ } :=
  ⟨⟨x, h₁, h₂⟩, ⟨[], [], by simp, by simp, .nil⟩,
    ⟨h.buffer.grown h₁ h₂ hd hu, h.handles, h.forest⟩⟩

/-- Changes that leave buffer and notes alone. -/
theorem of_initializers (h : s₁.Alike s₂) (hb₁ : t₁.buffer = s₁.buffer) (hb₂ : t₂.buffer = s₂.buffer)
    (hn₁ : t₁.trace = s₁.trace) (hn₂ : t₂.trace = s₂.trace) (hh : t₁.handles = t₂.handles)
    (hf : t₁.forest = t₂.forest) : GrownAlike s₁ s₂ t₁ t₂ :=
  ⟨⟨"", by simp [hb₁], by simp [hb₂]⟩, ⟨[], [], by simp [hn₁], by simp [hn₂], .nil⟩,
    ⟨by rw [hb₁, hb₂]; exact h.buffer, hh, hf⟩⟩

/-- The line feeds that are removed belong to what was appended. -/
theorem closed {s₁ s₂ t₁ t₂ : Session} {z : String} {c : Char} (h : GrownAlike s₁ s₂ t₁ t₂)
    (h₁ : t₁.buffer.text = s₁.buffer.text ++ z) (h₂ : t₂.buffer.text = s₂.buffer.text ++ z)
    (hc : c ∈ z.toList) (hn : c ≠ '\n') :
    GrownAlike s₁ s₂ { t₁ with buffer := t₁.buffer.closeValue }
      { t₂ with buffer := t₂.buffer.closeValue } := by
  obtain ⟨-, hns, hb, hh, hf⟩ := h
  have closed (t s : Session) (ht : t.buffer.text = s.buffer.text ++ z) :
      t.buffer.closeValue.text = s.buffer.text ++ (Buffer.stripped z ++ (";" ++ "\n")) := by
    rw [Buffer.closeValue_text, ht, Buffer.stripped_append _ hc hn, String.append_assoc]
  have hl (b : Buffer) : b.closeValue.atLineStart = true := by
    rw [Buffer.atLineStart_eq, Buffer.closeValue_text, Buffer.startsLine_append]
    rfl
  refine ⟨⟨_, closed t₁ s₁ h₁, closed t₂ s₂ h₂⟩, hns, ⟨?_, ?_, ?_⟩, hh, hf⟩
  · rw [Buffer.closeValue_depth, Buffer.closeValue_depth, hb.depth]
  · rw [Buffer.closeValue_unit, Buffer.closeValue_unit, hb.unit]
  · rw [hl, hl]

end GrownAlike

/-! ## Actions that do not look at the text -/

namespace Action

variable {α β : Type}

/-- Carried out on sessions that are alike, the action has outcomes that are
    related and lets the sessions grow alike. -/
def Blind (R : Except Error α → Except Error α → Prop) (a : Action α) : Prop :=
  ∀ s₁ s₂, s₁.Alike s₂ → R (a.apply s₁).1 (a.apply s₂).1 ∧
    GrownAlike s₁ s₂ (a.apply s₁).2 (a.apply s₂).2

theorem Blind.next {a : Action α} {f : α → Action β} (ha : Blind Eq a) (hf : ∀ x, Blind Eq (f x)) :
    Blind Eq (a >>= f) := by
  intro s₁ s₂ h
  obtain ⟨he, hg⟩ := ha s₁ s₂ h
  rcases same_outcome he with ⟨e, t₁, t₂, h₁, h₂⟩ | ⟨x, t₁, t₂, h₁, h₂⟩
  · rw [h₁, h₂] at hg
    rw [apply_bind_error h₁, apply_bind_error h₂]
    exact ⟨rfl, hg⟩
  · rw [h₁, h₂] at hg
    rw [apply_bind_ok h₁, apply_bind_ok h₂]
    obtain ⟨he', hg'⟩ := hf x _ _ hg.alike
    exact ⟨he', hg.trans hg'⟩

/-- What is beside the text does not look at it. -/
theorem Blind.of_aside {a : Action α} (h : Aside a) : Blind Eq a := by
  intro s₁ s₂ ha
  obtain ⟨he, hh, hf⟩ := h.same s₁ s₂ ha.handles ha.forest
  exact ⟨he, .of_initializers ha (h.buffer s₁) (h.buffer s₂) (h.trace s₁) (h.trace s₂) hh hf⟩

theorem Blind.endAlike {a : Action Reply} (ha : Blind Eq a) : Blind EndAlike a :=
  fun s₁ s₂ h => ⟨.of_eq (ha s₁ s₂ h).1, (ha s₁ s₂ h).2⟩

/-- A reply that is thrown away need not be the same. -/
theorem Blind.discarded {a : Action Reply} (ha : Blind EndAlike a) : Blind Eq (discard a) := by
  intro s₁ s₂ h
  obtain ⟨he, hg⟩ := ha s₁ s₂ h
  rcases h₁ : a.apply s₁ with ⟨o₁, t₁⟩
  rcases h₂ : a.apply s₂ with ⟨o₂, t₂⟩
  rw [h₁, h₂] at he hg
  rw [discard_eq, apply_bind, apply_bind, h₁, h₂]
  cases he with
  | ok => exact ⟨rfl, hg⟩
  | error => exact ⟨rfl, hg⟩

theorem blind_append {f : Buffer → Buffer} (hf : Buffer.IsAppend f) : Blind Eq (changeBuffer f) := by
  obtain ⟨g, hg⟩ := hf
  intro s₁ s₂ h
  obtain ⟨ht₁, hd₁, hu₁⟩ := hg s₁.buffer
  obtain ⟨ht₂, hd₂, hu₂⟩ := hg s₂.buffer
  rw [← h.buffer.depth, ← h.buffer.unit, ← h.buffer.line] at ht₂
  exact ⟨rfl, .of_buffer h ht₁ ht₂ (by rw [hd₁, hd₂, h.buffer.depth])
    (by rw [hu₁, hu₂, h.buffer.unit])⟩

theorem blind_setUnit (unit : Value) : Blind Eq (setUnit unit) := by
  intro s₁ s₂ h
  obtain ⟨l₁, h₁⟩ := apply_setUnit unit s₁
  obtain ⟨l₂, h₂⟩ := apply_setUnit unit s₂
  rw [h₁, h₂]
  cases unit.asText? with
  | none => exact ⟨rfl, .of_initializers h rfl rfl rfl rfl h.handles h.forest⟩
  | some u =>
    have hb : (s₁.buffer.withUnit u).Alike (s₂.buffer.withUnit u) :=
      ⟨h.buffer.depth, rfl, h.buffer.line⟩
    exact ⟨rfl, ⟨"", by simp [Buffer.withUnit_text], by simp [Buffer.withUnit_text]⟩,
      ⟨[], [], by simp, by simp, .nil⟩, hb, h.handles, h.forest⟩

theorem blind_snapshot : Blind EndAlike Op.snapshot.perform := fun s₁ s₂ h =>
  ⟨.ok, .of_buffer (x := "") h (by rw [Buffer.joined_text, String.append_empty])
    (by rw [Buffer.joined_text, String.append_empty])
    (by rw [Buffer.joined_depth, Buffer.joined_depth, h.buffer.depth])
    (by rw [Buffer.joined_unit, Buffer.joined_unit, h.buffer.unit])⟩

theorem blind_state : Blind EndAlike Op.state.perform := fun _ _ h => ⟨.ok, .refl h⟩

theorem blind_writeTree (t : Tree) : Blind Eq (writeTree t) := by
  intro s₁ s₂ h
  have hg := (blind_append (Tree.isAppend_write t) s₁ s₂ h).2
  obtain ⟨log₁, h₁⟩ := apply_writeTree t s₁
  obtain ⟨log₂, h₂⟩ := apply_writeTree t s₂
  rw [h₁, h₂]
  exact ⟨rfl, hg.trans (.of_initializers hg.alike rfl rfl rfl rfl h.handles h.forest)⟩

theorem Blind.indented {a : Action Unit} (ha : Blind Eq a) : Blind Eq (indented a) := by
  intro s₁ s₂ h
  have he : ({ s₁ with buffer := s₁.buffer.enter } : Session).Alike
      { s₂ with buffer := s₂.buffer.enter } :=
    ⟨⟨congrArg (· + 1) h.buffer.depth, h.buffer.unit, h.buffer.line⟩, h.handles, h.forest⟩
  obtain ⟨hr, ht, hn, hb, hh, hf⟩ := ha _ _ he
  rw [apply_indented, apply_indented]
  exact ⟨hr, ht, hn, ⟨congrArg (· - 1) hb.depth, hb.unit, hb.line⟩, hh, hf⟩

theorem Blind.attempt {a : Action Unit} (ha : Blind Eq a) : Blind Eq (attempt a) := by
  intro s₁ s₂ h
  obtain ⟨he, hg⟩ := ha s₁ s₂ h
  rw [apply_attempt, apply_attempt, he]
  exact ⟨rfl, hg⟩

theorem Blind.noted (label : String) {a : Action Reply} (ha : Blind EndAlike a) :
    Blind EndAlike (noted label a) := by
  intro s₁ s₂ h
  obtain ⟨he, ht, ⟨ns₁, ns₂, hn₁, hn₂, hns⟩, hb, hh, hf⟩ := ha s₁ s₂ h
  rw [apply_noted, apply_noted, hn₁, hn₂, List.append_assoc, List.append_assoc]
  exact ⟨he, ht, ⟨_, _, rfl, rfl, List.rel_append hns (.cons ⟨rfl, ht, hb, he⟩ .nil)⟩, hb, hh, hf⟩

/-- The space in front of a value keeps what was written before it. -/
theorem Blind.value (lead : String) {a : Action Unit} (ha : Blind Eq a) :
    Blind Eq (do
      changeBuffer fun b => (b.emitOpen lead).emitRaw " "
      a
      changeBuffer (·.closeValue)) := by
  intro s₁ s₂ h
  have hlead := blind_append ((Buffer.isAppend_emitOpen lead).comp (Buffer.isAppend_emitRaw " "))
  have ht (b : Buffer) (y : String) : ((b.emitOpen lead).emitRaw " ").text ++ y =
      b.text ++ (Buffer.blockOf b.depth b.unit lead ++ " " ++ y) := by
    rw [Buffer.emitRaw, Buffer.text_push, Buffer.emitOpen, Buffer.text_push, String.append_assoc,
      String.append_assoc, String.append_assoc]
    rfl
  have hg : GrownAlike s₁ s₂ { s₁ with buffer := (s₁.buffer.emitOpen lead).emitRaw " " }
      { s₂ with buffer := (s₂.buffer.emitOpen lead).emitRaw " " } := (hlead s₁ s₂ h).2
  obtain ⟨he, hv⟩ := ha _ _ hg.alike
  obtain ⟨y, hy₁, hy₂⟩ := hv.text
  rw [apply_bind_ok (apply_changeBuffer _ s₁), apply_bind_ok (apply_changeBuffer _ s₂),
    apply_bind, apply_bind]
  generalize a.apply { s₁ with buffer := (s₁.buffer.emitOpen lead).emitRaw " " } = r₁ at *
  generalize a.apply { s₂ with buffer := (s₂.buffer.emitOpen lead).emitRaw " " } = r₂ at *
  obtain ⟨o₁, u₁⟩ := r₁
  obtain ⟨o₂, u₂⟩ := r₂
  cases he
  cases o₁ with
  | error e => exact ⟨rfl, hg.trans hv⟩
  | ok x =>
    refine ⟨rfl, (hg.trans hv).closed (hy₁.trans (ht _ y)) (hy₂.trans ?_) (c := ' ') ?_ (by decide)⟩
    · rw [h.buffer.depth, h.buffer.unit]; exact ht _ y
    · simp

theorem Blind.declareWith (declaration : Value) {a : Action Unit} (ha : Blind Eq a) :
    Blind Eq (declareWith declaration a) :=
  (Blind.of_aside (aside_report (Reporting.steady_fragment declaration))).next fun s => .value (s ++ " =") ha

theorem blind_writeInitializer (place : Nat) : Blind Eq (writeInitializer place) := by
  rw [writeInitializer_eq]
  exact (Blind.of_aside (aside_closeRoot place)).next blind_writeTree

end Action

/-! ## All operations -/

open CxxWriter.Action

/-- Is it neither the removal of line feeds nor an operation on templates? -/
def Op.isPlain : Op → Bool
  | .stripNewlines => false
  | op => !op.isTemplate

theorem blindLaw : Law Op.isPlain (fun a => Blind Eq a) (fun a => Blind EndAlike a) where
  result x := .of_aside (aside_pure x)
  next ha hf := ha.next hf
  failure e := .of_aside (aside_throw e)
  report hr := .of_aside (aside_report hr)
  reply ha := ha.endAlike
  discarded ha := ha.discarded
  append := blind_append
  strip h := by cases h
  setUnit unit _ := blind_setUnit unit
  snapshot := blind_snapshot
  state := blind_state
  writeTree := blind_writeTree
  indented ha := ha.indented
  attempt ha := ha.attempt
  noted label _ ha := ha.noted label
  declareWith declaration _ ha := ha.declareWith declaration
  placeOf handle := .of_aside (aside_placeOf handle)
  ask f := .of_aside (aside_ask f)
  setHandle handle place := .of_aside (aside_setHandle handle place)
  begin brackets := .of_aside (aside_beginInitializer brackets)
  addElement place code := .of_aside (aside_addElement place code)
  nested place brackets child :=
    (Blind.of_aside (aside_beginNested place brackets)).next fun inner =>
    (Blind.of_aside (aside_attachNested place inner)).next fun _ =>
    .of_aside (aside_setHandle child inner)
  nestedWith place brackets child _ ha :=
    (Blind.of_aside (aside_beginNested place brackets)).next fun inner =>
    (Blind.of_aside (aside_setHandle child inner)).next fun _ => ha.next fun _ =>
    .of_aside (aside_attachNested place inner)
  writeInitializer := blind_writeInitializer
  template op ht hp := by cases op <;> cases ht <;> cases hp

theorem blind_perform (op : Op) (h : op.everywhere Op.isPlain = true) : Blind EndAlike op.perform :=
  blindLaw.perform op h

theorem blind_performAll (ops : List Op) (h : Op.allEverywhere Op.isPlain ops = true) :
    Blind Eq (Op.performAll ops) :=
  blindLaw.performAll ops h

/-- A script whose operations are carried out whether or not the one before it
    failed. -/
theorem play_alike {ops : List Op} (hp : Op.allEverywhere Op.isPlain ops = true) {s₁ s₂ : Session}
    (h : s₁.Alike s₂) :
    (∃ x, (s₁.play ops).session.buffer.text = s₁.buffer.text ++ x ∧
      (s₂.play ops).session.buffer.text = s₂.buffer.text ++ x) ∧
    List.Forall₂ (List.Forall₂ (Step.Alike s₁.buffer.text s₂.buffer.text)) (s₁.play ops).notes
      (s₂.play ops).notes ∧
    (s₁.play ops).session.Alike (s₂.play ops).session := by
  induction ops generalizing s₁ s₂ with
  | nil => exact ⟨⟨"", by simp [Session.play], by simp [Session.play]⟩, .nil, h⟩
  | cons op ops ih =>
    simp only [Op.allEverywhere, Bool.and_eq_true] at hp
    obtain ⟨-, hg⟩ :=
      blind_perform op hp.1 { s₁ with trace := [] } { s₂ with trace := [] } ⟨h.1, h.2, h.3⟩
    obtain ⟨⟨x, hx₁, hx₂⟩, ⟨ns₁, ns₂, hn₁, hn₂, hns⟩, ha⟩ := hg
    obtain ⟨⟨y, hy₁, hy₂⟩, hms, ha'⟩ := ih hp.2 ha
    rw [hx₁] at hy₁
    rw [hx₂] at hy₂
    rw [hx₁, hx₂] at hms
    have hnotes : List.Forall₂ (Step.Alike s₁.buffer.text s₂.buffer.text)
        (op.perform.apply { s₁ with trace := [] }).2.trace
        (op.perform.apply { s₂ with trace := [] }).2.trace := by
      rw [hn₁, hn₂]
      exact hns
    refine ⟨⟨x ++ y, ?_, ?_⟩, .cons hnotes ?_, ha'⟩
    · rw [← String.append_assoc]; exact hy₁
    · rw [← String.append_assoc]; exact hy₂
    -- what is noted later is told from the first texts, too
    · exact hms.imp fun _ _ hm => hm.imp fun _ _ => Step.Alike.since

/-- **Operations only append, and what they append is told by the depth, the
    unit, whether a line starts, and the initializers.**  From sessions that
    agree on those, an operation, a body that ends at its first error, and a
    script that goes on after errors end the same way: the same text is appended
    to both texts, the same is noted on the way with the same text before it,
    and the sessions agree again.  So nothing that was written before an
    operation is ever changed by it. -/
theorem same_text_appended {s₁ s₂ : Session} (h : s₁.Alike s₂) :
    (∀ op : Op, op.everywhere Op.isPlain = true →
      EndAlike (op.perform.apply s₁).1 (op.perform.apply s₂).1 ∧
      GrownAlike s₁ s₂ (op.perform.apply s₁).2 (op.perform.apply s₂).2) ∧
    (∀ body : List Op, Op.allEverywhere Op.isPlain body = true →
      ((Op.performAll body).apply s₁).1 = ((Op.performAll body).apply s₂).1 ∧
      GrownAlike s₁ s₂ ((Op.performAll body).apply s₁).2 ((Op.performAll body).apply s₂).2) ∧
    ∀ ops : List Op, Op.allEverywhere Op.isPlain ops = true →
      (∃ x, (s₁.play ops).session.buffer.text = s₁.buffer.text ++ x ∧
        (s₂.play ops).session.buffer.text = s₂.buffer.text ++ x) ∧
      List.Forall₂ (List.Forall₂ (Step.Alike s₁.buffer.text s₂.buffer.text)) (s₁.play ops).notes
        (s₂.play ops).notes ∧
      (s₁.play ops).session.Alike (s₂.play ops).session :=
  ⟨fun op hp => blind_perform op hp s₁ s₂ h, fun body hp => blind_performAll body hp s₁ s₂ h,
    fun _ hp => play_alike hp h⟩

/-- A value that fails behind a line feed, in a new session and in one that has
    written a line. -/
theorem same_text_appended_after_line :
    let s₁ := Session.start .empty Config.default "\t" Files.empty []
    let s₂ := { s₁ with buffer := ⟨["\n", "int a;"], 0, "\t"⟩ }
    let ops : List Op := [.noted "b" (.declareWith (.text "int b")
      [.newline, .setUnit (.text " "), .newline, .fail "stop"]),
      .noted "c" (.declareWith (.text "int c") [.emitRaw (.text "1"), .newline, .newline])]
    s₁.Alike s₂ ∧ Op.allEverywhere Op.isPlain ops = true ∧
      ∃ x, (s₁.play ops).session.buffer.text = s₁.buffer.text ++ x ∧
        (s₂.play ops).session.buffer.text = s₂.buffer.text ++ x := by
  intro s₁ s₂ ops
  have h : s₁.Alike s₂ := ⟨⟨rfl, rfl, by decide⟩, rfl, rfl⟩
  have hp : Op.allEverywhere Op.isPlain ops = true := by decide
  exact ⟨h, hp, ((same_text_appended h).2.2 ops hp).1⟩

end CxxWriter
