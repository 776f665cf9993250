/-
  Actions beside the text.

  * `Aside a`: the action leaves buffer and notes alone, and what it comes to is
    told by the handles and the forest;
  * all actions on initializers are of this kind but for the writing, and so is
    what keeps records or fails.
-/
import CxxWriter.Proofs.Initializer

namespace CxxWriter

namespace Action

variable {α β : Type}

/-- Does the action leave buffer and notes alone, and look at handles and forest
    only? -/
structure Aside (a : Action α) : Prop where
  buffer : ∀ s, (a.apply s).2.buffer = s.buffer
  trace : ∀ s, (a.apply s).2.trace = s.trace
  same : ∀ s₁ s₂, s₁.handles = s₂.handles → s₁.forest = s₂.forest →
    (a.apply s₁).1 = (a.apply s₂).1 ∧ (a.apply s₁).2.handles = (a.apply s₂).2.handles ∧
      (a.apply s₁).2.forest = (a.apply s₂).2.forest

theorem aside_pure (x : α) : Aside (pure x) :=
  ⟨fun _ => rfl, fun _ => rfl, fun _ _ hh hf => ⟨rfl, hh, hf⟩⟩

theorem aside_throw (e : Error) : Aside (throw e : Action α) :=
  ⟨fun _ => rfl, fun _ => rfl, fun _ _ hh hf => ⟨rfl, hh, hf⟩⟩

theorem aside_report {r : Reporting α} (hr : r.Steady) : Aside (report r) := by
  obtain ⟨o, l, hr⟩ := hr
  refine ⟨fun _ => rfl, fun _ => rfl, fun s₁ s₂ hh hf => ?_⟩
  rw [apply_report_tells hr, apply_report_tells hr]
  exact ⟨rfl, hh, hf⟩

theorem aside_placeOf (handle : String) : Aside (placeOf handle) := by
  refine ⟨fun s => by rw [apply_placeOf], fun s => by rw [apply_placeOf], fun s₁ s₂ hh hf => ?_⟩
  rw [apply_placeOf, apply_placeOf]
  exact ⟨by rw [hh], hh, hf⟩

theorem aside_ask (f : Forest → α) : Aside (do return f (← get).forest) := by
  refine ⟨fun _ => rfl, fun _ => rfl, fun s₁ s₂ hh hf => ⟨?_, hh, hf⟩⟩
  show Except.ok (f s₁.forest) = Except.ok (f s₂.forest)
  rw [hf]

theorem aside_setHandle (handle : String) (place : Nat) : Aside (setHandle handle place) := by
  refine ⟨fun _ => rfl, fun _ => rfl, fun s₁ s₂ hh hf => ⟨rfl, ?_, hf⟩⟩
  rw [apply_setHandle, apply_setHandle, hh]

theorem aside_beginInitializer (brackets : Brackets) : Aside (beginInitializer brackets) := by
  refine ⟨fun _ => rfl, fun _ => rfl, fun s₁ s₂ hh hf => ?_⟩
  rw [apply_beginInitializer, apply_beginInitializer, hf]
  exact ⟨rfl, hh, rfl⟩

theorem aside_attachNested (place child : Nat) : Aside (attachNested place child) := by
  refine ⟨fun _ => rfl, fun _ => rfl, fun s₁ s₂ hh hf => ⟨rfl, hh, ?_⟩⟩
  rw [apply_attachNested, apply_attachNested, hf]

theorem aside_beginNested (place : Nat) (brackets : Brackets) :
    Aside (beginNested place brackets) := by
  refine ⟨fun s => ?_, fun s => ?_, fun s₁ s₂ hh hf => ?_⟩
  · rw [apply_beginNested]
    split <;> rfl
  · rw [apply_beginNested]
    split <;> rfl
  · rw [apply_beginNested, apply_beginNested, hf]
    split
    · exact ⟨rfl, hh, hf⟩
    · exact ⟨rfl, hh, rfl⟩

theorem aside_addElement (place : Nat) (code : Value) : Aside (addElement place code) := by
  refine ⟨fun s => ?_, fun s => ?_, fun s₁ s₂ hh hf => ?_⟩
  · rw [apply_addElement]
    split
    · rfl
    · split <;> rfl
  · rw [apply_addElement]
    split
    · rfl
    · split <;> rfl
  · rw [apply_addElement, apply_addElement, hf]
    split
    · exact ⟨rfl, hh, hf⟩
    · split
      · exact ⟨rfl, hh, rfl⟩
      · exact ⟨rfl, hh, rfl⟩

theorem aside_closeRoot (place : Nat) : Aside (closeRoot place) := by
  refine ⟨fun s => ?_, fun s => ?_, fun s₁ s₂ hh hf => ?_⟩
  · rw [apply_closeRoot]
    split
    · split <;> rfl
    · rfl
  · rw [apply_closeRoot]
    split
    · split <;> rfl
    · rfl
  · rw [apply_closeRoot, apply_closeRoot, hf]
    split
    · split
      · exact ⟨rfl, hh, hf⟩
      · exact ⟨rfl, hh, rfl⟩
    · exact ⟨rfl, hh, hf⟩

end Action

end CxxWriter
