/-
  What was written stays, but for line feeds at its end.

  * `Retains a`: an action removes nothing of the text before it but line feeds
    at its end;
  * `retains_performAll`: operations do, whether they end well or fail.
-/
import CxxWriter.Proofs.Aside
import CxxWriter.Proofs.Lines

namespace CxxWriter

open Text

namespace Action

variable {α β : Type}

/-- Does an action leave what was written before it, but for line feeds at the
    end? -/
def Retains (a : Action α) : Prop :=
  ∀ s : Session, trimEnd (· == '\n') s.buffer.text.toList <+: (a.apply s).2.buffer.text.toList

/-- What is left of a text is left of any text that it is the beginning of. -/
theorem trimEnd_prefix_trimEnd {l m : List Char} (h : trimEnd (· == '\n') l <+: m) :
    trimEnd (· == '\n') l <+: trimEnd (· == '\n') m := by
  obtain ⟨e, rfl⟩ := h
  rw [trimEnd_append, trimEnd_trimEnd]
  split
  · exact List.prefix_refl _
  · exact List.prefix_append _ _

theorem retains_of_append {a : Action α}
    (h : ∀ s : Session, ∃ x, (a.apply s).2.buffer.text = s.buffer.text ++ x) : Retains a := by
  intro s
  obtain ⟨x, hx⟩ := h s
  rw [hx, String.toList_append]
  exact (List.rdropWhile_prefix _ _).trans (List.prefix_append _ _)

theorem retains_of_text {a : Action α}
    (h : ∀ s : Session, (a.apply s).2.buffer.text = s.buffer.text) : Retains a :=
  retains_of_append fun s => ⟨"", by rw [h, String.append_empty]⟩

theorem Aside.retains {a : Action α} (h : Aside a) : Retains a :=
  retains_of_text fun s => by rw [h.buffer]

theorem Retains.next {a : Action α} {f : α → Action β} (ha : Retains a) (hf : ∀ x, Retains (f x)) :
    Retains (a >>= f) :=
  related_bind (R := fun s t => trimEnd (· == '\n') s.buffer.text.toList <+: t.buffer.text.toList)
    (fun hst htu => (trimEnd_prefix_trimEnd hst).trans htu) ha hf

theorem retains_append {f : Buffer → Buffer} (hf : Buffer.IsAppend f) : Retains (changeBuffer f) := by
  obtain ⟨g, hg⟩ := hf
  exact retains_of_append fun s => ⟨_, (hg s.buffer).1⟩

theorem retains_stripNewlines : Retains (changeBuffer (·.stripNewlines)) := by
  intro s
  refine ⟨[], ?_⟩
  rw [List.append_nil, apply_changeBuffer, Buffer.stripNewlines_text, Buffer.stripped, String.toList_ofList]

theorem retains_closeValue : Retains (changeBuffer (·.closeValue)) := by
  intro s
  rw [apply_changeBuffer, Buffer.closeValue_text, String.toList_append, Buffer.stripped,
    String.toList_ofList]
  exact List.prefix_append _ _

theorem retains_setUnit (unit : Value) : Retains (setUnit unit) := by
  refine retains_of_text fun s => ?_
  obtain ⟨log, h⟩ := apply_setUnit unit s
  rw [h]
  cases unit.asText? <;> rfl

theorem retains_writeTree (t : Tree) : Retains (writeTree t) := by
  obtain ⟨g, hg⟩ := Tree.isAppend_write t
  refine retains_of_append fun s => ⟨g s.buffer.depth s.buffer.unit s.buffer.atLineStart, ?_⟩
  obtain ⟨log, h⟩ := apply_writeTree t s
  rw [h]
  exact (hg s.buffer).1

theorem Retains.indented {a : Action Unit} (ha : Retains a) : Retains (indented a) := by
  intro s
  rw [apply_indented]
  exact ha { s with buffer := s.buffer.enter }

theorem Retains.attempt {a : Action Unit} (ha : Retains a) : Retains (attempt a) := by
  intro s
  rw [apply_attempt]
  exact ha s

theorem Retains.noted (label : String) {a : Action Reply} (ha : Retains a) :
    Retains (noted label a) := by
  intro s
  rw [apply_noted]
  exact ha s

theorem Retains.declareWith (declaration : Value) {a : Action Unit} (ha : Retains a) :
    Retains (declareWith declaration a) :=
  (Aside.retains (aside_report (Reporting.steady_fragment declaration))).next fun _ =>
  (retains_append ((Buffer.isAppend_emitOpen _).comp (Buffer.isAppend_emitRaw " "))).next fun _ =>
  ha.next fun _ => retains_closeValue

theorem retains_writeInitializer (place : Nat) : Retains (writeInitializer place) := by
  rw [writeInitializer_eq]
  exact (aside_closeRoot place).retains.next retains_writeTree

theorem retainsTemplateLaw : TemplateLaw (fun a => Retains a) where
  result x := (aside_pure x).retains
  next := Retains.next
  failure e := (aside_throw e).retains
  report _ := retains_of_text fun _ => rfl
  session := retains_of_text fun _ => rfl
  setEngine _ := retains_of_text fun _ => rfl
  append := retains_append

theorem retainsLaw : Law (fun _ => true) (fun a => Retains a) (fun a => Retains a) where
  result x := (aside_pure x).retains
  next := Retains.next
  failure e := (aside_throw e).retains
  report hr := (aside_report hr).retains
  reply := id
  discarded ha := ha.next fun _ => (aside_pure _).retains
  append := retains_append
  strip _ := retains_stripNewlines
  setUnit unit _ := retains_setUnit unit
  snapshot := retains_of_text fun s => s.buffer.joined_text
  state := retains_of_text fun _ => rfl
  writeTree := retains_writeTree
  indented := Retains.indented
  attempt := Retains.attempt
  noted label _ := Retains.noted label
  declareWith declaration _ := Retains.declareWith declaration
  placeOf handle := (aside_placeOf handle).retains
  ask f := (aside_ask f).retains
  setHandle handle place := (aside_setHandle handle place).retains
  begin brackets := (aside_beginInitializer brackets).retains
  addElement place code := (aside_addElement place code).retains
  nested place brackets child := (aside_beginNested place brackets).retains.next fun inner =>
    (aside_attachNested place inner).retains.next fun _ => (aside_setHandle child inner).retains
  nestedWith place brackets child _ ha :=
    (aside_beginNested place brackets).retains.next fun inner =>
    (aside_setHandle child inner).retains.next fun _ => ha.next fun _ =>
    (aside_attachNested place inner).retains
  writeInitializer := retains_writeInitializer
  template op h _ := retainsTemplateLaw.perform op h

end Action

namespace Op

/-- **Nothing that was written is removed but line feeds at its end**, whatever
    operations are carried out and however they end. -/
theorem retains_performAll (ops : List Op) : Action.Retains (performAll ops) :=
  Action.retainsLaw.performAll ops ((everywhere_of_all fun _ => rfl).2 ops)

end Op

end CxxWriter
