/-
  What the actions on initializers come to: one equation for each, from the
  session at its start.
-/
import CxxWriter.Proofs.Action
import CxxWriter.Proofs.Tree

namespace CxxWriter.Action

/-! ## Handles and composites -/

theorem apply_placeOf (handle : String) (s : Session) :
    (placeOf handle).apply s = (match s.handles.find? (·.1 == handle) with
      | some (_, place) => .ok place
      | none => .error .unknownHandle, s) := by
  unfold placeOf
  rw [apply_bind_ok (apply_get s)]
  cases s.handles.find? (·.1 == handle) <;> rfl

theorem apply_checkOpen (place : Nat) (s : Session) :
    (checkOpen place).apply s =
      (if s.forest.isClosed place then .error .alreadyWritten else .ok (), s) := by
  unfold checkOpen
  rw [apply_bind_ok (apply_get s)]
  split <;> rfl

theorem apply_checkOpen_closed {place : Nat} {s : Session} (h : s.forest.isClosed place = true) :
    (checkOpen place).apply s = (.error .alreadyWritten, s) := by
  rw [apply_checkOpen, if_pos h]

theorem apply_checkOpen_open {place : Nat} {s : Session} (h : s.forest.isClosed place = false) :
    (checkOpen place).apply s = (.ok (), s) := by
  rw [apply_checkOpen, h]; rfl

theorem apply_beginInitializer (brackets : Brackets) (s : Session) :
    (beginInitializer brackets).apply s =
      (.ok s.forest.size, { s with forest := s.forest.begin brackets }) := rfl

theorem apply_attachNested (place child : Nat) (s : Session) :
    (attachNested place child).apply s =
      (.ok (), { s with forest := s.forest.attach place (.composite child) }) := rfl

/-- A composite is begun below an open one only. -/
theorem apply_beginNested (place : Nat) (brackets : Brackets) (s : Session) :
    (beginNested place brackets).apply s =
      if s.forest.isClosed place then (.error .alreadyWritten, s)
      else (.ok s.forest.size, { s with forest := s.forest.beginUnder place brackets }) := by
  unfold beginNested
  cases h : s.forest.isClosed place with
  | true => rw [apply_bind_error (apply_checkOpen_closed h)]; rfl
  | false => rw [apply_bind_ok (apply_checkOpen_open h)]; rfl

/-- A fragment is added to an open composite only. -/
theorem apply_addElement (place : Nat) (code : Value) (s : Session) :
    (addElement place code).apply s =
      if s.forest.isClosed place then (.error .alreadyWritten, s)
      else match code.fragment? with
        | some t => (.ok (), { s with forest := s.forest.attach place (.text t) })
        | none => (.error (.unfit code),
          { s with log := s.log ++ Reporting.rejection code }) := by
  unfold addElement
  cases h : s.forest.isClosed place with
  | true => rw [apply_bind_error (apply_checkOpen_closed h)]; rfl
  | false =>
    rw [apply_bind_ok (apply_checkOpen_open h), apply_bind, apply_report, if_neg (by simp)]
    cases hc : code.fragment? with
    | some t => rw [Reporting.tells_fragment hc s.log, List.append_nil]; rfl
    | none => rw [Reporting.tells_fragment_none hc s.log]

/-! ## Writing -/

/-- Writing a tree with fragments only succeeds. -/
theorem apply_writeTree_written {t : Tree} {s : Session}
    (h : (t.write s.buffer).rejected = none) :
    (writeTree t).apply s = (.ok (), { s with buffer := (t.write s.buffer).buffer }) := by
  unfold writeTree
  rw [apply_bind_ok (apply_get s), apply_bind_ok (apply_changeBuffer _ s)]
  simp only [h]
  rfl

/-- Writing a tree fails for the value it is refused for. -/
theorem apply_writeTree_rejected {t : Tree} {s : Session} {v : Value} (hv : v.fragment? = none)
    (h : (t.write s.buffer).rejected = some v) :
    (writeTree t).apply s = (.error (.unfit v), { s with
      buffer := (t.write s.buffer).buffer
      log := s.log ++ Reporting.rejection v }) := by
  have hf : (Reporting.fragment v).run.run s.log =
      (.error (.unfit v), s.log ++ Reporting.rejection v) :=
    Reporting.tells_fragment_none hv s.log
  unfold writeTree
  rw [apply_bind_ok (apply_get s), apply_bind_ok (apply_changeBuffer _ s)]
  simp only [h, discard_eq]
  rw [apply_bind, apply_report, hf]

/-- What writing a tree comes to is told by the tree. -/
theorem apply_writeTree (t : Tree) (s : Session) : ∃ log, (writeTree t).apply s =
    (match t.refusal? with
      | none => .ok ()
      | some v => .error (.unfit v),
      { s with buffer := (t.write s.buffer).buffer, log := log }) := by
  have hr := t.write_rejected s.buffer
  cases hv : t.refusal? with
  | none => exact ⟨_, apply_writeTree_written (hr.trans hv)⟩
  | some v =>
    obtain ⟨b, hb⟩ := Tree.exists_refusedAt t (hr.trans hv)
    exact ⟨_, apply_writeTree_rejected hb.write.1 (hr.trans hv)⟩

/-- The record of a tree that is about to be written. -/
def announcement (f : Forest) (place : Nat) : LogRecord where
  level := .debug
  component := .initializer
  message := "Rendering " ++
    (match f.tree place with
      | .node opening closing _ => opening ++ closing
      | .leaf _ => "") ++
    " initializer with " ++ toString (f.elementCount place) ++ " element(s)"

/-- The tree of a root that is about to be written.  It is closed from now on. -/
def closeRoot (place : Nat) : Action Tree := ofFunction fun s =>
  if s.forest.isRoot place then
    if s.forest.isClosed place then (.error .alreadyWritten, s)
    else (.ok ((s.forest.close place).tree place), { s with
      forest := s.forest.close place
      log := s.log ++ [announcement (s.forest.close place) place] })
  else (.error .notOutermost, s)

theorem apply_closeRoot (place : Nat) (s : Session) :
    (closeRoot place).apply s =
      if s.forest.isRoot place then
        if s.forest.isClosed place then (.error .alreadyWritten, s)
        else (.ok ((s.forest.close place).tree place), { s with
          forest := s.forest.close place
          log := s.log ++ [announcement (s.forest.close place) place] })
      else (.error .notOutermost, s) := rfl

/-- A tree is written from its root only, and once: it is closed before. -/
theorem writeInitializer_eq (place : Nat) :
    writeInitializer place = closeRoot place >>= writeTree := by
  funext s
  show (writeInitializer place).apply s = (closeRoot place >>= writeTree).apply s
  unfold writeInitializer
  rw [apply_bind_ok (apply_get s), apply_bind, apply_closeRoot]
  dsimp only
  split
  · cases h : s.forest.isClosed place with
    | true => rw [apply_bind_error (apply_checkOpen_closed h)]; rfl
    | false =>
      rw [apply_bind_ok (apply_checkOpen_open h), apply_bind_ok (apply_changeForest _ s),
        apply_bind_ok (apply_get _)]
      rfl
  · rfl

end CxxWriter.Action
