/-
  Scopes are left as they were entered.

  * `Op.Raised op s e b`: carried out on `s`, the operation ends with the error
    `e`, which is raised at a moment when the buffer is `b`.  Operations that
    enclose others pass on the errors of what they enclose, from whatever depth;
  * `Op.Raised.fails`: between that moment and the end of the operation nothing
    is written and nothing is removed;
  * `Restored a s`: carried out on `s`, the action ends at the depth it started
    at, and takes no note below it.  All operations do (`restored_perform`).
-/
import CxxWriter.Proofs.Phases

namespace CxxWriter

open CxxWriter.Action

namespace Op

/-! ## The moment of an error -/

/-- Is the end of the operation noted? -/
def isNoted : Op → Bool
  | noted .. => true
  | _ => false

/-- Does an operation handle an error that its body ends with? -/
def catches : Op → Error → Bool
  | attempt _, e => e.isOwn
  | _, _ => false

mutual

/-- The operation ends with an error that is raised at a moment when the buffer
    is the last one. -/
inductive Raised : Op → Session → Error → Buffer → Prop
  | noted {label op s e b} : Raised op s e b → Raised (.noted label op) s e b
  /-- The opening is carried out up to the error. -/
  | opening {op s e t} :
      op.isNoted = false → op.opening.apply s = (.error e, t) → Raised op s e t.buffer
  | body {op s e ending t b} :
      op.opening.apply s = (.ok ending, t) → AllRaised op.body t e b → op.catches e = false →
      Raised op s e b
  | ending {op s e ending t u v} :
      op.opening.apply s = (.ok ending, t) → (performAll op.body).apply t = (.ok (), u) →
      ending.closing.apply u = (.error e, v) → Raised op s e v.buffer
  /-- A tree is refused where a value in it is. -/
  | tree {op s ending t u closing v x y b} :
      op.opening.apply s = (.ok ending, t) → (performAll op.body).apply t = (.ok (), u) →
      ending.closing.apply u = (.ok closing, v) → closing.tree = some x →
      Tree.RefusedAt x v.buffer y b → Raised op s (.unfit y) b

/-- One of the operations ends with an error that is raised at that moment. -/
inductive AllRaised : List Op → Session → Error → Buffer → Prop
  | here {op ops s e b} : Raised op s e b → AllRaised (op :: ops) s e b
  | later {op ops s r t e b} :
      op.perform.apply s = (.ok r, t) → AllRaised ops t e b → AllRaised (op :: ops) s e b

end

theorem unwind_of_not_catches {op : Op} {e : Error} (h : op.catches e = false) (s : Session) :
    (op.unwind e s).1 = .error e := by
  cases op with
  | attempt body =>
    show (if e.isOwn then Except.ok (Reply.caught e) else Except.error e) = _
    rw [if_neg (by simpa [catches] using h)]
  | _ => rfl

theorem unwind_of_catches {op : Op} {e : Error} (h : op.catches e = true) (s : Session) :
    (op.unwind e s).1 = .ok (.caught e) := by
  cases op with
  | attempt body => exact if_pos h
  | _ => cases h

mutual

/-- The operation ends with the text of the moment of the error. -/
theorem Raised.fails {op : Op} {s : Session} {e : Error} {b : Buffer} (h : Raised op s e b) :
    (op.perform.apply s).1 = .error e ∧ (op.perform.apply s).2.buffer.text = b.text := by
  match h with
  | .noted h =>
    rw [perform, apply_noted]
    exact h.fails
  | .opening _ ho =>
    rw [perform_opening_error ho]
    exact ⟨rfl, rfl⟩
  | .body ho hb hc =>
    obtain ⟨u, hu, ht⟩ := hb.fails
    rw [perform_body_error ho hu]
    exact ⟨unwind_of_not_catches hc u, (op.unwind_text e u).trans ht⟩
  | .ending ho hb hc =>
    rw [perform_body_ok ho hb, Ending.perform, apply_bind_error hc]
    exact ⟨rfl, rfl⟩
  | .tree ho hb hc ht hr =>
    obtain ⟨hv, hr, htext⟩ := hr.write
    rw [perform_body_ok ho hb, Ending.perform, apply_bind_ok hc, Closing.perform, ht,
      apply_bind_error (apply_writeTree_rejected hv hr)]
    exact ⟨rfl, htext⟩

theorem AllRaised.fails {ops : List Op} {s : Session} {e : Error} {b : Buffer}
    (h : AllRaised ops s e b) :
    ∃ t, (performAll ops).apply s = (.error e, t) ∧ t.buffer.text = b.text := by
  match ops, h with
  | op :: _, .here h =>
    obtain ⟨he, ht⟩ := h.fails
    exact ⟨_, apply_performAll_cons_error (Prod.ext he rfl), ht⟩
  | _ :: _, .later ho h =>
    obtain ⟨t, h, ht⟩ := h.fails
    exact ⟨t, (apply_performAll_cons ho).trans h, ht⟩

end

/-- An operation that fails does so in one of its phases. -/
theorem exists_raised_of_body {op : Op} (hn : op.isNoted = false)
    (hb : ∀ t e, ((performAll op.body).apply t).1 = .error e → ∃ b, AllRaised op.body t e b)
    {s : Session} {e : Error} (h : (op.perform.apply s).1 = .error e) : ∃ b, Raised op s e b := by
  rcases ho : op.opening.apply s with ⟨e' | ending, t⟩
  · rw [perform_opening_error ho] at h
    cases h
    exact ⟨_, .opening hn ho⟩
  · rcases hbody : (performAll op.body).apply t with ⟨e' | _, u⟩
    · rw [perform_body_error ho hbody] at h
      obtain ⟨b, hraised⟩ := hb t e' (congrArg Prod.fst hbody)
      cases hc : op.catches e' with
      | true => rw [unwind_of_catches hc] at h; cases h
      | false =>
        rw [unwind_of_not_catches hc] at h
        cases h
        exact ⟨b, .body ho hraised hc⟩
    · rw [perform_body_ok ho hbody] at h
      rcases hc : ending.closing.apply u with ⟨e' | closing, v⟩
      · rw [Ending.perform, apply_bind_error hc] at h
        cases h
        exact ⟨_, .ending ho hbody hc⟩
      · rw [Ending.perform, apply_bind_ok hc, Closing.perform] at h
        cases ht : closing.tree with
        | none => rw [ht] at h; cases h
        | some x =>
          rw [ht] at h
          cases hr : (x.write v.buffer).rejected with
          | none => rw [apply_bind_ok (apply_writeTree_written hr)] at h; cases h
          | some y =>
            obtain ⟨b, hb⟩ := Tree.exists_refusedAt x hr
            rw [apply_bind_error (apply_writeTree_rejected hb.write.1 hr)] at h
            cases h
            exact ⟨b, .tree ho hbody hc ht hb⟩

/-- Every error is raised at some moment. -/
theorem exists_raised :
    (∀ (op : Op) {s : Session} {e : Error},
      (op.perform.apply s).1 = .error e → ∃ b, Raised op s e b) ∧
    ∀ (ops : List Op) {s : Session} {e : Error},
      ((performAll ops).apply s).1 = .error e → ∃ b, AllRaised ops s e b := by
  refine Op.induction ?noted ?compound ?simple ?nil ?cons
  case noted =>
    intro label op ih s e h
    rw [perform, apply_noted] at h
    obtain ⟨b, hb⟩ := ih h
    exact ⟨b, .noted hb⟩
  case compound =>
    intro op hc ih s e h
    have hn : op.isNoted = false := by cases op <;> first | rfl | cases hc
    exact exists_raised_of_body hn (fun _ _ => ih) h
  case simple =>
    intro op hs s e h
    have hn : op.isNoted = false := by cases op <;> first | rfl | cases hs
    have hb : op.body = [] := by cases op <;> first | rfl | cases hs
    refine exists_raised_of_body hn (fun t e he => ?_) h
    rw [hb] at he
    cases he
  case nil =>
    intro s e h
    cases h
  case cons =>
    intro op ops ih ihs s e h
    rcases ho : op.perform.apply s with ⟨e' | r, t⟩
    · rw [apply_performAll_cons_error ho] at h
      cases h
      obtain ⟨b, hb⟩ := ih (congrArg Prod.fst ho)
      exact ⟨b, .here hb⟩
    · rw [apply_performAll_cons ho] at h
      obtain ⟨b, hb⟩ := ihs h
      exact ⟨b, .later ho hb⟩

end Op

namespace Action

/-! ## Actions that restore the depth -/

/-- The action ends at the depth it started at and takes no note below it. -/
structure Restored {α : Type} (a : Action α) (s : Session) : Prop where
  depth : (a.apply s).2.buffer.depth = s.buffer.depth
  notes : ∃ notes, (a.apply s).2.trace = s.trace ++ notes ∧
    ∀ n ∈ notes, s.buffer.depth ≤ n.buffer.depth

variable {α β : Type}

/-- An action that leaves depth and notes alone. -/
theorem Restored.of_eq {a : Action α} {s : Session}
    (hd : (a.apply s).2.buffer.depth = s.buffer.depth) (ht : (a.apply s).2.trace = s.trace) :
    Restored a s :=
  ⟨hd, [], by rw [ht, List.append_nil], by simp⟩

theorem Restored.next {a : Action α} {f : α → Action β} {s : Session} (ha : Restored a s)
    (hf : ∀ x t, Restored (f x) t) : Restored (a >>= f) s := by
  obtain ⟨hd, ns, hn, hle⟩ := ha
  rcases h : a.apply s with ⟨e | x, t⟩
  · rw [h] at hd hn
    refine ⟨?_, ns, ?_, hle⟩
    · rw [apply_bind_error h]; exact hd
    · rw [apply_bind_error h]; exact hn
  · rw [h] at hd hn
    obtain ⟨hd', ns', hn', hle'⟩ := hf x t
    refine ⟨?_, ns ++ ns', ?_, fun n hmem => ?_⟩
    · rw [apply_bind_ok h, hd', hd]
    · rw [apply_bind_ok h, hn', hn, List.append_assoc]
    · rcases List.mem_append.1 hmem with hmem | hmem
      · exact hle n hmem
      · exact hd ▸ hle' n hmem

theorem restored_pure (x : α) (s : Session) : Restored (pure x) s := .of_eq rfl rfl

theorem restored_throw (e : Error) (s : Session) : Restored (throw e : Action α) s := .of_eq rfl rfl

theorem restored_get (s : Session) : Restored (get : Action Session) s := .of_eq rfl rfl

theorem restored_report (r : Reporting α) (s : Session) : Restored (report r) s := .of_eq rfl rfl

theorem restored_setEngine (e : Engine) (s : Session) :
    Restored (modify ({ · with engine := some e }) : Action Unit) s := .of_eq rfl rfl

theorem restored_changeForest (f : Forest → Forest) (s : Session) : Restored (changeForest f) s :=
  .of_eq rfl rfl

theorem restored_setHandle (handle : String) (place : Nat) (s : Session) :
    Restored (setHandle handle place) s := .of_eq rfl rfl

theorem restored_changeBuffer {f : Buffer → Buffer} (h : ∀ b, (f b).depth = b.depth) (s : Session) :
    Restored (changeBuffer f) s := .of_eq (h _) rfl

theorem restored_append {f : Buffer → Buffer} (h : Buffer.IsAppend f) (s : Session) :
    Restored (changeBuffer f) s := by
  obtain ⟨g, hg⟩ := h
  exact restored_changeBuffer (fun b => (hg b).2.1) s

theorem restored_writeTree (t : Tree) (s : Session) : Restored (writeTree t) s := by
  obtain ⟨g, hg⟩ := Tree.isAppend_write t
  have hd := (hg s.buffer).2.1
  obtain ⟨log, h⟩ := apply_writeTree t s
  exact .of_eq (by rw [h]; exact hd) (by rw [h])

theorem Restored.indented {a : Action α} (ha : ∀ s, Restored a s) (s : Session) :
    Restored (indented a) s := by
  obtain ⟨hd, ns, hn, hle⟩ := ha { s with buffer := s.buffer.enter }
  refine ⟨?_, ns, hn, fun n hmem => Nat.le_of_succ_le (hle n hmem)⟩
  show (a.apply { s with buffer := s.buffer.enter }).2.buffer.depth - 1 = s.buffer.depth
  rw [hd]; rfl

theorem Restored.noted {a : Action Reply} (label : String) {s : Session} (ha : Restored a s) :
    Restored (noted label a) s := by
  obtain ⟨hd, ns, hn, hle⟩ := ha
  refine ⟨hd, ns ++ [⟨label, (a.apply s).2.buffer, (a.apply s).1⟩], ?_, fun n hmem => ?_⟩
  · rw [apply_noted, hn, List.append_assoc]
  · rcases List.mem_append.1 hmem with hmem | hmem
    · exact hle n hmem
    · rw [List.mem_singleton.1 hmem]; exact Nat.le_of_eq hd.symm

theorem Restored.attempt {a : Action Unit} {s : Session} (ha : Restored a s) :
    Restored (attempt a) s := by
  obtain ⟨hd, hn⟩ := ha
  refine ⟨?_, ?_⟩
  · rw [apply_attempt]; exact hd
  · rw [apply_attempt]; exact hn

/-! ## The parts of operations -/

theorem restored_placeOf (handle : String) (s : Session) : Restored (placeOf handle) s := by
  refine (restored_get s).next fun t _ => ?_
  split
  · exact restored_pure _ _
  · exact restored_throw _ _

theorem restored_checkOpen (place : Nat) (s : Session) : Restored (checkOpen place) s := by
  refine (restored_get s).next fun t _ => ?_
  split
  · exact restored_throw _ _
  · exact restored_pure _ _

theorem restored_setUnit (unit : Value) (s : Session) : Restored (setUnit unit) s := by
  refine (restored_report _ s).next fun unit _ => (restored_get _).next fun t u => ?_
  have hc := restored_changeBuffer (f := (·.withUnit unit)) fun _ => rfl
  dsimp only
  split
  · exact (restored_report _ u).next fun _ => hc
  · exact hc u

theorem restored_beginNested (place : Nat) (brackets : Brackets) (s : Session) :
    Restored (beginNested place brackets) s :=
  (restored_checkOpen place s).next fun _ _ => (restored_get _).next fun _ _ =>
    (restored_changeForest _ _).next fun _ => restored_pure _

theorem restored_writeInitializer (place : Nat) (s : Session) :
    Restored (writeInitializer place) s := by
  rw [writeInitializer_eq]
  refine Restored.next ?_ restored_writeTree
  have hc : ((closeRoot place).apply s).2.buffer = s.buffer ∧
      ((closeRoot place).apply s).2.trace = s.trace := by
    rw [apply_closeRoot]
    split
    · split <;> exact ⟨rfl, rfl⟩
    · exact ⟨rfl, rfl⟩
  exact .of_eq (congrArg Buffer.depth hc.1) hc.2

theorem restored_templateLaw : TemplateLaw (fun a => ∀ s, Restored a s) where
  result := restored_pure
  next ha hf s := (ha s).next hf
  failure := restored_throw
  report := restored_report
  session := restored_get
  setEngine := restored_setEngine
  append := restored_append

theorem restored_declareWith (declaration : Value) {a : Action Unit} (ha : ∀ s, Restored a s)
    (s : Session) : Restored (declareWith declaration a) s :=
  (restored_report _ s).next fun _ _ =>
    (restored_append ((Buffer.isAppend_emitOpen _).comp (Buffer.isAppend_emitRaw " ")) _).next
    fun _ t => (ha t).next fun _ => restored_changeBuffer Buffer.closeValue_depth

theorem restored_nested (place : Nat) (brackets : Brackets) (child : String) (s : Session) :
    Restored (do
      let inner ← beginNested place brackets
      attachNested place inner
      setHandle child inner) s :=
  (restored_beginNested place brackets s).next fun _ _ => (restored_changeForest _ _).next fun _ =>
    restored_setHandle _ _

theorem restored_nestedWith (place : Nat) (brackets : Brackets) (child : String) {a : Action Unit}
    (ha : ∀ s, Restored a s) (s : Session) :
    Restored (do
      let inner ← beginNested place brackets
      setHandle child inner
      a
      attachNested place inner) s :=
  (restored_beginNested place brackets s).next fun _ _ => (restored_setHandle _ _ _).next
    fun _ t => (ha t).next fun _ => restored_changeForest _

theorem restored_snapshot (s : Session) : Restored Op.snapshot.perform s :=
  (restored_changeBuffer Buffer.joined_depth s).next fun _ _ =>
    (restored_get _).next fun _ => restored_pure _

end Action

/-! ## All operations -/

open CxxWriter.Action

/-- Every part of an operation restores the depth, and so does what encloses
    such parts. -/
theorem restoredLaw : Law (fun _ => true) (fun a => ∀ s, Restored a s) (fun a => ∀ s, Restored a s)
    where
  result := restored_pure
  next ha hf s := (ha s).next hf
  failure := restored_throw
  report _ := restored_report _
  reply ha := ha
  discarded ha s := (ha s).next fun _ => restored_pure _
  append := restored_append
  strip _ := restored_changeBuffer Buffer.stripNewlines_depth
  setUnit unit _ := restored_setUnit unit
  snapshot := restored_snapshot
  state s := (restored_get s).next fun _ => restored_pure _
  writeTree := restored_writeTree
  indented ha := Restored.indented ha
  attempt ha s := (ha s).attempt
  noted label _ ha s := (ha s).noted label
  declareWith declaration _ ha := restored_declareWith declaration ha
  placeOf := restored_placeOf
  ask _ s := (restored_get s).next fun _ => restored_pure _
  setHandle := restored_setHandle
  begin _ s := (restored_get s).next fun _ _ => (restored_changeForest _ _).next fun _ =>
    restored_pure _
  addElement place _ s := (restored_checkOpen place s).next fun _ _ =>
    (restored_report _ _).next fun _ => restored_changeForest _
  nested := restored_nested
  nestedWith place brackets child _ ha := restored_nestedWith place brackets child ha
  writeInitializer := restored_writeInitializer
  template op h _ := restored_templateLaw.perform op h

theorem restored_perform (op : Op) (s : Session) : Restored op.perform s :=
  restoredLaw.perform op ((Op.everywhere_of_all fun _ => rfl).1 op) s

theorem restored_performAll (ops : List Op) (s : Session) : Restored (Op.performAll ops) s :=
  restoredLaw.performAll ops ((Op.everywhere_of_all fun _ => rfl).2 ops) s

theorem play_depth (ops : List Op) (s : Session) :
    (s.play ops).session.buffer.depth = s.buffer.depth := by
  induction ops generalizing s with
  | nil => rfl
  | cons op ops ih => exact (ih _).trans (restored_perform op { s with trace := [] }).depth

/-- **Scopes are left as they were entered.**  An operation, wherever it occurs
    in a script, ends at the depth it started at, and no operation in it ends
    below that depth.  If it ends with an error, there is a moment when that
    error was raised, and the text at the end is the one of that moment.  The
    body of a scope ends at the depth inside of the scope, so that leaving the
    scope never stops at zero; and the operations of a script all end at depth
    zero. -/
theorem scopes_left_as_entered :
    (∀ (op : Op) (s : Session),
      (op.perform.apply s).2.buffer.depth = s.buffer.depth ∧
      (∃ notes, (op.perform.apply s).2.trace = s.trace ++ notes ∧
        ∀ n ∈ notes, s.buffer.depth ≤ n.buffer.depth) ∧
      ∀ e, (op.perform.apply s).1 = .error e → (∃ b, op.Raised s e b) ∧
        ∀ b, op.Raised s e b → (op.perform.apply s).2.buffer.text = b.text) ∧
    (∀ (body : List Op) (s : Session),
      ((Op.performAll body).apply { s with buffer := s.buffer.enter }).2.buffer.depth =
        s.buffer.depth + 1) ∧
    ∀ (ops : List Op) (n : Nat) (library : TemplateLibrary) (config : Config) (unit : String)
      (files : Files) (log : Log),
      ((Session.start library config unit files log).play (ops.take n)).session.buffer.depth = 0 := by
  refine ⟨fun op s => ?_, fun body s => (restored_performAll body _).depth, fun ops n _ _ _ _ _ => ?_⟩
  · obtain ⟨hd, hn⟩ := restored_perform op s
    exact ⟨hd, hn, fun e he => ⟨Op.exists_raised.1 op he, fun b hb => hb.fails.2⟩⟩
  · exact play_depth (ops.take n) _

end CxxWriter
