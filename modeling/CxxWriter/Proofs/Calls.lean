/-
  Calls on initializers.

  * a `Call` is a call on the initializer at a place; `Call.rejection?` tells
    whether it is rejected, and why;
  * `Call.perform_rejected`, `Call.perform_accepted`: a call that is rejected leaves
    a record at most, and every other one ends well;
  * `Op.calls`, `Session.calls` are the calls of an operation and of a script, each
    with the session that it finds;
  * `Op.own_rejected`, `Op.ending_rejected`: an operation that makes a call that is
    rejected fails with it, and leaves what the call found.
-/
import CxxWriter.Proofs.Rejection
import CxxWriter.Proofs.Root

namespace CxxWriter

open CxxWriter.Action

/-! ## Calls -/

/-- A call on the initializer at a place. -/
inductive Call where
  | render (place : Nat)
  | element (place : Nat) (code : Value)
  | stringElement (place : Nat) (text : Value)
  /-- A nested composite is begun. -/
  | nested (place : Nat) (brackets : Brackets)

namespace Call

/-- Carries out a call. -/
def perform : Call → Action Unit
  | render place => writeInitializer place
  | element place code => addElement place code
  | stringElement place text => addString place text
  | nested place brackets => discard (beginNested place brackets)

/-- Why a call is rejected, if it is. -/
def rejection? (f : Forest) : Call → Option Error
  | render place =>
    if f.isRoot place then
      if f.isClosed place then some .alreadyWritten else none
    else some .notOutermost
  | element place code =>
    if f.isClosed place then some .alreadyWritten
    else if code.fragment?.isSome then none else some (.unfit code)
  | stringElement place text =>
    if text.fragment?.isSome then
      if f.isClosed place then some .alreadyWritten else none
    else some (.unfit text)
  | nested place _ => if f.isClosed place then some .alreadyWritten else none

/-- What a call that is not rejected makes of the forest. -/
def result (f : Forest) : Call → Forest
  | render place => f.close place
  | element place code => f.attach place (.text (code.fragment?.getD ""))
  | stringElement place text => f.attach place (.text (Literal.ofString (text.fragment?.getD "")))
  | nested place brackets => f.beginUnder place brackets

/-- A string that is no fragment is rejected before the composite is looked at. -/
theorem apply_addString (place : Nat) (text : Value) (s : Session) :
    (addString place text).apply s = match text.fragment? with
      | some t => (addElement place (.text (Literal.ofString t))).apply s
      | none => (.error (.unfit text),
        { s with log := s.log ++ Reporting.rejection text }) := by
  unfold addString
  cases ht : text.fragment? with
  | some t =>
    have hreport : (report (.literal text)).apply s = (.ok (Literal.ofString t), s) :=
      (apply_report_tells (Reporting.tells_literal ht) s).trans (by rw [List.append_nil])
    rw [apply_bind_ok hreport]
  | none => exact apply_bind_error (apply_report_tells (Reporting.tells_literal_none ht) s) _

/-- A call is rejected, with a record at most, or it ends well. -/
theorem apply_perform (c : Call) (s : Session) :
    match c.rejection? s.forest with
    | some e => ∃ records, c.perform.apply s = (.error e, { s with log := s.log ++ records })
    | none => ∃ b log, c.perform.apply s =
        (.ok (), { s with buffer := b, forest := c.result s.forest, log := log }) := by
  have hnone : s = { s with log := s.log ++ [] } := by rw [List.append_nil]
  cases c with
  | render place =>
    rw [perform, apply_writeInitializer, rejection?]
    by_cases hr : s.forest.isRoot place
    · rw [if_pos hr, if_pos hr]
      by_cases hc : s.forest.isClosed place
      · rw [if_pos hc, if_pos hc]
        exact ⟨[], by rw [← hnone]⟩
      · rw [if_neg hc, if_neg hc]
        exact ⟨_, _, rfl⟩
    · rw [if_neg hr, if_neg hr]
      exact ⟨[], by rw [← hnone]⟩
  | element place code =>
    rw [perform, apply_addElement, rejection?]
    by_cases hc : s.forest.isClosed place
    · rw [if_pos hc, if_pos hc]
      exact ⟨[], by rw [← hnone]⟩
    · rw [if_neg hc, if_neg hc]
      cases ht : code.fragment? with
      | some t =>
        refine ⟨s.buffer, s.log, ?_⟩
        rw [result, ht]
        rfl
      | none => exact ⟨_, rfl⟩
  | stringElement place text =>
    rw [perform, apply_addString, rejection?]
    cases ht : text.fragment? with
    | some t =>
      dsimp only [Option.isSome]
      rw [apply_addElement, if_pos rfl]
      by_cases hc : s.forest.isClosed place
      · rw [if_pos hc, if_pos hc]
        exact ⟨[], by rw [← hnone]⟩
      · rw [if_neg hc, if_neg hc]
        refine ⟨s.buffer, s.log, ?_⟩
        rw [result, ht]
        rfl
    | none => exact ⟨_, rfl⟩
  | nested place brackets =>
    have hbegin := apply_beginNested place brackets s
    rw [perform, rejection?, discard_eq]
    by_cases hc : s.forest.isClosed place
    · rw [if_pos hc] at hbegin ⊢
      rw [apply_bind_error hbegin]
      exact ⟨[], by rw [← hnone]⟩
    · rw [if_neg hc] at hbegin ⊢
      rw [apply_bind_ok hbegin]
      exact ⟨s.buffer, s.log, rfl⟩

variable {c : Call} {s : Session} {e : Error}

/-- **A call that is rejected changes nothing.** -/
theorem perform_rejected (h : c.rejection? s.forest = some e) :
    ∃ records, c.perform.apply s = (.error e, { s with log := s.log ++ records }) := by
  have hc := c.apply_perform s
  rwa [h] at hc

theorem perform_accepted (h : c.rejection? s.forest = none) : ∃ b log, c.perform.apply s =
    (.ok (), { s with buffer := b, forest := c.result s.forest, log := log }) := by
  have hc := c.apply_perform s
  rwa [h] at hc

end Call

/-! ## The calls of a run -/

/-- A call on what a handle names, if it names something. -/
def Session.callOn (s : Session) (handle : String) (c : Nat → Call) : List (Call × Session) :=
  match s.placeOf? handle with
  | some place => [(c place, s)]
  | none => []

namespace Op

/-- The calls that an operation makes before its body, if it has one. -/
def ownCalls (s : Session) : Op → List (Call × Session)
  | .element handle code => s.callOn handle (.element · code)
  | .stringElement handle text => s.callOn handle (.stringElement · text)
  | .nested handle brackets _ | .nestedWith handle brackets _ _ => s.callOn handle (.nested · brackets)
  | .writeInitializer handle => s.callOn handle .render
  | .declareInitializer declaration handle =>
    -- the declaration stands in front of the tree
    match declaration.fragment? with
    | some d => ({ s with
        buffer := (s.buffer.emitOpen (d ++ " =")).emitRaw " " } : Session).callOn handle .render
    | none => []
  | _ => []

/-- The calls that an operation makes after its body: an initializer that has been built is
    written. -/
def endingCalls (s : Session) : Op → List (Call × Session)
  | .initializer brackets handle body =>
    match (performAll body).apply ((initializer brackets handle body).opening.apply s).2 with
    | (.ok (), u) => [(.render s.forest.size, u)]
    | (.error _, _) => []
  | _ => []

mutual

/-- The calls of an operation, each with the session that it finds. -/
def calls (op : Op) (s : Session) : List (Call × Session) :=
  match op with
  | .noted _ op => op.calls s
  | .indented body _ | .attempt body | .guarded _ body | .struct _ body | .typedefStruct _ body
  | .function _ body | .constructor _ _ body | .declareWith _ body | .nestedWith _ _ _ body
  | .initializer _ _ body =>
    op.ownCalls s ++ (match op.opening.apply s with
      | (.ok _, t) => allCalls body t
      | (.error _, _) => []) ++ op.endingCalls s
  | op => op.ownCalls s

/-- The calls of operations in order, up to the first that fails. -/
def allCalls : List Op → Session → List (Call × Session)
  | [], _ => []
  | op :: ops, s =>
    op.calls s ++
      match op.perform.apply s with
      | (.ok _, t) => allCalls ops t
      | (.error _, _) => []

end

theorem calls_compound {op : Op} (h : op.isCompound = true) (s : Session) :
    op.calls s = op.ownCalls s ++ (match op.opening.apply s with
      | (.ok _, t) => allCalls op.body t
      | (.error _, _) => []) ++ op.endingCalls s := by
  cases op <;> first | rfl | cases h

theorem calls_simple {op : Op} (h : op.isSimple = true) (s : Session) : op.calls s = op.ownCalls s := by
  cases op <;> first | rfl | cases h

end Op

/-- The calls of a script that goes on after errors. -/
def Session.calls : List Op → Session → List (Call × Session)
  | [], _ => []
  | op :: ops, s =>
    op.calls { s with trace := [] } ++ calls ops (op.perform.apply { s with trace := [] }).2

/-- The root that a call succeeds to render. -/
def Call.rendered? : Call × Session → Option Nat
  | (.render place, s) => if ((render place).perform.apply s).1.isOk then some place else none
  | _ => none

/-! ## Rejected calls -/

namespace Op

variable {s : Session} {call : Call × Session} {e : Error}

theorem mem_callOn {handle : String} {c : Nat → Call} :
    call ∈ s.callOn handle c ↔ ∃ place, s.placeOf? handle = some place ∧ call = (c place, s) := by
  unfold Session.callOn
  cases s.placeOf? handle <;> simp

theorem apply_beginNested_rejected {place : Nat} {brackets : Brackets}
    (h : (Call.nested place brackets).rejection? s.forest = some e) :
    (beginNested place brackets).apply s = (.error e, s) := by
  rw [Call.rejection?] at h
  rw [apply_beginNested]
  split at h
  · next hc =>
    cases h
    rw [if_pos hc]
  · cases h

/-- An operation that makes a rejected call before its body fails, and leaves what the call
    found. -/
theorem own_rejected {op : Op} (hcall : call ∈ op.ownCalls s)
    (h : call.1.rejection? call.2.forest = some e) :
    ∃ records, op.perform.apply s = (.error e, { call.2 with log := call.2.log ++ records }) := by
  have hsilent {c : Nat → Call} {handle : String} {place : Nat}
      (hplace : s.placeOf? handle = some place) (hc : (c place).rejection? s.forest = some e) :
      ∃ records, (placeOf handle >>= fun place => silent (c place).perform).apply s =
        (.error e, { s with log := s.log ++ records }) := by
    obtain ⟨records, hrun⟩ := Call.perform_rejected hc
    exact ⟨records, (apply_bind_ok (apply_placeOf_some hplace) _).trans (apply_bind_error hrun _)⟩
  have hbegin {handle : String} {place : Nat} {brackets : Brackets} {f : Nat → Nat → Action Reply}
      (hplace : s.placeOf? handle = some place)
      (hc : (Call.nested place brackets).rejection? s.forest = some e) :
      ∃ records, (placeOf handle >>= fun place => beginNested place brackets >>= f place).apply s =
        (.error e, { s with log := s.log ++ records }) := by
    refine ⟨[], (apply_bind_ok (apply_placeOf_some hplace) _).trans ?_⟩
    rw [apply_bind_error (apply_beginNested_rejected hc), List.append_nil]
  cases op with
  | element handle code =>
    obtain ⟨place, hplace, rfl⟩ := mem_callOn.1 hcall
    exact hsilent (c := (.element · code)) hplace h
  | stringElement handle text =>
    obtain ⟨place, hplace, rfl⟩ := mem_callOn.1 hcall
    exact hsilent (c := (.stringElement · text)) hplace h
  | writeInitializer handle =>
    obtain ⟨place, hplace, rfl⟩ := mem_callOn.1 hcall
    exact hsilent (c := .render) hplace h
  | nested | nestedWith =>
    obtain ⟨place, hplace, rfl⟩ := mem_callOn.1 hcall
    exact hbegin hplace h
  | declareInitializer declaration handle =>
    rw [ownCalls] at hcall
    cases hd : declaration.fragment? with
    | none =>
      rw [hd] at hcall
      cases hcall
    | some d =>
      rw [hd] at hcall
      obtain ⟨place, hplace, rfl⟩ := mem_callOn.1 hcall
      have hplace : s.placeOf? handle = some place := hplace
      obtain ⟨records, hrun⟩ := Call.perform_rejected h
      refine ⟨records, (apply_bind_ok (apply_placeOf_some hplace) _).trans (apply_bind_error ?_ _)⟩
      exact (apply_bind_ok (apply_fragment hd s) _).trans <|
        (apply_bind_ok (apply_changeBuffer _ s) _).trans (apply_bind_error hrun _)
  | _ => cases hcall

/-- What an initializer is built by comes before it is written. -/
theorem apply_initializer {brackets : Brackets} {handle : String} {body : List Op} {u : Session}
    (h : (performAll body).apply ((initializer brackets handle body).opening.apply s).2 = (.ok (), u)) :
    (initializer brackets handle body).perform.apply s =
      (silent (Action.writeInitializer s.forest.size)).apply u :=
  (apply_bind_ok (apply_beginInitializer brackets s) _).trans <|
    (apply_bind_ok (apply_setHandle handle _ _) _).trans (apply_bind_ok h _)

theorem ending_rejected {op : Op} (hcall : call ∈ op.endingCalls s)
    (h : call.1.rejection? call.2.forest = some e) :
    ∃ records, op.perform.apply s = (.error e, { call.2 with log := call.2.log ++ records }) := by
  cases op with
  | initializer brackets handle body =>
    rw [endingCalls] at hcall
    split at hcall
    · next u hbody =>
      rw [List.mem_singleton] at hcall
      subst hcall
      obtain ⟨records, hrun⟩ := Call.perform_rejected h
      exact ⟨records, (apply_initializer hbody).trans (apply_bind_error hrun _)⟩
    · cases hcall
  | _ => cases hcall

end Op

end CxxWriter
