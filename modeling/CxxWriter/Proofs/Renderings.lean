/-
  Roots are written once.

  * `Spares a`: the action writes no root.  Operations spare all roots but where they
    render: `spares_simple`, `spares_opening`, `spares_ending`;
  * `WrittenOnce f g roots`: on the way from `f` to `g`, the composites at `roots`
    have been written, each once, and no others;
  * `writes_calls`, `Session.writes_play`: so it is for an operation, and for a
    script, with the roots that their calls succeed to render;
  * `roots_written_once`: besides, calls that are rejected change nothing.
-/
import CxxWriter.Proofs.Calls
import CxxWriter.Proofs.Completed

namespace CxxWriter

open CxxWriter.Action

/-! ## What writes no root -/

namespace Action

variable {α β : Type}

/-- Is it left as it is which composites have been written? -/
def Spares (a : Action α) : Prop :=
  ∀ s p, (a.apply s).2.forest.isWritten p = s.forest.isWritten p

theorem Aloof.spares {a : Action α} (h : Aloof a) : Spares a := fun s p => by rw [(h s).2]

theorem Spares.next {a : Action α} {f : α → Action β} (ha : Spares a) (hf : ∀ x, Spares (f x)) :
    Spares (a >>= f) := fun s p =>
  bind_keeps (·.forest.isWritten p) (fun s => ha s p) (fun x s => hf x s p) s

theorem spares_setHandle (handle : String) (place : Nat) : Spares (setHandle handle place) :=
  fun _ _ => rfl

theorem spares_beginInitializer (brackets : Brackets) : Spares (beginInitializer brackets) :=
  fun s p => (Forest.Enlarged.add s.forest rfl).written p

theorem spares_attachNested (place child : Nat) : Spares (attachNested place child) :=
  fun s p => (Forest.Enlarged.attach s.forest place _).written p

theorem spares_beginNested (place : Nat) (brackets : Brackets) : Spares (beginNested place brackets) := by
  intro s p
  rw [apply_beginNested]
  split
  · rfl
  · exact (Forest.Enlarged.add s.forest rfl).written p

theorem spares_addElement (place : Nat) (code : Value) : Spares (addElement place code) := by
  intro s p
  rw [apply_addElement]
  split
  · rfl
  · split
    · exact (Forest.Enlarged.attach s.forest place _).written p
    · rfl

theorem spares_addString (place : Nat) (text : Value) : Spares (addString place text) :=
  (aloof_report _).spares.next fun _ => spares_addElement place _

/-- Operations without others in them write no root but by rendering what a handle names. -/
theorem spares_simple {op : Op} (hs : op.isSimple = true) (hr : op.renders = false) :
    Spares op.perform := by
  have hsilent {a : Action Unit} (ha : Spares a) : Spares (Op.silent a) :=
    ha.next fun _ => (aloof_pure _).spares
  cases hb : op.builds with
  | false => exact (aloof_perform hs hb hr).spares
  | true =>
    cases op with
    | beginInitializer brackets handle =>
      exact (spares_beginInitializer brackets).next fun place => hsilent (spares_setHandle handle place)
    | element handle code =>
      exact (aloof_placeOf handle).spares.next fun place => hsilent (spares_addElement place code)
    | stringElement handle text =>
      exact (aloof_placeOf handle).spares.next fun place => hsilent (spares_addString place text)
    | nested handle brackets child =>
      exact (aloof_placeOf handle).spares.next fun place => (spares_beginNested place brackets).next
        fun inner => (spares_attachNested place inner).next fun _ => hsilent (spares_setHandle child inner)
    | nestedWith | initializer => cases hs
    | _ => cases hb

/-- What comes before a body writes no root. -/
theorem spares_opening {op : Op} (hc : op.isCompound = true) : Spares op.opening := by
  cases hb : op.builds with
  | false => exact (apart_opening hc hb).opening.spares
  | true =>
    cases op with
    | initializer brackets handle body =>
      exact (spares_beginInitializer brackets).next fun place => (spares_setHandle handle place).next
        fun _ => (aloof_pure _).spares
    | nestedWith handle brackets child body =>
      exact (aloof_placeOf handle).spares.next fun place => (spares_beginNested place brackets).next
        fun inner => (spares_setHandle child inner).next fun _ => (aloof_pure _).spares
    | beginInitializer | element | stringElement | nested => cases hc
    | _ => cases hb

/-- What comes after it writes none unless it renders what has been built. -/
theorem spares_ending {op : Op} (hc : op.isCompound = true) (hr : op.renders = false) {s t : Session}
    {ending : Ending} (ho : op.opening.apply s = (.ok ending, t)) : Spares ending.perform := by
  cases hb : op.builds with
  | false => exact ((apart_opening hc hb).ending (congrArg (·.1) ho)).spares
  | true =>
    cases op with
    | nestedWith handle brackets child body =>
      rcases Op.opening_nestedWith handle brackets child body s with
        ⟨e, ho'⟩ | ⟨place, ending, t, -, ho', -, hperform⟩
      · rw [ho'] at ho
        cases ho
      · rw [ho'] at ho
        cases ho
        intro u p
        rw [hperform]
        exact (Forest.Enlarged.attach u.forest place _).written p
    | initializer => cases hr
    | beginInitializer | element | stringElement | nested => cases hc
    | _ => cases hb

end Action

/-! ## What is written once -/

namespace Forest

variable {f : Forest} {p q : Nat}

theorem rootOf?_of_isRoot (h : f.isRoot q = true) : f.rootOf? q = some q := by
  rw [isRoot_eq, Option.any_eq_true] at h
  obtain ⟨r, hr, hq⟩ := h
  rw [hr, eq_of_beq hq]

/-- Closing a root writes it and nothing else. -/
theorem isWritten_close (h : f.isRoot q = true) :
    (f.close q).isWritten p = true ↔ f.isWritten p = true ∨ p = q := by
  rw [isWritten, isWritten, get?_close, Option.any_map]
  by_cases hq : q = p
  · subst hq
    obtain ⟨c, hc, -⟩ := Option.map_eq_some_iff.1 (rootOf?_of_isRoot h)
    simp [hc]
  · simp [hq, Ne.symm hq]

end Forest

/-- Have the composites at `roots` been written, each once, and no others, on the way from `f` to
    `g`? -/
structure WrittenOnce (f g : Forest) (roots : List Nat) : Prop where
  nodup : roots.Nodup
  fresh : ∀ p ∈ roots, f.isWritten p = false
  written : ∀ p, g.isWritten p = true ↔ f.isWritten p = true ∨ p ∈ roots

namespace WrittenOnce

variable {f g h : Forest} {ps qs : List Nat}

theorem nothing (hfg : ∀ p, g.isWritten p = f.isWritten p) : WrittenOnce f g [] where
  nodup := List.nodup_nil
  fresh _ hp := absurd hp List.not_mem_nil
  written p := by
    rw [hfg p]
    exact (or_iff_left List.not_mem_nil).symm

/-- One way after the other: what has been written stays so, and is not written again. -/
theorem append (hfg : WrittenOnce f g ps) (hgh : WrittenOnce g h qs) : WrittenOnce f h (ps ++ qs) where
  nodup := by
    refine List.nodup_append.2 ⟨hfg.nodup, hgh.nodup, ?_⟩
    rintro p hp _ hq rfl
    exact absurd ((hfg.written p).2 (.inr hp)) (Bool.eq_false_iff.1 (hgh.fresh p hq))
  fresh p hp := by
    rcases List.mem_append.1 hp with hp | hp
    · exact hfg.fresh p hp
    · exact Bool.eq_false_iff.2 fun hf =>
        Bool.eq_false_iff.1 (hgh.fresh p hp) ((hfg.written p).2 (.inl hf))
  written p := by rw [hgh.written, hfg.written, or_assoc, List.mem_append]

end WrittenOnce

/-- The roots that calls succeed to render. -/
def Call.renderings (calls : List (Call × Session)) : List Nat := calls.filterMap Call.rendered?

namespace Action

variable {α β : Type}

/-- Is it `roots` that an action writes from a session on? -/
def WritesRoots (a : Action α) (s : Session) (roots : List Nat) : Prop :=
  WrittenOnce s.forest (a.apply s).2.forest roots

theorem Spares.writes {a : Action α} (h : Spares a) (s : Session) : WritesRoots a s [] := .nothing (h s)

theorem WritesRoots.before {a : Action α} {f : α → Action β} {s : Session} {roots : List Nat}
    (ha : WritesRoots a s roots) (hf : ∀ x, Spares (f x)) : WritesRoots (a >>= f) s roots := by
  rw [WritesRoots] at ha ⊢
  rcases h : a.apply s with ⟨_ | x, t⟩
  · rw [h] at ha
    rw [apply_bind_error h]
    exact ha
  · rw [h] at ha
    rw [apply_bind_ok h, ← List.append_nil roots]
    exact ha.append (.nothing (hf x t))

theorem WritesRoots.after {a : Action α} {f : α → Action β} {s t : Session} {x : α} {roots : List Nat}
    (ha : a.apply s = (.ok x, t)) (ht : t.forest = s.forest) (h : WritesRoots (f x) t roots) :
    WritesRoots (a >>= f) s roots := by
  rw [WritesRoots, apply_bind_ok ha, ← ht]
  exact h

theorem WritesRoots.failed {a : Action α} {f : α → Action β} {s t : Session} {e : Error}
    (ha : a.apply s = (.error e, t)) (ht : t.forest = s.forest) : WritesRoots (a >>= f) s [] := by
  rw [WritesRoots, apply_bind_error ha, ht]
  exact .nothing fun _ => rfl

/-- Rendering writes a root if it succeeds. -/
theorem writes_render (place : Nat) (s : Session) :
    WritesRoots (writeInitializer place) s (Call.renderings [(.render place, s)]) := by
  have hrun := apply_writeInitializer place s
  rw [WritesRoots, Call.renderings, List.filterMap_cons, Call.rendered?]
  by_cases hr : s.forest.isRoot place
  · rw [if_pos hr] at hrun
    by_cases hc : s.forest.isClosed place
    · rw [if_pos hc] at hrun
      rw [Call.perform, hrun]
      exact .nothing fun _ => rfl
    · rw [if_neg hc] at hrun
      rw [Call.perform, hrun]
      show WrittenOnce s.forest (s.forest.close place) [place]
      refine ⟨List.nodup_singleton _, fun p hp => ?_, fun p => ?_⟩
      · rw [Forest.isClosed_eq, Forest.rootOf?_of_isRoot hr] at hc
        rw [List.mem_singleton.1 hp]
        exact Bool.eq_false_iff.2 hc
      · rw [List.mem_singleton]
        exact Forest.isWritten_close hr
  · rw [if_neg hr] at hrun
    rw [Call.perform, hrun]
    exact .nothing fun _ => rfl

end Action

namespace Op

variable {s : Session}

theorem renderings_callOn {handle : String} {c : Nat → Call}
    (h : ∀ place, Call.rendered? (c place, s) = none) : Call.renderings (s.callOn handle c) = [] := by
  unfold Session.callOn
  cases s.placeOf? handle with
  | none => rfl
  | some place =>
    rw [Call.renderings, List.filterMap_cons, h]
    rfl

/-- Nothing is rendered before a body, or by an operation that writes no root. -/
theorem renderings_ownCalls {op : Op} (h : op.isCompound = true ∨ op.renders = false) :
    Call.renderings (op.ownCalls s) = [] := by
  cases op with
  | element | stringElement | nested | nestedWith => exact renderings_callOn fun _ => rfl
  | writeInitializer | declareInitializer => rcases h with h | h <;> cases h
  | _ => rfl

/-- A call on what a handle names writes nothing if it names nothing. -/
theorem writes_placed {handle : String} {f : Nat → Action Reply} {u : Session} {c : Nat → Call}
    (hu : u.handles = s.handles)
    (h : ∀ place, WritesRoots (f place) s (Call.renderings [(c place, u)])) :
    WritesRoots (placeOf handle >>= f) s (Call.renderings (u.callOn handle c)) := by
  have hplace : u.placeOf? handle = s.placeOf? handle := by rw [Session.placeOf?, hu, Session.placeOf?]
  rw [Session.callOn, hplace]
  cases hp : s.placeOf? handle with
  | none => exact .failed (apply_placeOf_none hp) rfl
  | some place => exact .after (apply_placeOf_some hp) rfl (h place)

theorem writes_simple {op : Op} (hs : op.isSimple = true) (s : Session) :
    WritesRoots op.perform s (Call.renderings (op.calls s)) := by
  rw [calls_simple hs]
  cases hr : op.renders with
  | false =>
    rw [renderings_ownCalls (.inr hr)]
    exact (spares_simple hs hr).writes s
  | true =>
    have hsilent {a : Action Unit} {t : Session} {roots : List Nat} (h : WritesRoots a t roots) :
        WritesRoots (silent a) t roots := h.before fun _ => (aloof_pure _).spares
    cases op with
    | writeInitializer handle => exact writes_placed rfl fun place => hsilent (writes_render place s)
    | declareInitializer declaration handle =>
      rw [ownCalls]
      cases hfrag : declaration.fragment? with
      | none =>
        have hreport := apply_report_tells (Reporting.tells_fragment_none hfrag) s
        cases hp : s.placeOf? handle with
        | none => exact .failed (apply_placeOf_none hp) rfl
        | some place => exact .after (apply_placeOf_some hp) rfl (hsilent (.failed hreport rfl))
      | some d =>
        refine writes_placed rfl fun place => hsilent ?_
        refine .after (apply_fragment hfrag s) rfl (.after (apply_changeBuffer _ s) rfl ?_)
        exact (writes_render place _).before fun _ => (aloof_changeBuffer _).spares
    | initializer => cases hs
    | _ => cases hr

/-- What an operation renders after its body, if it comes that far. -/
theorem writes_ending {op : Op} (hc : op.isCompound = true) {ending : Ending} {t u : Session}
    {outcome : Except Error Unit} (ho : op.opening.apply s = (.ok ending, t))
    (hb : (performAll op.body).apply t = (outcome, u)) :
    match outcome with
    | .ok () => WritesRoots ending.perform u (Call.renderings (op.endingCalls s))
    | .error _ => op.endingCalls s = [] := by
  cases hr : op.renders with
  | false =>
    have hnone : op.endingCalls s = [] := by cases op <;> first | rfl | cases hr
    rw [hnone]
    cases outcome with
    | error e => rfl
    | ok => exact (spares_ending hc hr ho).writes u
  | true =>
    cases op with
    | initializer brackets handle body =>
      have hbody : (performAll body).apply
          ((initializer brackets handle body).opening.apply s).2 = (outcome, u) := by
        rw [ho]
        exact hb
      rw [endingCalls, hbody]
      cases outcome with
      | error e => rfl
      | ok =>
        have hp := perform_body_ok ho hb
        rw [apply_initializer hbody] at hp
        dsimp only at hp ⊢
        rw [WritesRoots, ← hp]
        exact (writes_render _ u).before fun _ => (aloof_pure _).spares
    | writeInitializer | declareInitializer => cases hc
    | _ => cases hr

theorem endingCalls_of_failed {op : Op} {e : Error} {t : Session}
    (ho : op.opening.apply s = (.error e, t)) : op.endingCalls s = [] := by
  cases op with
  | initializer => cases ho
  | _ => rfl

/-- An operation writes the roots that it renders, if its body does. -/
theorem writes_compound {op : Op} (hc : op.isCompound = true)
    (ih : ∀ t, WritesRoots (performAll op.body) t (Call.renderings (allCalls op.body t))) (s : Session) :
    WritesRoots op.perform s (Call.renderings (op.calls s)) := by
  have hown : Call.renderings (op.ownCalls s) = [] := renderings_ownCalls (.inl hc)
  have hopen := (spares_opening hc).writes s
  rw [calls_compound hc, Call.renderings, List.filterMap_append, List.filterMap_append]
  show WritesRoots op.perform s (Call.renderings (op.ownCalls s) ++ _ ++ _)
  rw [hown, List.nil_append]
  rw [WritesRoots] at hopen ⊢
  rcases ho : op.opening.apply s with ⟨e | ending, t⟩
  · rw [ho] at hopen
    rw [perform_opening_error ho, endingCalls_of_failed ho]
    exact hopen
  · rw [ho] at hopen
    have hbody := ih t
    rw [WritesRoots] at hbody
    rcases hb : (performAll op.body).apply t with ⟨e | _, u⟩
    · rw [hb] at hbody
      rw [perform_body_error ho hb, unwind_forest, writes_ending hc ho hb, List.filterMap_nil,
        List.append_nil]
      exact hopen.append hbody
    · rw [hb] at hbody
      rw [perform_body_ok ho hb]
      exact (hopen.append hbody).append (writes_ending hc ho hb)

/-- Every operation writes the roots that it renders, each once, and no others. -/
theorem writes_calls :
    (∀ (op : Op) s, WritesRoots op.perform s (Call.renderings (op.calls s))) ∧
    ∀ (ops : List Op) s, WritesRoots (performAll ops) s (Call.renderings (allCalls ops s)) := by
  refine Op.induction ?noted (fun op hc ih s => writes_compound hc ih s)
    (fun op hs s => writes_simple hs s) ?nil ?cons
  case noted =>
    intro label op ih s
    rw [WritesRoots, perform, apply_noted]
    exact ih s
  case nil => exact fun s => .nothing fun _ => rfl
  case cons =>
    intro op ops ih ihs s
    have hop := ih s
    rw [WritesRoots] at hop ⊢
    rw [allCalls, Call.renderings, List.filterMap_append]
    rcases ho : op.perform.apply s with ⟨_ | x, t⟩
    · rw [ho] at hop
      rw [apply_performAll_cons_error ho, List.filterMap_nil, List.append_nil]
      exact hop
    · rw [ho] at hop
      rw [apply_performAll_cons ho]
      exact hop.append (ihs t)

end Op

/-- So does every script. -/
theorem Session.writes_play (ops : List Op) (s : Session) :
    WrittenOnce s.forest (s.play ops).session.forest (Call.renderings (s.calls ops)) := by
  induction ops generalizing s with
  | nil => exact .nothing fun _ => rfl
  | cons op ops ih =>
    rw [play, calls, Call.renderings, List.filterMap_append]
    exact (Op.writes_calls.1 op { s with trace := [] }).append (ih _)

/-- **Every root is rendered at most once, and calls that are rejected change nothing.**  The roots
    that a script succeeds to render are different from each other, none has been written before,
    and with them exactly these have been in the end.  A call on an initializer that is not
    rejected ends well; one that is fails, and the session is as it was but for records.  An
    operation that makes such a call fails with it, and leaves what the call found. -/
theorem roots_written_once (ops : List Op) (s : Session) :
    WrittenOnce s.forest (s.play ops).session.forest (Call.renderings (s.calls ops)) ∧
    (∀ (c : Call) (t : Session), match c.rejection? t.forest with
      | some e => ∃ records, c.perform.apply t = (.error e, { t with log := t.log ++ records })
      | none => (c.perform.apply t).1 = .ok ()) ∧
    ∀ (op : Op) (t : Session), ∀ call ∈ op.ownCalls t ++ op.endingCalls t, ∀ e,
      call.1.rejection? call.2.forest = some e →
      ∃ records, op.perform.apply t = (.error e, { call.2 with log := call.2.log ++ records }) := by
  refine ⟨s.writes_play ops, fun c t => ?_, fun op t call hcall e he => ?_⟩
  · cases h : c.rejection? t.forest with
    | some e => exact Call.perform_rejected h
    | none =>
      obtain ⟨b, log, hrun⟩ := Call.perform_accepted h
      exact congrArg (·.1) hrun
  · rcases List.mem_append.1 hcall with hown | hending
    · exact Op.own_rejected hown he
    · exact Op.ending_rejected hending he

/-- A nested composite cannot be rendered, its root only once, and then it takes no more
    elements. -/
theorem roots_written_once_nested :
    let s := Session.start .empty Config.default "\t" Files.empty []
    let ops := [Op.beginInitializer .array "a", .nested "a" .struct "b", .writeInitializer "b",
      .writeInitializer "a", .writeInitializer "a", .element "b" (.text "1")]
    let t := (s.play ops).session
    let late := Op.element "b" (.text "2")
    WrittenOnce s.forest t.forest [0] ∧
    late.ownCalls t = [(.element 1 (.text "2"), t)] ∧
    ∃ records, late.perform.apply t = (.error .alreadyWritten, { t with log := t.log ++ records }) := by
  intro s ops t late
  have hroots : Call.renderings (s.calls ops) = [0] := by decide +kernel
  have hplace : t.placeOf? "b" = some 1 := by decide +kernel
  have hclosed : t.forest.isClosed 1 = true := by decide +kernel
  obtain ⟨hwritten, -, hrejected⟩ := roots_written_once ops s
  rw [hroots] at hwritten
  have hwritten : WrittenOnce s.forest t.forest [0] := hwritten
  clear_value t
  have hcalls : late.ownCalls t = [(.element 1 (.text "2"), t)] := by
    rw [Op.ownCalls, Session.callOn, hplace]
  refine ⟨hwritten, hcalls, hrejected late t (.element 1 (.text "2"), t) ?_ .alreadyWritten ?_⟩
  · rw [hcalls]
    exact List.mem_cons_self
  · rw [Call.rejection?, if_pos hclosed]

end CxxWriter
