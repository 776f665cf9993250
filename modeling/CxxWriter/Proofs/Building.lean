/-
  What runs make of a forest.

  * `Session.Sound s es`: the initializers of a session are what the events `es`
    made of them;
  * `settlesFrom_events`: an operation only settles composites that were begun
    in it, so that the composite a block builds is still unsettled when the
    block ends;
  * `sound_events`, `Reached.sound`: every operation, and every run, makes of a
    forest what its events say.
-/
import CxxWriter.Proofs.Sound
import CxxWriter.Proofs.Written

namespace CxxWriter

open Event

/-! ## Runs -/

/-- Is a session what events made of it? -/
structure Session.Sound (s : Session) (es : List Event) : Prop where
  forest : s.forest.Sound es
  handles : ∀ e ∈ s.handles, e.2 < s.forest.size

namespace Session.Sound

open CxxWriter.Action

variable {s t : Session} {es : List Event} {handle : String} {place : Nat}

theorem start (library : TemplateLibrary) (config : Config) (unit : String) (files : Files) (log : Log) :
    (Session.start library config unit files log).Sound [] :=
  ⟨.empty, fun _ h => absurd h List.not_mem_nil⟩

theorem placeOf?_lt (h : s.Sound es) (hp : s.placeOf? handle = some place) :
    place < s.forest.size := by
  obtain ⟨e, he, rfl⟩ := Option.map_eq_some_iff.1 hp
  exact h.handles e (List.mem_of_find?_eq_some he)

theorem setHandle (hf : s.forest.Sound es) (hh : ∀ e ∈ s.handles, e.2 < s.forest.size)
    (hp : place < s.forest.size) (handle : String) :
    Session.Sound
      { s with handles := (handle, place) :: s.handles.filter (·.1 != handle) } es := by
  refine ⟨hf, fun e he => ?_⟩
  rcases List.mem_cons.1 he with rfl | he
  · exact hp
  · exact hh e (List.mem_of_mem_filter he)

theorem still {a : Action α} (h : s.Sound es) (ha : Still a) : (a.apply s).2.Sound es := by
  obtain ⟨hh, hf⟩ := ha s
  have hsize : (a.apply s).2.forest.size = s.forest.size := by
    simpa [Forest.unwritten, Forest.size] using congrArg (·.composites.length) hf
  refine ⟨h.forest.congr hf, ?_⟩
  rw [hh, hsize]
  exact h.handles

end Session.Sound

namespace Action

theorem apply_placeOf_some {s : Session} {handle : String} {place : Nat}
    (h : s.placeOf? handle = some place) : (placeOf handle).apply s = (.ok place, s) := by
  obtain ⟨e, he, rfl⟩ := Option.map_eq_some_iff.1 h
  rw [apply_placeOf, he]

theorem apply_placeOf_none {s : Session} {handle : String} (h : s.placeOf? handle = none) :
    (placeOf handle).apply s = (.error .unknownHandle, s) := by
  rw [apply_placeOf, Option.map_eq_none_iff.1 h]

end Action

namespace Op

open CxxWriter.Action

variable {s : Session} {es : List Event}

theorem sound_beginInitializer (h : s.Sound es) (brackets : Brackets) (handle : String) :
    ((beginInitializer brackets handle).perform.apply s).2.Sound
      (es ++ (beginInitializer brackets handle).events s) := by
  have hsize := Forest.size_begin s.forest brackets
  refine .setHandle (s := { s with forest := s.forest.begin brackets }) (h.forest.begin brackets)
    (fun e he => ?_) ?_ handle
  · have hlt := h.handles e he
    show e.2 < (s.forest.begin brackets).size
    omega
  · show s.forest.size < (s.forest.begin brackets).size
    omega

theorem elementEvents_some {handle : String} {place : Nat} (h : s.placeOf? handle = some place)
    (t : String) : elementEvents s handle (some t) = [.accepted place (.text t)] := by
  simp [elementEvents, h]

theorem attachEvents_some {handle : String} {place : Nat} (h : s.placeOf? handle = some place) :
    attachEvents s handle = [.accepted place (.composite s.forest.size)] := by
  simp [attachEvents, h]

/-- A fragment that a composite gets. -/
theorem sound_addElement (h : s.Sound es) {handle : String} {place : Nat}
    (hp : s.placeOf? handle = some place) (code : Value) :
    ((addElement place code).apply s).2.Sound (es ++ match ((addElement place code).apply s).1 with
      | .ok _ => elementEvents s handle code.fragment?
      | .error _ => []) := by
  rw [apply_addElement]
  split
  · rw [List.append_nil]
    exact h
  · cases code.fragment? with
    | none =>
      rw [List.append_nil]
      exact ⟨h.forest, h.handles⟩
    | some t =>
      dsimp only
      rw [elementEvents_some hp]
      have hk := h.forest.exists_begun (h.placeOf?_lt hp)
      refine ⟨h.forest.attach hk nofun, fun e he => ?_⟩
      rw [Forest.size_attach]
      exact h.handles e he

/-- An action that a handle is looked up for. -/
theorem sound_placed (h : s.Sound es) {handle : String} {f : Nat → Action Unit}
    {own : List Event}
    (hf : ∀ place, s.placeOf? handle = some place → ((f place).apply s).2.Sound
      (es ++ match ((f place).apply s).1 with
        | .ok _ => own
        | .error _ => [])) :
    ((placeOf handle >>= fun place => silent (f place)).apply s).2.Sound
      (es ++ match ((placeOf handle >>= fun place => silent (f place)).apply s).1 with
        | .ok _ => own
        | .error _ => []) := by
  cases hp : s.placeOf? handle with
  | none =>
    rw [apply_bind_error (apply_placeOf_none hp), List.append_nil]
    exact h
  | some place =>
    have hs := hf place hp
    rw [apply_bind_ok (apply_placeOf_some hp), silent]
    rcases hr : (f place).apply s with ⟨_ | _, t⟩
    · rw [hr] at hs
      rw [apply_bind_error hr]
      exact hs
    · rw [hr] at hs
      rw [apply_bind_ok hr]
      exact hs

theorem sound_element (h : s.Sound es) (handle : String) (code : Value) :
    ((element handle code).perform.apply s).2.Sound (es ++ (element handle code).events s) :=
  sound_placed h fun _ hp => sound_addElement h hp code

theorem sound_stringElement (h : s.Sound es) (handle : String) (text : Value) :
    ((stringElement handle text).perform.apply s).2.Sound
      (es ++ (stringElement handle text).events s) := by
  refine sound_placed h fun place hp => ?_
  cases hf : text.fragment? with
  | none =>
    rw [addString, apply_bind_error (apply_report_tells (Reporting.tells_literal_none hf) s),
      List.append_nil]
    exact ⟨h.forest, h.handles⟩
  | some t =>
    rw [addString, apply_bind_ok (apply_report_tells (Reporting.tells_literal hf) s), ownEvents, hf,
      List.append_nil]
    exact sound_addElement h hp (.text (Literal.ofString t))

/-- A composite that is begun below another one. -/
theorem sound_beginNested (h : s.Sound es) {place : Nat} (hp : place < s.forest.size)
    (brackets : Brackets) (child : String) :
    Session.Sound { s with
      forest := s.forest.beginUnder place brackets
      handles := (child, s.forest.size) :: s.handles.filter (·.1 != child) }
      (es ++ [.begun s.forest.size (some place) brackets]) := by
  have hsize := Forest.size_beginUnder s.forest place brackets
  refine .setHandle (s := { s with forest := s.forest.beginUnder place brackets })
    (h.forest.beginUnder hp brackets) (fun e he => ?_) ?_ child
  · have hlt := h.handles e he
    show e.2 < (s.forest.beginUnder place brackets).size
    omega
  · show s.forest.size < (s.forest.beginUnder place brackets).size
    omega

/-- A composite that is not settled becomes an element of its parent. -/
theorem sound_attachNested (h : s.Sound es) {place c : Nat} {b : Brackets}
    (hb : .begun c (some place) b ∈ es) (hc : c ∉ es.filterMap settled?) :
    Session.Sound { s with forest := s.forest.attach place (.composite c) }
      (es ++ [.accepted place (.composite c)]) := by
  obtain ⟨_, _, -, -, -, d, hd, -⟩ := h.forest.rooted hb
  have hp := h.forest.exists_begun (List.getElem?_eq_some_iff.1 hd).1
  refine ⟨h.forest.attach ⟨hp, b, hb⟩ ?_, fun e he => ?_⟩
  · rintro _ ⟨⟩
    exact hc
  · rw [Forest.size_attach]
    exact h.handles e he

/-- A nested composite that is an element at once. -/
theorem sound_attached (h : s.Sound es) {handle : String} {place : Nat}
    (hp : s.placeOf? handle = some place) (brackets : Brackets) (child : String) :
    let a : Action Unit := do
      let inner ← beginNested place brackets
      attachNested place inner
      Action.setHandle child inner
    (a.apply s).2.Sound (es ++ match (a.apply s).1 with
      | .ok _ => (nested handle brackets child).ownEvents s
      | .error _ => []) := by
  intro a
  have hb := apply_beginNested place brackets s
  split at hb
  · rw [apply_bind_error hb, List.append_nil]
    exact h
  · have hfresh : s.forest.size ∉
        (es ++ [Event.begun s.forest.size (some place) brackets]).filterMap settled? := by
      intro hm
      rw [List.filterMap_append] at hm
      exact Nat.lt_irrefl _ (h.forest.settled_lt (by simpa [settled?] using hm))
    have ha := sound_attachNested (sound_beginNested h (h.placeOf?_lt hp) brackets child)
      (List.mem_append_right es List.mem_cons_self) hfresh
    rw [apply_bind_ok hb, ownEvents, hp, attachEvents_some hp]
    rw [List.append_assoc] at ha
    exact ha

theorem sound_nested (h : s.Sound es) (handle : String) (brackets : Brackets) (child : String) :
    ((nested handle brackets child).perform.apply s).2.Sound
      (es ++ (nested handle brackets child).events s) := by
  have hs := sound_placed h fun place (hp : s.placeOf? handle = some place) =>
    sound_attached h hp brackets child
  simp only [silent, bind_assoc] at hs
  exact hs

/-! ## Events of what was begun since -/

/-- Do events settle only composites that come at a place or after it? -/
def SettlesFrom (n : Nat) (es : List Event) : Prop := ∀ c ∈ es.filterMap settled?, n ≤ c

theorem SettlesFrom.mono {m n : Nat} {es : List Event} (h : SettlesFrom n es) (hmn : m ≤ n) :
    SettlesFrom m es :=
  fun c hc => Nat.le_trans hmn (h c hc)

theorem SettlesFrom.append {n : Nat} {es fs : List Event} (h : SettlesFrom n es)
    (h' : SettlesFrom n fs) : SettlesFrom n (es ++ fs) := by
  intro c hc
  rw [List.filterMap_append] at hc
  rcases List.mem_append.1 hc with hc | hc
  · exact h c hc
  · exact h' c hc

theorem settlesFrom_of_none {n : Nat} {es : List Event} (h : es.filterMap settled? = []) :
    SettlesFrom n es := by
  intro c hc
  rw [h] at hc
  cases hc

theorem settlesFrom_attachEvents (s : Session) (handle : String) :
    SettlesFrom s.forest.size (attachEvents s handle) := by
  intro c hc
  cases hp : s.placeOf? handle with
  | none => simp [attachEvents, hp] at hc
  | some place =>
    rw [attachEvents_some hp] at hc
    simp [settled?] at hc
    omega

theorem settlesFrom_ownEvents (op : Op) (s : Session) :
    SettlesFrom s.forest.size (op.ownEvents s) := by
  have helement (handle : String) (t : Option String) :
      SettlesFrom s.forest.size (elementEvents s handle t) := by
    unfold elementEvents
    split
    · exact settlesFrom_of_none rfl
    · exact settlesFrom_of_none rfl
  cases op with
  | element handle code => exact helement handle _
  | stringElement handle text => exact helement handle _
  | nested handle brackets child =>
    have hb : SettlesFrom s.forest.size [.begun s.forest.size (s.placeOf? handle) brackets] :=
      settlesFrom_of_none rfl
    exact hb.append (settlesFrom_attachEvents s handle)
  | _ => exact settlesFrom_of_none rfl

theorem settlesFrom_endingEvents (op : Op) (s : Session) (outcome : Except Error Unit) :
    SettlesFrom s.forest.size (op.endingEvents s outcome) := by
  unfold endingEvents
  split
  · exact settlesFrom_attachEvents s _
  · intro c hc
    simp [settled?] at hc
    omega
  · exact settlesFrom_of_none rfl

theorem settled_openingEvents (op : Op) (s : Session) :
    (op.openingEvents s).filterMap settled? = [] := by
  cases op <;> rfl

theorem settlesFrom_compound {op : Op} (hc : op.isCompound = true)
    (ih : ∀ t : Session, SettlesFrom t.forest.size (allEvents op.body t)) (s : Session) :
    SettlesFrom s.forest.size (op.events s) := by
  rw [events_compound hc]
  have hl := (opens_opening op s).1.size_le
  rcases ho : op.opening.apply s with ⟨_ | _, t⟩
  · exact settlesFrom_of_none rfl
  · rw [ho] at hl
    exact ((settlesFrom_of_none (settled_openingEvents op s)).append ((ih t).mono hl)).append
      (settlesFrom_endingEvents op s _)

/-- What an operation settles was begun in it. -/
theorem settlesFrom_events : (∀ (op : Op) (s : Session), SettlesFrom s.forest.size (op.events s)) ∧
    ∀ (ops : List Op) (s : Session), SettlesFrom s.forest.size (allEvents ops s) := by
  refine Op.induction ?noted ?compound ?simple ?nil ?cons
  case noted => exact fun _ op ih s => ih s
  case compound => exact fun op hc ih s => settlesFrom_compound hc ih s
  case simple =>
    intro op hs s
    rw [events_simple hs]
    split
    · exact settlesFrom_ownEvents op s
    · exact settlesFrom_of_none rfl
  case nil => exact fun s => settlesFrom_of_none rfl
  case cons =>
    -- what a later operation settles was begun even later
    intro op ops ih ihs s
    rw [allEvents]
    have hl := (keeps_perform op s).size_le
    refine (ih s).append ?_
    rcases ho : op.perform.apply s with ⟨_ | _, t⟩
    · exact settlesFrom_of_none rfl
    · rw [ho] at hl
      exact (ihs t).mono hl

/-! ## Operations with a body -/

theorem openingEvents_of_builds {op : Op} (h : op.builds = false) (s : Session) :
    op.openingEvents s = [] := by
  cases op <;> first | rfl | cases h

theorem endingEvents_of_builds {op : Op} (h : op.builds = false) (s : Session)
    (outcome : Except Error Unit) : op.endingEvents s outcome = [] := by
  cases op <;> first | rfl | cases h

theorem unwind_handles (op : Op) (e : Error) (s : Session) :
    (op.unwind e s).2.handles = s.handles := by
  cases op <;> rfl

theorem sound_unwind (h : s.Sound es) (op : Op) (e : Error) : (op.unwind e s).2.Sound es where
  forest := by
    rw [unwind_forest]
    exact h.forest
  handles := by
    rw [unwind_forest, unwind_handles]
    exact h.handles

/-- A composite is begun below what the handle names, if that is open, and is
    going to be an element of it. -/
theorem opening_nestedWith (handle : String) (brackets : Brackets) (child : String) (body : List Op)
    (s : Session) :
    (∃ e, (nestedWith handle brackets child body).opening.apply s = (.error e, s)) ∨
    ∃ place ending t, s.placeOf? handle = some place ∧
      (nestedWith handle brackets child body).opening.apply s = (.ok ending, t) ∧
      t = { s with
        forest := s.forest.beginUnder place brackets
        handles := (child, s.forest.size) :: s.handles.filter (·.1 != child) } ∧
      ∀ u, ending.perform.apply u =
        (.ok .nothing, { u with forest := u.forest.attach place (.composite s.forest.size) }) := by
  cases hp : s.placeOf? handle with
  | none => exact .inl ⟨_, apply_bind_error (apply_placeOf_none hp) _⟩
  | some place =>
    have hb := apply_beginNested place brackets s
    have ho : (nestedWith handle brackets child body).opening.apply s = _ :=
      apply_bind_ok (apply_placeOf_some hp) _
    split at hb
    · exact .inl ⟨_, ho.trans (apply_bind_error hb _)⟩
    · exact .inr ⟨place, _, _, rfl, ho.trans (apply_bind_ok hb _), rfl, fun u => rfl⟩

theorem sound_opening {op : Op} (hc : op.isCompound = true) (h : s.Sound es) :
    (op.opening.apply s).2.Sound (es ++ match (op.opening.apply s).1 with
      | .ok _ => op.openingEvents s
      | .error _ => []) := by
  cases hb : op.builds with
  | false =>
    rw [openingEvents_of_builds hb]
    have hs := h.still (calm_opening hc hb).opening
    split <;> rwa [List.append_nil]
  | true =>
    cases op with
    | initializer brackets handle body => exact sound_beginInitializer h brackets handle
    | nestedWith handle brackets child body =>
      rcases opening_nestedWith handle brackets child body s with
        ⟨e, ho⟩ | ⟨place, ending, t, hp, ho, ht, -⟩
      · rw [ho, List.append_nil]
        exact h
      · rw [ho, openingEvents, hp, ht]
        exact sound_beginNested h (h.placeOf?_lt hp) brackets child
    | beginInitializer | element | stringElement | nested => cases hc
    | _ => cases hb

/-- The nested composite is an element once the body has ended well, and given
    up if it fails. -/
theorem sound_ending {op : Op} (hc : op.isCompound = true) (h : s.Sound es) {ending : Ending}
    {t u : Session} (ho : op.opening.apply s = (.ok ending, t))
    (hu : u.Sound (es ++ op.openingEvents s ++ allEvents op.body t)) :
    (ending.perform.apply u).2.Sound
      (es ++ op.openingEvents s ++ allEvents op.body t ++ op.endingEvents s (.ok ())) ∧
    ∀ e, u.Sound (es ++ op.openingEvents s ++ allEvents op.body t ++ op.endingEvents s (.error e)) := by
  cases hb : op.builds with
  | false =>
    have hend : Still ending.perform := (calm_opening hc hb).ending (s := s) (by rw [ho])
    rw [endingEvents_of_builds hb, List.append_nil]
    exact ⟨hu.still hend, fun e => by rwa [endingEvents_of_builds hb, List.append_nil]⟩
  | true =>
    cases op with
    | initializer brackets handle body =>
      cases ho
      have hend : Still (((closeRoot s.forest.size) >>= fun t => pure ⟨some t, id, .nothing⟩) >>=
          Closing.perform) := by
        rw [bind_assoc]
        exact (still_closeRoot _).next fun t => (aloof_closing fun _ => ⟨rfl, rfl⟩).still
      simp only [endingEvents, List.append_nil]
      exact ⟨hu.still hend, fun _ => hu⟩
    | nestedWith handle brackets child body =>
      rcases opening_nestedWith handle brackets child body s with
        ⟨e, ho'⟩ | ⟨place, ending, t, hp, ho', ht, hperform⟩
      · rw [ho'] at ho
        cases ho
      · rw [ho'] at ho
        cases ho
        have hsize : t.forest.size = s.forest.size + 1 := by
          rw [ht]
          exact Forest.size_beginUnder s.forest place brackets
        have hbegun : Event.begun s.forest.size (some place) brackets ∈
            es ++ openingEvents s (nestedWith handle brackets child body) ++ allEvents body t := by
          rw [openingEvents, hp]
          exact List.mem_append_left _ (List.mem_append_right es List.mem_cons_self)
        -- the body settles only composites that were begun in it
        have hfresh : s.forest.size ∉ (es ++ openingEvents s (nestedWith handle brackets child body) ++
            allEvents body t).filterMap settled? := by
          intro hm
          rw [List.filterMap_append, List.filterMap_append, settled_openingEvents,
            List.append_nil] at hm
          rcases List.mem_append.1 hm with hm | hm
          · exact Nat.lt_irrefl _ (h.forest.settled_lt hm)
          · have hle := settlesFrom_events.2 body t _ hm
            omega
        refine ⟨?_, fun e => ⟨hu.forest.fail hbegun hfresh, hu.handles⟩⟩
        rw [hperform, endingEvents, attachEvents_some hp]
        exact sound_attachNested hu hbegun hfresh
    | beginInitializer | element | stringElement | nested => cases hc
    | _ => cases hb

theorem sound_compound {op : Op} (hc : op.isCompound = true)
    (ih : ∀ {t es}, t.Sound es → ((performAll op.body).apply t).2.Sound (es ++ allEvents op.body t))
    (h : s.Sound es) : (op.perform.apply s).2.Sound (es ++ op.events s) := by
  rw [events_compound hc]
  have hopen := sound_opening hc h
  rcases ho : op.opening.apply s with ⟨e | ending, t⟩
  · rw [ho] at hopen
    rw [perform_opening_error ho]
    exact hopen
  · rw [ho] at hopen
    dsimp only at hopen ⊢
    have hu := ih hopen
    rcases hb : (performAll op.body).apply t with ⟨e | _, u⟩
    · rw [hb] at hu
      rw [perform_body_error ho hb]
      simpa using sound_unwind ((sound_ending hc h ho hu).2 e) op e
    · rw [hb] at hu
      rw [perform_body_ok ho hb]
      simpa using (sound_ending hc h ho hu).1

theorem sound_simple {op : Op} (hs : op.isSimple = true) (h : s.Sound es) :
    (op.perform.apply s).2.Sound (es ++ op.events s) := by
  cases hb : op.builds with
  | false =>
    have hown : op.ownEvents s = [] := by cases op <;> first | rfl | cases hb
    have hev : op.events s = [] := by
      rw [events_simple hs, hown]
      split <;> rfl
    rw [hev, List.append_nil]
    exact h.still (still_perform hs hb)
  | true =>
    cases op with
    | beginInitializer brackets handle => exact sound_beginInitializer h brackets handle
    | element handle code => exact sound_element h handle code
    | stringElement handle text => exact sound_stringElement h handle text
    | nested handle brackets child => exact sound_nested h handle brackets child
    | nestedWith | initializer => cases hs
    | _ => cases hb

/-- Every operation makes of a forest what its events say. -/
theorem sound_events :
    (∀ (op : Op) {s es}, s.Sound es → (op.perform.apply s).2.Sound (es ++ op.events s)) ∧
    ∀ (ops : List Op) {s es}, s.Sound es →
      ((performAll ops).apply s).2.Sound (es ++ allEvents ops s) := by
  refine Op.induction ?noted (fun op hc ih s es => sound_compound hc ih)
    (fun op hs s es => sound_simple hs) ?nil ?cons
  case noted =>
    intro label op ih s es h
    rw [perform, apply_noted]
    exact ⟨(ih h).forest, (ih h).handles⟩
  case nil =>
    intro s es h
    rw [allEvents, List.append_nil]
    exact h
  case cons =>
    intro op ops ih ihs s es h
    have hop := ih h
    rw [allEvents]
    rcases ho : op.perform.apply s with ⟨_ | x, t⟩
    · rw [apply_performAll_cons_error ho, List.append_nil]
      rw [ho] at hop
      exact hop
    · rw [apply_performAll_cons ho, ← List.append_assoc]
      rw [ho] at hop
      exact ihs hop

theorem isCompound_of_body {op : Op} (h : op.body ≠ []) : op.isCompound = true := by
  cases op <;> first | rfl | exact absurd rfl h

end Op

/-- Every session of a run is what the events of the run made of it. -/
theorem Reached.sound {s : Session} {es : List Event} (h : Reached s es) : s.Sound es := by
  induction h with
  | start library config unit files log => exact .start library config unit files log
  | retrace _ ih => exact ⟨ih.forest, ih.handles⟩
  | perform op _ ih => exact Op.sound_events.1 op ih
  | enter _ hb ho ih =>
    have hopen := Op.sound_opening (Op.isCompound_of_body hb) ih
    rw [ho] at hopen
    exact hopen

end CxxWriter
