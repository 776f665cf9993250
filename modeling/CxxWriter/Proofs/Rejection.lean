/-
  Values that are refused.

  * an `Argument` is a value with what an operation asks of it; `Argument.refusal?`
    is the error and the records that follow if the value is not of this kind.  The
    error tells the text of the value; one that has none, being too long, is an error
    of its own (`refusal_error`);
  * `Op.arguments` are the arguments that an operation looks at, and those with
    `Op.looksFirst` look at them before they do anything else: `perform_refused`;
  * the name of a structure that is defined by its type alone is looked at behind the
    body: `typedefStruct_refused`;
  * the initial values of members and bodies that are fragments are looked at where
    they are written, behind the lines above them: `constructor_member_refused`,
    `function_body_refused`, `constructor_body_refused`.
-/
import CxxWriter.Proofs.Building
import CxxWriter.Proofs.Like

namespace CxxWriter

open CxxWriter.Action
open Buffer (blockOf indentationOf)

/-! ## Arguments -/

/-- A value with what an operation asks of it. -/
inductive Argument where
  | fragment (v : Value)
  /-- A unit of indentation. -/
  | unit (v : Value)
  /-- A fragment that can be split at a name. -/
  | declaration (v : Value)

/-- What comes of a value that is refused. -/
structure Refusal where
  error : Error
  records : Log

namespace Argument

/-- The value that is looked at. -/
def value : Argument → Value
  | fragment v | unit v | declaration v => v

/-- The refusal of a value, if it is not what is asked for. -/
def refusal? : Argument → Option Refusal
  | fragment v =>
    if v.fragment?.isSome then none else some ⟨.unfit v, Reporting.rejection v⟩
  | unit v =>
    if v.asText?.isSome then none
    else some ⟨.unfit v, [⟨.error, .buffer, "Rejected indent unit of type " ++ v.kindName⟩]⟩
  | declaration v =>
    match v.fragment? with
    | none => some ⟨.unfit v, Reporting.rejection v⟩
    | some s =>
      if (Declaration.split? s).isSome then none
      else some ⟨.noCall s, [⟨.error, .declaration, "Malformed declaration: " ++ Text.quote s⟩]⟩

variable {v : Value} {r : Refusal}

theorem fragment_refused : (fragment v).refusal? = some r ↔
    v.fragment? = none ∧ r = ⟨.unfit v, Reporting.rejection v⟩ := by
  rw [refusal?]
  cases v.fragment? <;> simp [eq_comm]

theorem fragment_accepted : (fragment v).refusal? = none ↔ ∃ t, v.fragment? = some t := by
  rw [refusal?]
  cases v.fragment? <;> simp

theorem isWritable_of_fragment {s : String} (h : v.fragment? = some s) : v.isWritable = true := by
  cases v with
  | int n =>
    rw [Value.isWritable]
    by_contra hn
    rw [Value.fragment?, if_neg hn] at h
    cases h
  | list | tuple | dict | view | range => cases h
  | _ => rfl

/-- The error tells that the value is no fragment, or that there is no name in it. -/
theorem refusal_error {a : Argument} (h : a.refusal? = some r) :
    r.error = .unfit a.value ∨ ∃ s, a.value.fragment? = some s ∧ r.error = .noCall s := by
  cases a with
  | fragment v =>
    obtain ⟨-, rfl⟩ := fragment_refused.1 h
    exact .inl rfl
  | unit v =>
    rw [refusal?] at h
    split at h
    · cases h
    · cases h
      exact .inl rfl
  | declaration v =>
    rw [refusal?] at h
    split at h
    · cases h
      exact .inl rfl
    · rename_i s hs
      split at h
      · cases h
      · cases h
        exact .inr ⟨s, hs, rfl⟩

/-- A value with a text is told in the error. -/
theorem refusal_error_writable {a : Argument} (h : a.refusal? = some r)
    (hw : a.value.isWritable = true) :
    r.error = .notFragment a.value ∨ ∃ s, r.error = .noCall s := by
  rcases refusal_error h with hr | ⟨s, -, hr⟩
  · left
    rw [hr, Error.unfit, if_pos hw]
  · exact .inr ⟨s, hr⟩

/-- A value without a text cannot be told in an error. -/
theorem refusal_error_unwritable {a : Argument} (h : a.refusal? = some r)
    (hw : a.value.isWritable = false) : r.error = .value .badValue := by
  rcases refusal_error h with hr | ⟨s, hs, -⟩
  · rw [hr, Error.unfit, hw]
    rfl
  · exact absurd (isWritable_of_fragment hs) (by simp [hw])

/-- Of two values, the first that is refused. -/
theorem refused_pair {a b : Argument} (h : [a, b].findSome? refusal? = some r) :
    a.refusal? = some r ∨ a.refusal? = none ∧ b.refusal? = some r := by
  rw [List.findSome?_cons] at h
  cases ha : a.refusal? with
  | some r' =>
    rw [ha] at h
    exact .inl h
  | none =>
    rw [ha, List.findSome?_singleton] at h
    exact .inr ⟨rfl, h⟩

theorem refused_single {a : Argument} (h : [a].findSome? refusal? = some r) :
    a.refusal? = some r := by
  rwa [List.findSome?_singleton] at h

end Argument

/-- A session after a refusal: its records are kept. -/
def Session.refused (s : Session) (r : Refusal) : Session := { s with log := s.log ++ r.records }

namespace Action

variable {α : Type} {v : Value} {r : Refusal}

theorem report_fragment_refused (h : (Argument.fragment v).refusal? = some r) (s : Session) :
    (report (.fragment v)).apply s = (.error r.error, s.refused r) := by
  obtain ⟨hv, rfl⟩ := Argument.fragment_refused.1 h
  exact apply_report_tells (Reporting.tells_fragment_none hv) s

theorem report_literal_refused (h : (Argument.fragment v).refusal? = some r) (s : Session) :
    (report (.literal v)).apply s = (.error r.error, s.refused r) := by
  obtain ⟨hv, rfl⟩ := Argument.fragment_refused.1 h
  exact apply_report_tells (Reporting.tells_literal_none hv) s

theorem report_unit_refused (h : (Argument.unit v).refusal? = some r) (s : Session) :
    (report (.unitText v)).apply s = (.error r.error, s.refused r) := by
  have htells : (Reporting.unitText v).Tells (.error r.error) r.records := by
    rw [Argument.refusal?] at h
    rw [Reporting.unitText]
    cases hv : v.asText? with
    | some t =>
      rw [hv] at h
      cases h
    | none =>
      rw [hv] at h
      cases h
      exact Reporting.tells_fail _ _ _
  exact apply_report_tells htells s

theorem report_declaration_refused (h : (Argument.declaration v).refusal? = some r) (s : Session) :
    (report (.declaration v)).apply s = (.error r.error, s.refused r) := by
  have htells : (Reporting.declaration v).Tells (.error r.error) r.records := by
    rw [Argument.refusal?] at h
    cases hv : v.fragment? with
    | none =>
      rw [hv] at h
      cases h
      intro log
      rw [Reporting.declaration, Reporting.run_bind, Reporting.tells_fragment_none hv]
    | some t =>
      rw [hv] at h
      dsimp only at h
      cases ht : Declaration.split? t with
      | some d =>
        rw [ht] at h
        cases h
      | none =>
        rw [ht] at h
        cases h
        exact Reporting.tells_declaration_none hv ht
  exact apply_report_tells htells s

end Action

/-! ## Arguments that are looked at first -/

namespace Op

/-- The arguments that an operation looks at, in order.  The members of a constructor
    with their values, and bodies that are fragments, are left out: those are looked at
    where they are written. -/
def arguments : Op → List Argument
  | emit v | emitOpen v | emitRaw v | comment v | literal v | includeHeader v | define v | guarded v _
  | struct v _ | typedefStruct v _ | declare v | declareWith v _ | declareInitializer v _
  | element _ v | stringElement _ v => [.fragment v]
  | defineString v w | declareValue v w => [.fragment v, .fragment w]
  | setUnit v => [.unit v]
  | function v _ | constructor v _ _ => [.declaration v]
  | _ => []

/-- Does an operation look at its arguments before it does anything else?  It does not
    come to it if a handle names nothing, or if the composite gets no more elements.  The
    name of a structure that is defined by its type alone is looked at behind the body. -/
def looksFirst (s : Session) : Op → Bool
  | typedefStruct .. => false
  | element handle _ => (s.placeOf? handle).any (!s.forest.isClosed ·)
  | stringElement handle _ | declareInitializer _ handle => (s.placeOf? handle).isSome
  | _ => true

/-- An operation refuses its arguments before it does anything else, whatever its
    body is. -/
theorem perform_refused {op : Op} {s : Session} {r : Refusal} (hs : op.looksFirst s = true)
    (h : op.arguments.findSome? Argument.refusal? = some r) (body : List Op) :
    (op.withBody body).perform.apply s = (.error r.error, s.refused r) := by
  cases op with
  | emit v | emitOpen v | emitRaw v | comment v | includeHeader v | define v | guarded v _
  | struct v _ | declare v | declareWith v _ =>
    have hv := report_fragment_refused (Argument.refused_single h) s
    exact apply_bind_error (apply_bind_error hv _) _
  | literal v => exact apply_bind_error (report_literal_refused (Argument.refused_single h) s) _
  | setUnit v =>
    have hv := report_unit_refused (Argument.refused_single h) s
    exact apply_bind_error (apply_bind_error hv _) _
  | function v _ | constructor v _ _ =>
    have hv := report_declaration_refused (Argument.refused_single h) s
    exact apply_bind_error (apply_bind_error hv _) _
  | defineString v w =>
    rcases Argument.refused_pair h with hv | ⟨hv, hw⟩
    · exact apply_bind_error (apply_bind_error (report_fragment_refused hv s) _) _
    · obtain ⟨t, hv⟩ := Argument.fragment_accepted.1 hv
      refine apply_bind_error ((apply_bind_ok (apply_fragment hv s) _).trans ?_) _
      exact apply_bind_error (report_literal_refused hw s) _
  | declareValue v w =>
    rcases Argument.refused_pair h with hv | ⟨hv, hw⟩
    · exact apply_bind_error (apply_bind_error (report_fragment_refused hv s) _) _
    · obtain ⟨t, hv⟩ := Argument.fragment_accepted.1 hv
      refine apply_bind_error ((apply_bind_ok (apply_fragment hv s) _).trans ?_) _
      exact apply_bind_error (report_fragment_refused hw s) _
  | declareInitializer v handle =>
    obtain ⟨place, hplace⟩ := Option.isSome_iff_exists.1 hs
    have hv := report_fragment_refused (Argument.refused_single h) s
    refine (apply_bind_ok (apply_placeOf_some hplace) _).trans ?_
    exact apply_bind_error (apply_bind_error hv _) _
  | element handle v =>
    obtain ⟨place, hplace, hopen⟩ := (Option.any_eq_true _ _).1 hs
    have hv := report_fragment_refused (Argument.refused_single h) s
    have hadd : (addElement place v).apply s = (.error r.error, s.refused r) := by
      rw [addElement, apply_bind_ok (apply_checkOpen_open (by simpa using hopen))]
      exact apply_bind_error hv _
    refine (apply_bind_ok (apply_placeOf_some hplace) _).trans ?_
    exact apply_bind_error hadd _
  | stringElement handle v =>
    obtain ⟨place, hplace⟩ := Option.isSome_iff_exists.1 hs
    have hv := report_literal_refused (Argument.refused_single h) s
    refine (apply_bind_ok (apply_placeOf_some hplace) _).trans ?_
    exact apply_bind_error (apply_bind_error hv _) _
  | typedefStruct => cases hs
  | _ => cases h

end Op

/-! ## Arguments that are looked at where they are written -/

/-- Has a text been written between two sessions, and nothing else changed? -/
structure Session.Wrote (s : Session) (t : String) (s' : Session) : Prop where
  session : s' = { s with buffer := s'.buffer }
  text : s'.buffer.text = s.buffer.text ++ t
  depth : s'.buffer.depth = s.buffer.depth
  unit : s'.buffer.unit = s.buffer.unit

/-- A block at a depth, with a line feed after it. -/
def blockText (depth : Nat) (unit s : String) : String := blockOf depth unit s ++ "\n"

/-- The return type of a declaration, if there is one, above a line. -/
def Declaration.headerText (depth : Nat) (unit : String) (d : Declaration) (line : String) : String :=
  (if d.returnType.isEmpty then "" else blockText depth unit d.returnType) ++ blockText depth unit line

/-- The lines of members with their values.  `lead` stands before the first, and
    `more` tells whether others follow. -/
def membersText (depth : Nat) (unit : String) (more : Bool) :
    String → List (String × String) → String
  | _, [] => ""
  | lead, (name, value) :: rest =>
    indentationOf depth unit ++ lead ++ name ++ "(" ++ memberValue ⟨[], depth, unit⟩ value ++ ")" ++
      (if rest.isEmpty && !more then "" else ",") ++ "\n" ++ membersText depth unit more "  " rest

/-- Are a member and its value fragments with these texts? -/
def HasTexts (m : Value × Value) (t : String × String) : Prop :=
  m.1.fragment? = some t.1 ∧ m.2.fragment? = some t.2

namespace Session.Wrote

variable {s s' s'' : Session} {t u : String}

theorem refl (s : Session) : s.Wrote "" s := ⟨rfl, String.append_empty.symm, rfl, rfl⟩

theorem trans (h : s.Wrote t s') (h' : s'.Wrote u s'') : s.Wrote (t ++ u) s'' where
  session := by rw [h'.session, h.session]
  text := by rw [h'.text, h.text, String.append_assoc]
  depth := h'.depth.trans h.depth
  unit := h'.unit.trans h.unit

/-- What is written one level deeper is written. -/
theorem indented (h : Wrote { s with buffer := s.buffer.enter } t s') :
    s.Wrote t { s' with buffer := s'.buffer.leave } where
  session := by rw [h.session]
  text := h.text
  depth := by
    show s'.buffer.depth - 1 = _
    rw [h.depth]
    rfl
  unit := h.unit

end Session.Wrote

namespace Action

/-- Does an action write a text, and nothing else? -/
def Writes (a : Action Unit) (s : Session) (t : String) : Prop :=
  ∃ s', s.Wrote t s' ∧ a.apply s = (.ok (), s')

/-- Does an action refuse a value once it has written a text, and nothing else? -/
def RefusesBehind {α : Type} (a : Action α) (s : Session) (t : String) (r : Refusal) : Prop :=
  ∃ s', s.Wrote t s' ∧ a.apply s = (.error r.error, s'.refused r)

variable {α β : Type} {s s' : Session} {r : Refusal} {d : Declaration} {t u : String}

theorem writes_emitText (t : String) (s : Session) :
    Writes (emitText t) s (blockText s.buffer.depth s.buffer.unit t) :=
  ⟨{ s with buffer := s.buffer.emit t }, ⟨rfl, String.append_assoc .., rfl, rfl⟩, rfl⟩

theorem writes_returnType (d : Declaration) (s : Session) : Writes (returnType d) s
    (if d.returnType.isEmpty then "" else blockText s.buffer.depth s.buffer.unit d.returnType) := by
  unfold returnType
  split
  · exact ⟨s, .refl s, rfl⟩
  · exact writes_emitText _ s

theorem Writes.indented {a : Action Unit} (h : Writes a { s with buffer := s.buffer.enter } t) :
    Writes (indented a) s t := by
  obtain ⟨s', hs, ha⟩ := h
  refine ⟨_, hs.indented, ?_⟩
  rw [apply_indented, ha]

namespace RefusesBehind

theorem of_refused {a : Action α} (h : a.apply s = (.error r.error, s.refused r)) :
    RefusesBehind a s "" r :=
  ⟨s, .refl s, h⟩

/-- What would follow is not carried out. -/
theorem before {a : Action α} (h : RefusesBehind a s t r) (f : α → Action β) :
    RefusesBehind (a >>= f) s t r := by
  obtain ⟨s', hs, ha⟩ := h
  exact ⟨s', hs, apply_bind_error ha f⟩

theorem after {a : Action α} {x : α} {f : α → Action β} (ha : a.apply s = (.ok x, s))
    (h : RefusesBehind (f x) s t r) : RefusesBehind (a >>= f) s t r := by
  obtain ⟨s', hs, hf⟩ := h
  exact ⟨s', hs, (apply_bind_ok ha f).trans hf⟩

theorem behind {a : Action Unit} {f : Unit → Action α} (ha : Writes a s t)
    (h : ∀ s', s.Wrote t s' → RefusesBehind (f ()) s' u r) : RefusesBehind (a >>= f) s (t ++ u) r := by
  obtain ⟨s', hs, ha⟩ := ha
  obtain ⟨s'', hs', hf⟩ := h s' hs
  exact ⟨s'', hs.trans hs', (apply_bind_ok ha f).trans hf⟩

theorem indented {a : Action α} (h : RefusesBehind a { s with buffer := s.buffer.enter } t r) :
    RefusesBehind (Action.indented a) s t r := by
  obtain ⟨s', hs, ha⟩ := h
  refine ⟨_, hs.indented, ?_⟩
  rw [apply_indented, ha]
  rfl

end RefusesBehind

/-! ### Members -/

/-- Members that are accepted are written, one line after the other. -/
theorem members_append {good : List (Value × Value)} {texts : List (String × String)}
    (h : List.Forall₂ HasTexts good texts) (rest : List (Value × Value)) (lead : String) (s : Session) :
    ∃ s', s.Wrote (membersText s.buffer.depth s.buffer.unit (!rest.isEmpty) lead texts) s' ∧
      (members lead (good ++ rest)).apply s =
        (members (if good.isEmpty then lead else "  ") rest).apply s' := by
  induction h generalizing lead s with
  | nil => exact ⟨s, .refl s, rfl⟩
  | @cons m text ms texts hm hms ih =>
    obtain ⟨name, value⟩ := m
    obtain ⟨n, v⟩ := text
    have htrail : (ms ++ rest).isEmpty = (texts.isEmpty && !(!rest.isEmpty)) := by
      cases hms <;> simp
    let line := s.buffer.indentation ++ lead ++ n ++ "(" ++ memberValue s.buffer v ++ ")" ++
      (if (ms ++ rest).isEmpty then "" else ",")
    let t : Session := { s with buffer := (s.buffer.emitRaw line).newline }
    have hstep : (members lead ((name, value) :: (ms ++ rest))).apply s =
        (members "  " (ms ++ rest)).apply t :=
      (apply_bind_ok (apply_fragment hm.1 s) _).trans <|
        (apply_bind_ok (apply_fragment hm.2 s) _).trans (apply_bind_ok (apply_changeBuffer _ s) _)
    have ht : s.Wrote (line ++ "\n") t := ⟨rfl, String.append_assoc .., rfl, rfl⟩
    obtain ⟨s', hs', hrun⟩ := ih "  " t
    refine ⟨s', ?_, hstep.trans (hrun.trans (by rw [ite_self]; rfl))⟩
    rw [membersText, ← htrail]
    exact ht.trans hs'

/-- The first member that is refused. -/
theorem members_refused {member : Value × Value} (rest : List (Value × Value)) (lead : String)
    (h : [Argument.fragment member.1, .fragment member.2].findSome? Argument.refusal? = some r)
    (s : Session) : (members lead (member :: rest)).apply s = (.error r.error, s.refused r) := by
  obtain ⟨name, value⟩ := member
  rcases Argument.refused_pair h with hn | ⟨hn, hv⟩
  · exact apply_bind_error (report_fragment_refused hn s) _
  · obtain ⟨n, hn⟩ := Argument.fragment_accepted.1 hn
    refine (apply_bind_ok (apply_fragment hn s) _).trans ?_
    exact apply_bind_error (report_fragment_refused hv s) _

/-! ### Members and bodies -/

theorem RefusesBehind.header (d : Declaration) (line : String) {a : Action α}
    (h : ∀ s', s.Wrote (d.headerText s.buffer.depth s.buffer.unit line) s' → RefusesBehind a s' u r) :
    RefusesBehind (do returnType d; emitText line; a) s
      (d.headerText s.buffer.depth s.buffer.unit line ++ u) r := by
  rw [Declaration.headerText, String.append_assoc]
  refine .behind (writes_returnType d s) fun s' hs => ?_
  have hline := writes_emitText line s'
  rw [hs.depth, hs.unit] at hline
  exact .behind hline fun s'' hs' => h s'' (hs.trans hs')

theorem writes_members {initial : List (Value × Value)} {texts : List (String × String)}
    (h : List.Forall₂ HasTexts initial texts) (lead : String) (s : Session) :
    Writes (members lead initial) s
      (membersText s.buffer.depth s.buffer.unit false lead texts) := by
  obtain ⟨s', hs, hrun⟩ := members_append h [] lead s
  rw [List.append_nil] at hrun
  exact ⟨s', hs, hrun⟩

/-- A body that is a fragment is looked at one level deeper. -/
theorem refuses_body {code : Value} (h : (Argument.fragment code).refusal? = some r) (s : Session) :
    RefusesBehind (indented (Op.performAll [.emit code])) s "" r := by
  refine RefusesBehind.indented (.of_refused ?_)
  have hemit : (emit code).apply { s with buffer := s.buffer.enter } =
      (.error r.error, Session.refused { s with buffer := s.buffer.enter } r) :=
    apply_bind_error (report_fragment_refused h _) _
  exact apply_bind_error (apply_bind_error (apply_bind_error hemit _) _) _

end Action

namespace Op

variable {s : Session} {declaration code : Value} {t : String} {d : Declaration} {r : Refusal}

/-- A member is looked at behind the lines of the members before it. -/
theorem constructor_member_refused (hv : declaration.fragment? = some t)
    (ht : Declaration.split? t = some d) {good rest : List (Value × Value)} {member : Value × Value}
    {texts : List (String × String)} (hgood : List.Forall₂ HasTexts good texts)
    (h : [Argument.fragment member.1, .fragment member.2].findSome? Argument.refusal? = some r)
    (body : List Op) :
    RefusesBehind (constructor declaration (good ++ member :: rest) body).perform s
      (d.headerText s.buffer.depth s.buffer.unit d.signature ++
        membersText (s.buffer.depth + 1) s.buffer.unit true ": " texts) r := by
  refine .before (.after (apply_declaration hv ht s) (.header d d.signature fun s' hs => ?_)) _
  refine .before (.indented ?_) _
  obtain ⟨s'', hs', hrun⟩ := members_append hgood (member :: rest) ": "
    { s' with buffer := s'.buffer.enter }
  rw [← hs.depth, ← hs.unit]
  exact ⟨s'', hs', hrun.trans (members_refused rest _ h s'')⟩

/-- The body of a function is looked at behind its first lines. -/
theorem function_body_refused (hv : declaration.fragment? = some t)
    (ht : Declaration.split? t = some d) (h : (Argument.fragment code).refusal? = some r) :
    RefusesBehind (function declaration [.emit code]).perform s
      (d.headerText s.buffer.depth s.buffer.unit (d.signature ++ " \x7b")) r := by
  rw [← String.append_empty (s := d.headerText _ _ _)]
  refine .before (.after (apply_declaration hv ht s) (.header d _ fun s' hs => ?_)) _
  exact .before (refuses_body h s') _

/-- The body of a constructor is looked at behind all members. -/
theorem constructor_body_refused (hv : declaration.fragment? = some t)
    (ht : Declaration.split? t = some d) {initial : List (Value × Value)}
    {texts : List (String × String)} (hinitial : List.Forall₂ HasTexts initial texts)
    (h : (Argument.fragment code).refusal? = some r) :
    RefusesBehind (constructor declaration initial [.emit code]).perform s
      (d.headerText s.buffer.depth s.buffer.unit d.signature ++
        (membersText (s.buffer.depth + 1) s.buffer.unit false ": " texts ++
          blockText s.buffer.depth s.buffer.unit "\x7b")) r := by
  refine .before (.after (apply_declaration hv ht s) (.header d d.signature fun s' hs => ?_)) _
  rw [← hs.depth, ← hs.unit]
  refine .behind (writes_members hinitial ": " _).indented fun s'' hs' => ?_
  rw [← String.append_empty (s := blockText _ _ _), ← hs'.depth, ← hs'.unit]
  exact .behind (writes_emitText _ s'') fun s₃ _ => .before (refuses_body h s₃) _

/-- The name of a structure that is defined by its type alone is looked at once the body
    has ended.  The head and all that the body has done stand, and a body that fails hides
    the name. -/
theorem typedefStruct_refused {name : Value} (h : (Argument.fragment name).refusal? = some r)
    (body : List Op) : (typedefStruct name body).perform.apply s =
      match (Action.indented (performAll body)).apply
        { s with buffer := s.buffer.emit "typedef struct \x7b" } with
      | (.ok _, s') => (.error r.error, s'.refused r)
      | (.error e, s') => (.error e, s') := by
  have hname (s' : Session) := apply_bind_error (report_fragment_refused h s')
    fun n => emitText ("\x7d " ++ n ++ ";")
  let s₁ : Session := { s with buffer := s.buffer.emit "typedef struct \x7b" }
  have hhead : (typedefStruct name body).perform.apply s = ((do
      Action.indented (performAll body)
      let n ← report (.fragment name)
      emitText ("\x7d " ++ n ++ ";")) >>= fun _ => pure Reply.nothing : Action Reply).apply s₁ := rfl
  rw [hhead]
  rcases hbody : (Action.indented (performAll body)).apply s₁ with ⟨e | x, s'⟩
  · exact apply_bind_error (apply_bind_error hbody _) _
  · exact apply_bind_error ((apply_bind_ok hbody _).trans (hname s')) _

end Op

/-! ## The result -/

/-- **Invalid arguments are refused where they are looked at, without a trace of what
    would follow.**  The error is that of a value which is no fragment, or of a
    declaration without a name before a parenthesis.  Both tell the text of the value; for
    a value without one, which an integer of too many digits makes, the error is that of
    an operation on values.

    Operations look at their arguments before anything else, with the exception of
    `Op.typedefStruct`: the first that is refused ends the operation, whatever its body is,
    and leaves its records and nothing else.  Three kinds of arguments are looked at later, and nothing is taken back that has
    been written by then: members and their values, behind the head of the constructor
    and the members before; the body of a function, behind its head; and the body of a
    constructor, behind its head and all members.  Up to there the text is written, and
    the records are left; nothing else is done, and the depth is the one before. -/
theorem invalid_arguments_refused (s : Session) :
    (∀ (a : Argument) (r : Refusal), a.refusal? = some r →
      (a.value.isWritable = true → r.error = .notFragment a.value ∨ ∃ t, r.error = .noCall t) ∧
      (a.value.isWritable = false → r.error = .value .badValue)) ∧
    (∀ (op : Op) (r : Refusal), op.looksFirst s = true →
      op.arguments.findSome? Argument.refusal? = some r → ∀ body : List Op,
      (op.withBody body).perform.apply s = (.error r.error, s.refused r)) ∧
    ∀ (declaration : Value) (t : String) (d : Declaration) (r : Refusal),
      declaration.fragment? = some t → Declaration.split? t = some d →
      let depth := s.buffer.depth
      let unit := s.buffer.unit
      let head := d.headerText depth unit d.signature
      (∀ (good rest : List (Value × Value)) (texts : List (String × String)) (member : Value × Value),
        List.Forall₂ HasTexts good texts →
        [Argument.fragment member.1, .fragment member.2].findSome? Argument.refusal? = some r →
        ∀ body : List Op, RefusesBehind
          (Op.constructor declaration (good ++ member :: rest) body).perform s
          (head ++ membersText (depth + 1) unit true ": " texts) r) ∧
      ∀ code : Value, (Argument.fragment code).refusal? = some r →
        RefusesBehind (Op.function declaration [.emit code]).perform s
          (d.headerText depth unit (d.signature ++ " \x7b")) r ∧
        ∀ (initial : List (Value × Value)) (texts : List (String × String)),
          List.Forall₂ HasTexts initial texts → RefusesBehind
            (Op.constructor declaration initial [.emit code]).perform s
            (head ++ (membersText (depth + 1) unit false ": " texts ++ blockText depth unit "\x7b")) r := by
  refine ⟨fun _ _ h => ⟨Argument.refusal_error_writable h, Argument.refusal_error_unwritable h⟩,
    fun _ _ => Op.perform_refused, ?_⟩
  intro declaration t d r hv ht
  refine ⟨fun good rest texts member hgood h body => Op.constructor_member_refused hv ht hgood h body,
    fun code h => ⟨Op.function_body_refused hv ht h, fun initial texts hinitial => ?_⟩⟩
  exact Op.constructor_body_refused hv ht hinitial h

/-- A malformed declaration, a truth value as a name, a list with an integer of 4301
    digits as code, a member without a value, and a list as a body. -/
theorem invalid_arguments_refused_deeper :
    let s : Session := { Session.start .empty Config.default "\t" Files.empty [] with
      buffer := ⟨["x;\n"], 1, "\t"⟩ }
    let malformed : Refusal :=
      ⟨.noCall "int x", [⟨.error, .declaration, "Malformed declaration: 'int x'"⟩]⟩
    let noText (v : Value) : Refusal := ⟨.unfit v, Reporting.rejection v⟩
    let long : Value := .list [.int (Int.ofNat (tenTo Text.maxDigits))]
    (Op.function (.text "int x") [.fail "body"]).perform.apply s =
      (.error malformed.error, s.refused malformed) ∧
    (Op.struct (.bool true) [.fail "body"]).perform.apply s =
      (.error (.notFragment (.bool true)), s.refused (noText (.bool true))) ∧
    (Op.emit long).perform.apply s = (.error (.value .badValue), s.refused (noText long)) ∧
    RefusesBehind (Op.constructor (.text "T::T()") [(.text "a", .int 1), (.text "b", .null)]
      [.fail "body"]).perform s "\tT::T()\n\t\t: a(1),\n" (noText .null) ∧
    RefusesBehind (Op.function (.text "void f()") [.emit (.list [])]).perform s
      "\tvoid\n\tf() \x7b\n" (noText (.list [])) ∧
    RefusesBehind (Op.constructor (.text "T::T()") [(.text "a", .int 1)] [.emit .null]).perform s
      "\tT::T()\n\t\t: a(1)\n\t\x7b\n" (noText .null) := by
  intro s malformed noText long
  obtain ⟨herror, hfirst, hlater⟩ := invalid_arguments_refused s
  have hmalformed : (Argument.declaration (.text "int x")).refusal? = some malformed := by
    have hsplit : Declaration.split? "int x" = none := by decide +kernel
    have hquote : Text.quote "int x" = "'int x'" := by decide +kernel
    show (if (Declaration.split? "int x").isSome then none else _) = _
    rw [hsplit, hquote]
    rfl
  have hnone (v : Value) (hv : v.fragment? = none) : (Argument.fragment v).refusal? = some (noText v) :=
    Argument.fragment_refused.2 ⟨hv, rfl⟩
  let d : Declaration := ⟨"", "T::T", "T::T()"⟩
  let f : Declaration := ⟨"void", "f", "f()"⟩
  have hd : Declaration.split? "T::T()" = some d := by decide +kernel
  have hf : Declaration.split? "void f()" = some f := by decide +kernel
  have hmembers : List.Forall₂ HasTexts [(.text "a", .int 1)] [("a", "1")] :=
    .cons ⟨rfl, by decide +kernel⟩ .nil
  have hmember : "\tT::T()\n\t\t: a(1),\n" =
      d.headerText 1 "\t" "T::T()" ++ membersText 2 "\t" true ": " [("a", "1")] := by decide +kernel
  have hhead : "\tvoid\n\tf() \x7b\n" = f.headerText 1 "\t" ("f()" ++ " \x7b") := by decide +kernel
  have hbody : "\tT::T()\n\t\t: a(1)\n\t\x7b\n" = d.headerText 1 "\t" "T::T()" ++
      (membersText 2 "\t" false ": " [("a", "1")] ++ blockText 1 "\t" "\x7b") := by decide +kernel
  refine ⟨hfirst (.function (.text "int x") []) malformed rfl ?_ _,
    hfirst (.struct (.bool true) []) (noText (.bool true)) rfl ?_ _, ?_, ?_, ?_, ?_⟩
  · exact (List.findSome?_singleton).trans hmalformed
  · exact (List.findSome?_singleton).trans (hnone _ rfl)
  · have hlong : long.isWritable = false := by decide +kernel
    rw [← (herror (.fragment long) (noText long) (hnone _ rfl)).2 hlong]
    exact hfirst (.emit long) (noText long) rfl ((List.findSome?_singleton).trans (hnone _ rfl)) []
  · rw [hmember]
    exact (hlater (.text "T::T()") _ d (noText .null) rfl hd).1 _ [] _ (.text "b", .null) hmembers rfl _
  · rw [hhead]
    exact ((hlater (.text "void f()") _ f _ rfl hf).2 (.list []) (hnone _ rfl)).1
  · rw [hbody]
    exact ((hlater (.text "T::T()") _ d _ rfl hd).2 .null (hnone _ rfl)).2 _ _ hmembers

/-- Not all arguments are refused before anything is written: the signature stands above a
    member without a value, and the members above a structure without a name. -/
theorem not_refused_first :
    (¬ ∀ (s : Session) (declaration : Value) (initial : List (Value × Value)) (body : List Op),
      (∃ m ∈ initial, m.1.fragment? = none ∨ m.2.fragment? = none) →
      ((Op.constructor declaration initial body).perform.apply s).2.buffer.text = s.buffer.text) ∧
    ¬ ∀ (s : Session) (name : Value) (body : List Op), name.fragment? = none →
      ((Op.typedefStruct name body).perform.apply s).2.buffer.text = s.buffer.text := by
  let s := Session.start .empty Config.default "\t" Files.empty []
  refine ⟨fun h => ?_, fun h => ?_⟩
  · have htext := h s (.text "T::T()") [(.text "a", .null)] [] ⟨_, List.mem_singleton_self _, .inr rfl⟩
    have hwritten : ((Op.constructor (.text "T::T()") [(.text "a", .null)] []).perform.apply s).2.buffer.text =
        "T::T()\n" := by decide +kernel
    exact absurd (hwritten.symm.trans htext) (by decide)
  · have htext := h s .null [.declare (.text "int x")] rfl
    have hwritten : ((Op.typedefStruct .null [.declare (.text "int x")]).perform.apply s).2.buffer.text =
        "typedef struct \x7b\n\tint x;\n" := by decide +kernel
    exact absurd (hwritten.symm.trans htext) (by decide)

end CxxWriter
