/-
  What carrying out an action comes to, and how a property of actions reaches
  all operations.

  * `apply_bind` and its neighbours carry out one action after another;
  * `Op.everywhere` asks for something of an operation and of all operations
    in it; `Op.induction` and `Op.induction_everywhere` go through them;
  * `Law p I J` lists the actions that operations are made of: those for which
    `p` holds have the property `I`, or `J` where what they give back is not
    looked at, and everything that encloses actions keeps it.  `Law.perform`
    has it for every operation;
  * `TemplateLaw I` does so for the operations on templates alone.
-/
import CxxWriter.Proofs.Buffer
import CxxWriter.Script

namespace CxxWriter

/-! ## Reports -/

namespace Reporting

variable {α β : Type}

/-- An operation comes to an outcome and adds records, whatever was recorded
    before it. -/
def Tells (r : Reporting α) (outcome : Except Error α) (records : Log) : Prop :=
  ∀ log, r.run.run log = (outcome, log ++ records)

/-- Does an operation come to the same, whatever was recorded before it? -/
def Steady (r : Reporting α) : Prop := ∃ outcome records, Tells r outcome records

theorem tells_pure (x : α) : Tells (pure x) (.ok x) [] := fun log => by
  show (Except.ok x, log) = _
  rw [List.append_nil]

theorem tells_fail (component : Component) (message : String) (e : Error) :
    Tells (fail component message e : Reporting α) (.error e) [⟨.error, component, message⟩] :=
  fun _ => rfl

theorem run_bind (a : Reporting α) (f : α → Reporting β) (log : Log) :
    (a >>= f).run.run log = match a.run.run log with
      | (.ok x, log) => (f x).run.run log
      | (.error e, log) => (.error e, log) := by
  simp only [ExceptT.run_bind, StateT.run_bind]
  rcases a.run.run log with ⟨_ | _, t⟩ <;> rfl

/-- The second operation gives the result, if the first one ends well. -/
theorem bind_ok {a : Reporting α} {f : α → Reporting β} {log : Log} {y : β} :
    ((a >>= f).run.run log).1 = .ok y ↔
      ∃ x log', a.run.run log = (.ok x, log') ∧ ((f x).run.run log').1 = .ok y := by
  rw [run_bind]
  rcases a.run.run log with ⟨e | x, log'⟩
  · exact ⟨nofun, nofun⟩
  · refine ⟨fun h => ⟨x, log', rfl, h⟩, ?_⟩
    rintro ⟨_, _, ⟨⟩, h⟩
    exact h

theorem ofExcept_bind_ok {ε : Type} {g : ε → Error} {r : Except ε α} {f : α → Reporting β}
    {log : Log} {y : β} :
    ((ofExcept g r >>= f).run.run log).1 = .ok y ↔
      ∃ x, r = .ok x ∧ ((f x).run.run log).1 = .ok y := by
  cases r with
  | error e => exact ⟨nofun, nofun⟩
  | ok x =>
    refine ⟨fun h => ⟨x, rfl, h⟩, ?_⟩
    rintro ⟨_, ⟨⟩, h⟩
    exact h

theorem record_bind (level : Level) (component : Component) (message : String)
    (f : Unit → Reporting β) (log : Log) :
    (record level component message >>= f).run.run log =
      (f ()).run.run (log ++ [⟨level, component, message⟩]) :=
  rfl

theorem run_ofExcept_bind {ε : Type} (g : ε → Error) (r : Except ε α) (f : α → Reporting β)
    (log : Log) : (ofExcept g r >>= f).run.run log = match r with
      | .ok x => (f x).run.run log
      | .error e => (.error (g e), log) := by
  cases r <;> rfl

theorem Steady.bind {a : Reporting α} {f : α → Reporting β} (ha : Steady a)
    (hf : ∀ x, Steady (f x)) : Steady (a >>= f) := by
  obtain ⟨o, l, ha⟩ := ha
  cases o with
  | error e => exact ⟨.error e, l, fun log => by rw [run_bind, ha]⟩
  | ok x =>
    obtain ⟨o', l', hf⟩ := hf x
    exact ⟨o', l ++ l', fun log => by rw [run_bind, ha]; exact (hf _).trans (by simp)⟩

theorem tells_fragment {v : Value} {t : String} (h : v.fragment? = some t) :
    Tells (fragment v) (.ok t) [] := by
  rw [fragment, h]; exact tells_pure t

theorem tells_fragment_none {v : Value} (h : v.fragment? = none) :
    Tells (fragment v) (.error (.unfit v)) (rejection v) := by
  rw [fragment, h]; exact fun _ => rfl

theorem tells_literal {v : Value} {t : String} (h : v.fragment? = some t) :
    Tells (literal v) (.ok (Literal.ofString t)) [] := by
  rw [literal, fragment, h]; exact tells_pure _

theorem tells_literal_none {v : Value} (h : v.fragment? = none) :
    Tells (literal v) (.error (.unfit v)) (rejection v) := by
  rw [literal, fragment, h]; exact fun _ => rfl

theorem steady_fragment (v : Value) : Steady (fragment v) := by
  cases h : v.fragment? with
  | none => exact ⟨_, _, tells_fragment_none h⟩
  | some t => exact ⟨_, _, tells_fragment h⟩

theorem steady_literal (v : Value) : Steady (literal v) :=
  (steady_fragment v).bind fun _ => ⟨_, _, tells_pure _⟩

theorem steady_declaration (v : Value) : Steady (declaration v) := by
  refine (steady_fragment v).bind fun t => ?_
  cases Declaration.split? t with
  | none => exact ⟨_, _, tells_fail _ _ _⟩
  | some d => exact ⟨_, _, tells_pure d⟩

theorem tells_declaration {v : Value} {t : String} {d : Declaration} (hv : v.fragment? = some t)
    (hd : Declaration.split? t = some d) : Tells (declaration v) (.ok d) [] := by
  intro log
  rw [declaration, run_bind, tells_fragment hv]
  dsimp only
  rw [hd, List.append_nil]
  rfl

theorem tells_declaration_none {v : Value} {t : String} (hv : v.fragment? = some t)
    (hd : Declaration.split? t = none) : Tells (declaration v) (.error (.noCall t))
      [⟨.error, .declaration, "Malformed declaration: " ++ Text.quote t⟩] := by
  intro log
  rw [declaration, run_bind, tells_fragment hv]
  dsimp only
  rw [hd, List.append_nil]
  rfl

/-- A declaration that is split was a fragment. -/
theorem of_tells_declaration {v : Value} {d : Declaration} {records : Log}
    (h : Tells (declaration v) (.ok d) records) :
    ∃ t, v.fragment? = some t ∧ Declaration.split? t = some d := by
  have hrun : ((declaration v).run.run []).1 = .ok d := by rw [h]
  obtain ⟨t, log, ht, hd⟩ := bind_ok.1 hrun
  have hv : v.fragment? = some t := by
    cases hf : v.fragment? with
    | none =>
      rw [tells_fragment_none hf] at ht
      cases ht
    | some s =>
      rw [tells_fragment hf] at ht
      cases ht
      rfl
  refine ⟨t, hv, ?_⟩
  cases hs : Declaration.split? t with
  | none =>
    rw [hs] at hd
    cases hd
  | some d' =>
    rw [hs] at hd
    cases hd
    rfl

end Reporting

namespace Action

variable {α β : Type}

@[simp] theorem apply_pure (x : α) (s : Session) : (pure x : Action α).apply s = (.ok x, s) := rfl

@[simp] theorem apply_get (s : Session) : (get : Action Session).apply s = (.ok s, s) := rfl

@[simp] theorem apply_changeBuffer (f : Buffer → Buffer) (s : Session) :
    (changeBuffer f).apply s = (.ok (), { s with buffer := f s.buffer }) := rfl

@[simp] theorem apply_changeForest (f : Forest → Forest) (s : Session) :
    (changeForest f).apply s = (.ok (), { s with forest := f s.forest }) := rfl

@[simp] theorem apply_report (r : Reporting α) (s : Session) :
    (report r).apply s = ((r.run.run s.log).1, { s with log := (r.run.run s.log).2 }) := rfl

theorem apply_report_tells {r : Reporting α} {outcome : Except Error α} {records : Log}
    (h : r.Tells outcome records) (s : Session) :
    (report r).apply s = (outcome, { s with log := s.log ++ records }) := by
  rw [apply_report, h]

@[simp] theorem apply_setHandle (handle : String) (place : Nat) (s : Session) :
    (setHandle handle place).apply s =
      (.ok (), { s with handles := (handle, place) :: s.handles.filter (·.1 != handle) }) := rfl

theorem apply_fragment {v : Value} {t : String} (h : v.fragment? = some t) (s : Session) :
    (report (.fragment v)).apply s = (.ok t, s) := by
  rw [apply_report_tells (Reporting.tells_fragment h), List.append_nil]

theorem apply_declaration {v : Value} {t : String} {d : Declaration} (hv : v.fragment? = some t)
    (hd : Declaration.split? t = some d) (s : Session) :
    (report (.declaration v)).apply s = (.ok d, s) := by
  rw [apply_report_tells (Reporting.tells_declaration hv hd), List.append_nil]

/-- The second action is carried out where the first one ended, if that did
    not fail. -/
theorem apply_bind (a : Action α) (f : α → Action β) (s : Session) :
    (a >>= f).apply s = match a.apply s with
      | (.ok x, t) => (f x).apply t
      | (.error e, t) => (.error e, t) := by
  unfold apply
  simp only [ExceptT.run_bind, StateT.run_bind]
  rcases a.run.run s with ⟨_ | _, t⟩ <;> rfl

theorem apply_bind_ok {a : Action α} {s t : Session} {x : α} (h : a.apply s = (.ok x, t))
    (f : α → Action β) : (a >>= f).apply s = (f x).apply t := by
  rw [apply_bind, h]

theorem apply_bind_error {a : Action α} {s t : Session} {e : Error} (h : a.apply s = (.error e, t))
    (f : α → Action β) : (a >>= f).apply s = (.error e, t) := by
  rw [apply_bind, h]

/-- The two actions end well if each of them does. -/
theorem apply_bind_iff {a : Action α} {f : α → Action β} {s t : Session} {y : β} :
    (a >>= f).apply s = (.ok y, t) ↔
      ∃ x u, a.apply s = (.ok x, u) ∧ (f x).apply u = (.ok y, t) := by
  rw [apply_bind]
  rcases a.apply s with ⟨e | x, u⟩
  · exact ⟨nofun, nofun⟩
  · refine ⟨fun h => ⟨x, u, rfl, h⟩, ?_⟩
    rintro ⟨_, _, ⟨⟩, h⟩
    exact h

/-- What relates the sessions before and after each of two actions, relates
    them over the two. -/
theorem related_bind {R : Session → Session → Prop} (trans : ∀ {s t u}, R s t → R t u → R s u)
    {a : Action α} {f : α → Action β} (ha : ∀ s, R s (a.apply s).2)
    (hf : ∀ x s, R s ((f x).apply s).2) (s : Session) : R s ((a >>= f).apply s).2 := by
  have hs := ha s
  rcases e : a.apply s with ⟨_ | x, t⟩
  · rw [apply_bind_error e]
    rwa [e] at hs
  · rw [apply_bind_ok e]
    rw [e] at hs
    exact trans hs (hf x t)

/-- What both actions leave alone, the two leave alone one after the other. -/
theorem bind_keeps {γ : Type} (g : Session → γ) {a : Action α} {f : α → Action β}
    (ha : ∀ s, g (a.apply s).2 = g s) (hf : ∀ x s, g ((f x).apply s).2 = g s) :
    ∀ s, g ((a >>= f).apply s).2 = g s :=
  related_bind (R := fun s t => g t = g s) (fun hst htu => htu.trans hst) ha hf

/-- Two actions that come to the same both fail, or both give the same. -/
theorem same_outcome {a a' : Action α} {s s' : Session} (h : (a.apply s).1 = (a'.apply s').1) :
    (∃ e t t', a.apply s = (.error e, t) ∧ a'.apply s' = (.error e, t')) ∨
      ∃ x t t', a.apply s = (.ok x, t) ∧ a'.apply s' = (.ok x, t') := by
  rcases e : a.apply s with ⟨err | x, t⟩
  · exact .inl ⟨err, t, _, rfl, Prod.ext (by rw [← h, e]) rfl⟩
  · exact .inr ⟨x, t, _, rfl, Prod.ext (by rw [← h, e]) rfl⟩

theorem apply_emit {v : Value} {t : String} (h : v.fragment? = some t) (s : Session) :
    (emit v).apply s = (.ok (), { s with buffer := s.buffer.emit t }) :=
  apply_bind_ok (apply_fragment h s) _

theorem apply_emitOpen {v : Value} {t : String} (h : v.fragment? = some t) (s : Session) :
    (emitOpen v).apply s = (.ok (), { s with buffer := s.buffer.emitOpen t }) :=
  apply_bind_ok (apply_fragment h s) _

/-- A declaration stands around what its value writes. -/
theorem apply_declareWith {v : Value} {d : String} (h : v.fragment? = some d) {a : Action Unit}
    {s t : Session}
    (ha : a.apply { s with buffer := (s.buffer.emitOpen (d ++ " =")).emitRaw " " } = (.ok (), t)) :
    (declareWith v a).apply s = (.ok (), { t with buffer := t.buffer.closeValue }) := by
  rw [declareWith, apply_bind_ok (apply_fragment h s), apply_bind_ok (apply_changeBuffer _ _),
    apply_bind_ok ha]
  rfl

theorem discard_eq (a : Action α) : (discard a : Action Unit) = a >>= fun _ => pure () := rfl

theorem apply_indented (a : Action α) (s : Session) :
    (indented a).apply s =
      ((a.apply { s with buffer := s.buffer.enter }).1,
        { (a.apply { s with buffer := s.buffer.enter }).2 with
          buffer := (a.apply { s with buffer := s.buffer.enter }).2.buffer.leave }) := rfl

theorem apply_noted (label : String) (a : Action Reply) (s : Session) :
    (noted label a).apply s =
      ((a.apply s).1, { (a.apply s).2 with
        trace := (a.apply s).2.trace ++ [⟨label, (a.apply s).2.buffer, (a.apply s).1⟩] }) := rfl

/-- The outcome of an attempt at what ended with an outcome. -/
def attempted : Except Error Unit → Except Error Reply
  | .ok () => .ok .nothing
  | .error e => if e.isOwn then .ok (.caught e) else .error e

theorem apply_ofFunction (f : Session → Except Error α × Session) (s : Session) :
    (ofFunction f).apply s = f s := rfl

theorem apply_attempt (a : Action Unit) (s : Session) :
    (attempt a).apply s = (attempted (a.apply s).1, (a.apply s).2) := by
  rw [attempt, apply_ofFunction]
  rcases a.apply s with ⟨_ | _, t⟩ <;> rfl

/-- A unit has to be a text; changing it may leave a record. -/
theorem apply_setUnit (unit : Value) (s : Session) :
    ∃ log, (setUnit unit).apply s = match unit.asText? with
      | some u => (.ok (), { s with buffer := s.buffer.withUnit u, log := log })
      | none => (.error (.unfit unit), { s with log := log }) := by
  cases h : unit.asText? with
  | none =>
    have hr : (report (Reporting.unitText unit)).apply s = (.error (.unfit unit),
        { s with log := s.log ++
          [⟨.error, .buffer, "Rejected indent unit of type " ++ unit.kindName⟩] }) := by
      rw [Reporting.unitText, h]; rfl
    exact ⟨_, apply_bind_error hr _⟩
  | some u =>
    have hr : (report (Reporting.unitText unit)).apply s = (.ok u, s) := by
      rw [Reporting.unitText, h]; rfl
    unfold setUnit
    rw [apply_bind_ok hr, apply_bind_ok (apply_get s)]
    dsimp only
    split
    · exact ⟨_, rfl⟩
    · exact ⟨_, rfl⟩

end Action

/-! ## Operations within operations -/

namespace Op

theorem apply_silent {a : Action Unit} {s t : Session} (h : a.apply s = (.ok (), t)) :
    (silent a).apply s = (.ok .nothing, t) :=
  Action.apply_bind_ok h _

theorem apply_performAll_cons {op : Op} {ops : List Op} {s t : Session} {r : Reply}
    (h : op.perform.apply s = (.ok r, t)) :
    (performAll (op :: ops)).apply s = (performAll ops).apply t := by
  have hd : (discard op.perform : Action Unit).apply s = (.ok (), t) := by
    rw [Action.discard_eq, Action.apply_bind_ok h]
    rfl
  rw [performAll, Action.apply_bind_ok hd]

theorem apply_performAll_cons_error {op : Op} {ops : List Op} {s t : Session} {e : Error}
    (h : op.perform.apply s = (.error e, t)) :
    (performAll (op :: ops)).apply s = (.error e, t) :=
  Action.apply_bind_error (Action.apply_bind_error h _) _

mutual

/-- Does `p` hold of an operation and of all operations in it? -/
def everywhere (p : Op → Bool) : Op → Bool
  | .noted label op => p (.noted label op) && op.everywhere p
  | .indented body reply => p (.indented body reply) && allEverywhere p body
  | .attempt body => p (.attempt body) && allEverywhere p body
  | .guarded name body => p (.guarded name body) && allEverywhere p body
  | .struct name body => p (.struct name body) && allEverywhere p body
  | .typedefStruct name body => p (.typedefStruct name body) && allEverywhere p body
  | .function declaration body => p (.function declaration body) && allEverywhere p body
  | .constructor declaration initial body =>
    p (.constructor declaration initial body) && allEverywhere p body
  | .declareWith declaration body => p (.declareWith declaration body) && allEverywhere p body
  | .nestedWith handle brackets child body =>
    p (.nestedWith handle brackets child body) && allEverywhere p body
  | .initializer brackets handle body =>
    p (.initializer brackets handle body) && allEverywhere p body
  | op => p op

/-- Does `p` hold of all operations of a list and of those in them? -/
def allEverywhere (p : Op → Bool) : List Op → Bool
  | [] => true
  | op :: ops => op.everywhere p && allEverywhere p ops

end

/-- The operations in an operation that are carried out as one body. -/
def body : Op → List Op
  | indented body _ | attempt body | guarded _ body | struct _ body | typedefStruct _ body
  | function _ body | constructor _ _ body | declareWith _ body | nestedWith _ _ _ body
  | initializer _ _ body => body
  | _ => []

/-- Is an operation carried out around a body of others? -/
def isCompound : Op → Bool
  | indented .. | attempt _ | guarded .. | struct .. | typedefStruct .. | function ..
  | constructor .. | declareWith .. | nestedWith .. | initializer .. => true
  | _ => false

/-- Are there no other operations in an operation? -/
def isSimple : Op → Bool
  | noted .. => false
  | op => !op.isCompound

/-- Does an operation need the engine of templates? -/
def isTemplate : Op → Bool
  | .template .. | .templateFile .. | .addTemplate .. | .hasTemplate _ => true
  | _ => false

section
variable {P : Op → Prop} {Q : List Op → Prop}

mutual

theorem induction_op (noted : ∀ label op, P op → P (.noted label op))
    (compound : ∀ op, op.isCompound = true → Q op.body → P op)
    (simple : ∀ op, op.isSimple = true → P op) (nil : Q [])
    (cons : ∀ op ops, P op → Q ops → Q (op :: ops)) : ∀ op : Op, P op
  | .noted label op => noted label op (induction_op noted compound simple nil cons op)
  | .indented body _ | .attempt body | .guarded _ body | .struct _ body | .typedefStruct _ body
  | .function _ body | .constructor _ _ body | .declareWith _ body | .nestedWith _ _ _ body
  | .initializer _ _ body => compound _ rfl (induction_ops noted compound simple nil cons body)
  | .newline | .stripNewlines | .emit _ | .emitOpen _ | .emitRaw _ | .comment _ | .separator
  | .setUnit _ | .snapshot | .state | .literal _ | .fail _ | .includeHeader _ | .define _
  | .defineString _ _ | .declare _ | .declareValue _ _ | .declareInitializer _ _
  | .beginInitializer _ _ | .element _ _ | .stringElement _ _ | .nested _ _ _
  | .writeInitializer _ | .elementCount _ | .isRoot _ | .treeOf _ | .writeTree _
  | .template _ _ | .templateFile _ _ | .addTemplate _ _ | .hasTemplate _ => simple _ rfl

theorem induction_ops (noted : ∀ label op, P op → P (.noted label op))
    (compound : ∀ op, op.isCompound = true → Q op.body → P op)
    (simple : ∀ op, op.isSimple = true → P op) (nil : Q [])
    (cons : ∀ op ops, P op → Q ops → Q (op :: ops)) : ∀ ops : List Op, Q ops
  | [] => nil
  | op :: ops => cons op ops (induction_op noted compound simple nil cons op)
    (induction_ops noted compound simple nil cons ops)

end

/-- What holds of an operation if it holds of those in it, holds of all. -/
theorem induction (noted : ∀ label op, P op → P (.noted label op))
    (compound : ∀ op, op.isCompound = true → Q op.body → P op)
    (simple : ∀ op, op.isSimple = true → P op) (nil : Q [])
    (cons : ∀ op ops, P op → Q ops → Q (op :: ops)) : (∀ op, P op) ∧ ∀ ops, Q ops :=
  ⟨induction_op noted compound simple nil cons, induction_ops noted compound simple nil cons⟩

end

theorem of_everywhere {p : Op → Bool} {op : Op} (h : op.everywhere p = true) : p op = true := by
  cases op <;> simp_all [everywhere]

theorem everywhere_mono {p q : Op → Bool} (h : ∀ op, p op = true → q op = true) :
    (∀ op : Op, op.everywhere p = true → op.everywhere q = true) ∧
    ∀ ops : List Op, allEverywhere p ops = true → allEverywhere q ops = true := by
  refine induction ?noted ?compound ?simple ?nil ?cons
  case noted =>
    intro label op ih hp
    simp only [everywhere, Bool.and_eq_true] at hp ⊢
    exact ⟨h _ hp.1, ih hp.2⟩
  case compound =>
    intro op hc ih hp
    cases op <;> simp_all [everywhere, body, isCompound]
  case simple =>
    intro op hs hp
    cases op <;> simp_all [everywhere, isSimple, isCompound]
  case nil => exact id
  case cons =>
    intro op ops ih ihs hp
    simp only [allEverywhere, Bool.and_eq_true] at hp ⊢
    exact ⟨ih hp.1, ihs hp.2⟩

theorem everywhere_body {p : Op → Bool} {op : Op} (h : op.everywhere p = true) :
    allEverywhere p op.body = true := by
  cases op <;> simp_all [everywhere, body, allEverywhere]

/-- The same induction over the operations in which `p` holds everywhere. -/
theorem induction_everywhere {p : Op → Bool} {P : Op → Prop} {Q : List Op → Prop}
    (noted : ∀ label op, P op → P (.noted label op))
    (compound : ∀ op, op.isCompound = true → p op = true → Q op.body → P op)
    (simple : ∀ op, op.isSimple = true → p op = true → P op) (nil : Q [])
    (cons : ∀ op ops, op.everywhere p = true → P op → Q ops → Q (op :: ops)) :
    (∀ op : Op, op.everywhere p = true → P op) ∧
      ∀ ops : List Op, allEverywhere p ops = true → Q ops := by
  refine induction ?noted ?compound ?simple ?nil ?cons
  case noted =>
    intro label op ih hp
    simp only [everywhere, Bool.and_eq_true] at hp
    exact noted label op (ih hp.2)
  case compound =>
    exact fun op hc ih hp => compound op hc (of_everywhere hp) (ih (everywhere_body hp))
  case simple => exact fun op hs hp => simple op hs (of_everywhere hp)
  case nil => exact fun _ => nil
  case cons =>
    intro op ops ih ihs hp
    simp only [allEverywhere, Bool.and_eq_true] at hp
    exact cons op ops hp.1 (ih hp.1) (ihs hp.2)

/-- What holds of all operations holds everywhere in them. -/
theorem everywhere_of_all {p : Op → Bool} (h : ∀ op, p op = true) :
    (∀ op : Op, op.everywhere p = true) ∧ ∀ ops : List Op, allEverywhere p ops = true := by
  refine induction ?noted ?compound ?simple ?nil ?cons
  case noted =>
    intro label op ih
    rw [everywhere, h, ih, Bool.and_self]
  case compound =>
    intro op hc ih
    cases op <;> simp_all [everywhere, body, isCompound]
  case simple =>
    intro op hs
    cases op <;> simp_all [everywhere, isSimple, isCompound]
  case nil => rfl
  case cons =>
    intro op ops ih ihs
    rw [allEverywhere, ih, ihs, Bool.and_self]

end Op

/-! ## Operations on templates -/

/-- What the actions that operations on templates are made of have to satisfy,
    for `I` to hold of those operations. -/
structure TemplateLaw (I : {α : Type} → Action α → Prop) : Prop where
  result : ∀ {α : Type} (x : α), I (pure x)
  next : ∀ {α β : Type} {a : Action α} {f : α → Action β}, I a → (∀ x, I (f x)) → I (a >>= f)
  failure : ∀ {α : Type} (e : Error), I (throw e : Action α)
  report : ∀ {α : Type} (r : Reporting α), I (Action.report r)
  session : I (get : Action Session)
  setEngine : ∀ e, I (modify ({ · with engine := some e }) : Action Unit)
  append : ∀ {f : Buffer → Buffer}, Buffer.IsAppend f → I (Action.changeBuffer f)

namespace TemplateLaw

variable {I : {α : Type} → Action α → Prop}

theorem engine (h : TemplateLaw I) : I Action.engine := by
  refine h.next h.session fun t => ?_
  split
  · exact h.result _
  · exact h.next (h.report _) fun _ => h.next (h.setEngine _) fun _ => h.result _

theorem checkVariables (h : TemplateLaw I) (own : List String) (given : Template.Bindings) :
    I (Action.checkVariables own given) := by
  unfold Action.checkVariables
  split
  · exact h.failure _
  · exact h.result _

theorem perform (h : TemplateLaw I) (op : Op) (ht : op.isTemplate = true) : I op.perform := by
  have hemit (t : String) : I (Action.emitText t) := h.append (Buffer.isAppend_emit t)
  cases op with
  | template source given | templateFile name given =>
    exact h.next (h.next (h.checkVariables _ _) fun _ => h.next h.engine fun _ =>
      h.next h.session fun _ => h.next (h.setEngine _) fun _ => h.next (h.report _) fun _ =>
      hemit _) fun _ => h.result _
  | addTemplate name source =>
    exact h.next (h.next h.engine fun _ => h.next (h.report _) fun _ => h.setEngine _)
      fun _ => h.result _
  | hasTemplate name =>
    exact h.next (h.next h.engine fun _ => h.next h.session fun _ => h.result _) fun _ => h.result _
  | _ => cases ht

end TemplateLaw

/-! ## What operations are made of -/

/-- What the actions that operations are made of have to satisfy, for `I` to
    hold of all operations without one for which `p` fails.  `J` stands for `I`
    where only an action follows that does not look at the reply. -/
structure Law (p : Op → Bool) (I : {α : Type} → Action α → Prop) (J : Action Reply → Prop) :
    Prop where
  result : ∀ {α : Type} (x : α), I (pure x)
  next : ∀ {α β : Type} {a : Action α} {f : α → Action β}, I a → (∀ x, I (f x)) → I (a >>= f)
  failure : ∀ {α : Type} (e : Error), I (throw e : Action α)
  report : ∀ {α : Type} {r : Reporting α}, r.Steady → I (Action.report r)
  reply : ∀ {a : Action Reply}, I a → J a
  discarded : ∀ {a : Action Reply}, J a → I (discard a)
  -- text
  append : ∀ {f : Buffer → Buffer}, Buffer.IsAppend f → I (Action.changeBuffer f)
  strip : p .stripNewlines = true → I (Action.changeBuffer (·.stripNewlines))
  setUnit : ∀ unit, p (.setUnit unit) = true → I (Action.setUnit unit)
  snapshot : J (Op.snapshot.perform)
  state : J (Op.state.perform)
  writeTree : ∀ t, I (Action.writeTree t)
  -- what encloses actions
  indented : ∀ {a : Action Unit}, I a → I (Action.indented a)
  attempt : ∀ {a : Action Unit}, I a → I (Action.attempt a)
  noted : ∀ label {a : Action Reply}, J a → J (Action.noted label a)
  declareWith : ∀ declaration {a : Action Unit}, I a → I (Action.declareWith declaration a)
  -- initializers
  placeOf : ∀ handle, I (Action.placeOf handle)
  ask : ∀ {α : Type} (f : Forest → α), I (do return f (← get).forest)
  setHandle : ∀ handle place, I (Action.setHandle handle place)
  begin : ∀ brackets, I (Action.beginInitializer brackets)
  addElement : ∀ place code, I (Action.addElement place code)
  nested : ∀ place brackets child, I (do
    let inner ← Action.beginNested place brackets
    Action.attachNested place inner
    Action.setHandle child inner)
  nestedWith : ∀ place brackets child {a : Action Unit}, I a → I (do
    let inner ← Action.beginNested place brackets
    Action.setHandle child inner
    a
    Action.attachNested place inner)
  writeInitializer : ∀ place, I (Action.writeInitializer place)
  -- templates
  template : ∀ op : Op, op.isTemplate = true → p op = true → J op.perform

/-! ## All operations -/

namespace Law

open CxxWriter.Action

variable {p : Op → Bool} {I : {α : Type} → Action α → Prop} {J : Action Reply → Prop}

theorem emitText (h : Law p I J) (t : String) : I (Action.emitText t) :=
  h.append (Buffer.isAppend_emit t)

theorem fragment (h : Law p I J) (v : Value) : I (Action.report (.fragment v)) :=
  h.report (Reporting.steady_fragment v)

theorem literal (h : Law p I J) (v : Value) : I (Action.report (.literal v)) :=
  h.report (Reporting.steady_literal v)

theorem declaration (h : Law p I J) (v : Value) : I (Action.report (.declaration v)) :=
  h.report (Reporting.steady_declaration v)

theorem separator (h : Law p I J) : I Action.separator := h.emitText ""

theorem silent (h : Law p I J) {a : Action Unit} (ha : I a) : J (Op.silent a) :=
  h.reply (h.next ha fun _ => h.result _)

theorem returnType (h : Law p I J) (d : Declaration) : I (Action.returnType d) := by
  unfold Action.returnType
  split
  · exact h.result _
  · exact h.emitText _

theorem members (h : Law p I J) (lead : String) (initial : List (Value × Value)) :
    I (Action.members lead initial) := by
  induction initial generalizing lead with
  | nil => exact h.result _
  | cons e rest ih =>
    refine h.next (h.fragment _) fun name => h.next (h.fragment _) fun value => ?_
    refine h.next (h.append ?_) fun _ => ih "  "
    refine ⟨fun d u _ => Buffer.indentationOf d u ++ lead ++ name ++ "(" ++
      Action.memberValue ⟨[], d, u⟩ value ++ ")" ++ (if rest.isEmpty then "" else ",") ++ "\n",
      fun b => ⟨?_, rfl, rfl⟩⟩
    simp only [Buffer.newline, Buffer.emitRaw, Buffer.text_push, String.append_assoc]
    rfl

mutual

/-- The property holds of every operation. -/
theorem perform (h : Law p I J) : ∀ op : Op, op.everywhere p = true → J op.perform
  | .noted label op, hp => by
    simp only [Op.everywhere, Bool.and_eq_true] at hp
    exact h.noted label (perform h op hp.2)
  | .newline, _ => h.silent (h.append Buffer.isAppend_newline)
  | .stripNewlines, hp => h.silent (h.strip hp)
  | .emit _, _ => h.silent (h.next (h.fragment _) fun _ => h.emitText _)
  | .emitOpen _, _ => h.silent (h.next (h.fragment _) fun s => h.append (Buffer.isAppend_emitOpen s))
  | .emitRaw _, _ => h.silent (h.next (h.fragment _) fun s => h.append (Buffer.isAppend_emitRaw s))
  | .comment _, _ =>
    h.silent (h.next (h.fragment _) fun s => h.append (Buffer.isAppend_emitComment s))
  | .separator, _ => h.silent h.separator
  | .setUnit unit, hp => h.silent (h.setUnit unit hp)
  | .snapshot, _ => h.snapshot
  | .state, _ => h.state
  | .literal _, _ => h.reply (h.next (h.literal _) fun _ => h.result _)
  | .indented body _, hp =>
    h.reply (h.next (h.indented (performAll h body (Op.everywhere_body hp))) fun _ => h.result _)
  | .attempt body, hp => h.reply (h.attempt (performAll h body (Op.everywhere_body hp)))
  | .fail _, _ => h.reply (h.failure _)
  | .includeHeader _, _ => h.silent (h.next (h.fragment _) fun _ => h.emitText _)
  | .define _, _ => h.silent (h.next (h.fragment _) fun _ => h.emitText _)
  | .defineString _ _, _ =>
    h.silent (h.next (h.fragment _) fun _ => h.next (h.literal _) fun _ => h.emitText _)
  | .guarded name body, hp => by
    have hb := performAll h body (Op.everywhere_body hp)
    exact h.silent <| h.next (h.fragment _) fun _ => h.next (h.emitText _) fun _ =>
      h.next (h.emitText _) fun _ => h.next h.separator fun _ => h.next hb fun _ =>
      h.next h.separator fun _ => h.emitText _
  | .struct name body, hp => by
    have hb := performAll h body (Op.everywhere_body hp)
    exact h.silent <| h.next (h.fragment _) fun _ => h.next (h.emitText _) fun _ =>
      h.next (h.indented hb) fun _ => h.emitText _
  | .typedefStruct name body, hp => by
    have hb := performAll h body (Op.everywhere_body hp)
    exact h.silent <| h.next (h.emitText _) fun _ => h.next (h.indented hb) fun _ =>
      h.next (h.fragment _) fun _ => h.emitText _
  | .function declaration body, hp => by
    have hb := performAll h body (Op.everywhere_body hp)
    exact h.silent <| h.next (h.declaration _) fun d => h.next (h.returnType d) fun _ =>
      h.next (h.emitText _) fun _ => h.next (h.indented hb) fun _ =>
      h.next (h.emitText _) fun _ => h.separator
  | .constructor declaration initial body, hp => by
    have hb := performAll h body (Op.everywhere_body hp)
    exact h.silent <| h.next (h.declaration _) fun d => h.next (h.returnType d) fun _ =>
      h.next (h.emitText _) fun _ => h.next (h.indented (h.members _ initial)) fun _ =>
      h.next (h.emitText _) fun _ => h.next (h.indented hb) fun _ =>
      h.next (h.emitText _) fun _ => h.separator
  | .declare _, _ => h.silent (h.next (h.fragment _) fun _ => h.emitText _)
  | .declareValue _ _, _ =>
    h.silent (h.next (h.fragment _) fun _ => h.next (h.fragment _) fun _ => h.emitText _)
  | .declareWith declaration body, hp =>
    h.silent (h.declareWith declaration (performAll h body (Op.everywhere_body hp)))
  | .declareInitializer declaration handle, _ =>
    h.reply <| h.next (h.placeOf handle) fun place =>
      h.next (h.declareWith declaration (h.writeInitializer place)) fun _ => h.result _
  | .beginInitializer brackets handle, _ =>
    h.reply <| h.next (h.begin brackets) fun place =>
      h.next (h.setHandle handle place) fun _ => h.result _
  | .element handle code, _ =>
    h.reply <| h.next (h.placeOf handle) fun place =>
      h.next (h.addElement place code) fun _ => h.result _
  | .stringElement handle text, _ =>
    h.reply <| h.next (h.placeOf handle) fun place =>
      h.next (h.next (h.literal _) fun _ => h.addElement place _) fun _ => h.result _
  | .nested handle brackets child, _ => by
    have hn (place : Nat) := h.next (h.nested place brackets child) fun _ => h.result Reply.nothing
    simp only [bind_assoc] at hn
    exact h.reply (h.next (h.placeOf handle) hn)
  | .nestedWith handle brackets child body, hp => by
    have hb := performAll h body (Op.everywhere_body hp)
    have hn (place : Nat) := h.next (h.nestedWith place brackets child hb)
      fun _ => h.result Reply.nothing
    simp only [bind_assoc] at hn
    exact h.reply (h.next (h.placeOf handle) hn)
  | .writeInitializer handle, _ =>
    h.reply <| h.next (h.placeOf handle) fun place =>
      h.next (h.writeInitializer place) fun _ => h.result _
  | .initializer brackets handle body, hp => by
    have hb := performAll h body (Op.everywhere_body hp)
    exact h.reply <| h.next (h.begin brackets) fun place => h.next (h.setHandle handle place)
      fun _ => h.next hb fun _ => h.next (h.writeInitializer place) fun _ => h.result _
  | .elementCount handle, _ =>
    h.reply <| h.next (h.placeOf handle) fun place =>
      h.ask fun f => Reply.value (.int (f.elementCount place))
  | .isRoot handle, _ =>
    h.reply <| h.next (h.placeOf handle) fun place =>
      h.ask fun f => Reply.value (.bool (f.isRoot place))
  | .treeOf handle, _ =>
    h.reply (h.next (h.placeOf handle) fun place => h.ask fun f => Reply.tree (f.tree place))
  | .writeTree t, _ => h.silent (h.writeTree t)
  | .template _ _, hp => h.template _ rfl hp
  | .templateFile _ _, hp => h.template _ rfl hp
  | .addTemplate _ _, hp => h.template _ rfl hp
  | .hasTemplate _, hp => h.template _ rfl hp

theorem performAll (h : Law p I J) :
    ∀ ops : List Op, Op.allEverywhere p ops = true → I (Op.performAll ops)
  | [], _ => h.result ()
  | op :: ops, hp => by
    simp only [Op.allEverywhere, Bool.and_eq_true] at hp
    exact h.next (h.discarded (perform h op hp.1)) fun _ => performAll h ops hp.2

end

end Law

end CxxWriter
