/-
  A writer whose text is one string.

  * `TextOp` are the operations on text alone: what is written and how deep,
    the line feeds taken off the end, the questions what is there, and bodies of
    these with errors raised and handled in them;
  * `PlainSession` is the state of a writer that keeps one string, and
    `TextOp.perform` what the operations do to it;
  * `refines_perform`: a session in which they are carried out comes to the same
    answers, errors, records and text;
  * `GainReads`: scripts that differ in questions put in between.  A question
    does nothing to a plain session (`perform_question`), so such scripts come
    to the same.
-/
import CxxWriter.Proofs.Draft
import CxxWriter.Proofs.Initializer

namespace CxxWriter

/-! ## Operations on text -/

/-- An operation on text alone. -/
inductive TextOp where
  | noted (label : String) (op : TextOp)
  | newline
  | stripNewlines
  | emit (code : Value)
  | emitOpen (code : Value)
  | emitRaw (text : Value)
  | comment (text : Value)
  | setUnit (unit : Value)
  | writeTree (tree : Tree)
  /-- What is the text? -/
  | snapshot
  /-- Would the next character start a line, how deep is it and what is the unit
      of indentation? -/
  | place
  | indented (body : List TextOp) (reply : Value)
  | attempt (body : List TextOp)
  | fail (message : String)

namespace TextOp

mutual

/-- The operation of a script. -/
def op : TextOp → Op
  | noted label o => .noted label o.op
  | newline => .newline
  | stripNewlines => .stripNewlines
  | emit code => .emit code
  | emitOpen code => .emitOpen code
  | emitRaw text => .emitRaw text
  | comment text => .comment text
  | setUnit unit => .setUnit unit
  | writeTree tree => .writeTree tree
  | snapshot => .snapshot
  | place => .state
  | indented body reply => .indented (ops body) reply
  | attempt body => .attempt (ops body)
  | fail message => .fail message

/-- The operations of a script. -/
def ops : List TextOp → List Op
  | [] => []
  | o :: os => o.op :: ops os

end

/-- Does an operation only ask what is there? -/
def isQuestion : TextOp → Bool
  | snapshot | place => true
  | _ => false

end TextOp

/-! ## The plain writer -/

/-- What an operation gives back. -/
inductive Answer where
  | nothing
  | value (v : Value)
  | place (startsLine : Bool) (depth : Nat) (unit : String)
  | tree (t : Tree)
  | caught (e : Error)

/-- A note about an operation, taken when it ended. -/
structure PlainStep where
  label : String
  text : String
  startsLine : Bool
  depth : Nat
  unit : String
  outcome : Except Error Answer

/-- The state of a writer that keeps one string. -/
structure PlainSession where
  draft : Draft
  log : Log
  /-- The notes, in order. -/
  trace : List PlainStep

/-- What is done with a plain session: it ends with a result or an error. -/
abbrev PlainAction (β : Type) := PlainSession → Except Error β × PlainSession

namespace PlainAction

/-- Refuses a value and keeps records of it. -/
def refuse (v : Value) (records : Log) : PlainAction Answer := fun p =>
  (.error (.unfit v), { p with log := p.log ++ records })

/-- Changes the draft. -/
def change (f : Draft → Draft) (p : PlainSession) : Except Error Answer × PlainSession :=
  (.ok .nothing, { p with draft := f p.draft })

/-- Changes the draft by a fragment. -/
def write (f : Draft → String → Draft) (v : Value) : PlainAction Answer :=
  match v.fragment? with
  | some s => change (f · s)
  | none => refuse v (Reporting.rejection v)

/-- The record of a change of the unit that leaves lines of another one above. -/
def mixedUnits (unit : String) : LogRecord :=
  ⟨.warning, .buffer, "Indent string changed to " ++ Text.quote unit ++
    " after output was written; existing lines keep their indentation"⟩

/-- Changes the unit of indentation for what follows. -/
def setUnit (v : Value) (p : PlainSession) : Except Error Answer × PlainSession :=
  match v.asText? with
  | some unit => (.ok .nothing, { p with
      draft := p.draft.withUnit unit
      log := if p.draft.mixesUnits unit then p.log ++ [mixedUnits unit] else p.log })
  | none => refuse v [⟨.error, .buffer, "Rejected indent unit of type " ++ v.kindName⟩] p

/-- Writes a tree. -/
def writeTree (t : Tree) (p : PlainSession) : Except Error Answer × PlainSession :=
  match Draft.writeTree t p.draft with
  | (d, none) => (.ok .nothing, { p with draft := d })
  | (d, some v) => refuse v (Reporting.rejection v) { p with draft := d }

/-- Does something and notes how it ended. -/
def noted (label : String) (f : PlainAction Answer) (p : PlainSession) :
    Except Error Answer × PlainSession :=
  let d := (f p).2.draft
  ((f p).1, { (f p).2 with trace := (f p).2.trace ++
    [⟨label, d.text, d.startsLine, d.depth, d.unit, (f p).1⟩] })

/-- Does something one level deeper, however that ends. -/
def indented (f : PlainAction Unit) (reply : Value) (p : PlainSession) :
    Except Error Answer × PlainSession :=
  let result := f { p with draft := p.draft.enter }
  (result.1.map fun _ => .value reply, { result.2 with draft := result.2.draft.leave })

/-- Does something and gives the error it ends with, if that is one which can be
    handled. -/
def attempt (f : PlainAction Unit) (p : PlainSession) : Except Error Answer × PlainSession :=
  match f p with
  | (.ok (), p) => (.ok .nothing, p)
  | (.error e, p) => (if e.isOwn then .ok (.caught e) else .error e, p)

/-- Does one thing after another, if the first did not fail. -/
def next (f : PlainAction Answer) (f' : PlainAction Unit) (p : PlainSession) :
    Except Error Unit × PlainSession :=
  match f p with
  | (.ok _, p) => f' p
  | (.error e, p) => (.error e, p)

end PlainAction

namespace TextOp

mutual

/-- Carries out an operation. -/
def perform : TextOp → PlainAction Answer
  | noted label o => o.perform.noted label
  | newline => .change Draft.newline
  | stripNewlines => .change Draft.strip
  | emit code => .write Draft.emit code
  | emitOpen code => .write Draft.emitOpen code
  | emitRaw text => .write Draft.append text
  | comment text => .write Draft.comment text
  | setUnit unit => .setUnit unit
  | writeTree tree => .writeTree tree
  | snapshot => fun p => (.ok (.value (.text p.draft.text)), p)
  | place => fun p => (.ok (.place p.draft.startsLine p.draft.depth p.draft.unit), p)
  | indented body reply => (performAll body).indented reply
  | attempt body => (performAll body).attempt
  | fail message => fun p => (.error (.user message), p)

/-- Carries out operations in order, up to the first that fails. -/
def performAll : List TextOp → PlainAction Unit
  | [] => fun p => (.ok (), p)
  | o :: os => o.perform.next (performAll os)

end

/-- Carries out operations in order, each whether or not the one before it
    failed.  The notes of all are left. -/
def play : List TextOp → PlainSession → PlainSession
  | [], p => { p with trace := [] }
  | o :: os, p =>
    let p := (o.perform { p with trace := [] }).2
    let rest := play os p
    { rest with trace := p.trace ++ rest.trace }

end TextOp

/-! ## What a session shows -/

/-- What a reply tells. -/
def Reply.answer : Reply → Answer
  | .nothing => .nothing
  | .value v => .value v
  | .buffer b => .place b.atLineStart b.depth b.unit
  | .tree t => .tree t
  | .caught e => .caught e

/-- What a note tells. -/
def Step.plain (n : Step) : PlainStep :=
  ⟨n.label, n.buffer.text, n.buffer.atLineStart, n.buffer.depth, n.buffer.unit,
    n.outcome.map Reply.answer⟩

/-- A session with its text in one piece. -/
def Session.plain (s : Session) : PlainSession := ⟨s.buffer.draft, s.log, s.trace.map Step.plain⟩

namespace Action

variable {α β : Type}

/-- Does an action come to what `f` tells of the plain session, if its result is
    seen through `g`? -/
def Refines (g : α → β) (a : Action α) (f : PlainAction β) : Prop :=
  ∀ s, ((a.apply s).1.map g, (a.apply s).2.plain) = f s.plain

/-- An action that gives nothing back is answered with nothing. -/
abbrev RefinesSilent (a : Action Unit) (f : PlainAction Answer) : Prop :=
  Refines (fun _ => Answer.nothing) a f

theorem RefinesSilent.silent {a : Action Unit} {f : PlainAction Answer} (h : RefinesSilent a f) :
    Refines Reply.answer (Op.silent a) f := by
  intro s
  rw [← h s, Op.silent, apply_bind]
  rcases a.apply s with ⟨_ | _, t⟩ <;> rfl

theorem refines_change {f : Buffer → Buffer} {f' : Draft → Draft}
    (h : ∀ b, (f b).draft = f' b.draft) : RefinesSilent (changeBuffer f) (.change f') := by
  intro s
  rw [apply_changeBuffer, PlainAction.change]
  show (Except.ok Answer.nothing, PlainSession.mk (f s.buffer).draft s.log _) = _
  rw [h]
  rfl

theorem refines_write {f : Buffer → String → Buffer} {f' : Draft → String → Draft}
    (h : ∀ b t, (f b t).draft = f' b.draft t) (v : Value) :
    RefinesSilent (report (.fragment v) >>= fun t => changeBuffer (f · t)) (.write f' v) := by
  intro s
  rw [PlainAction.write]
  cases hv : v.fragment? with
  | some t =>
    rw [apply_bind_ok (apply_report_tells (Reporting.tells_fragment hv) s), List.append_nil]
    exact refines_change (h · t) s
  | none =>
    rw [apply_bind_error (apply_report_tells (Reporting.tells_fragment_none hv) s)]
    rfl

theorem refines_setUnit (v : Value) : RefinesSilent (setUnit v) (.setUnit v) := by
  intro s
  rw [setUnit, PlainAction.setUnit]
  cases hv : v.asText? with
  | some unit =>
    have hr : (report (Reporting.unitText v)).apply s = (.ok unit, s) := by
      rw [Reporting.unitText, hv]; rfl
    have hmixes : s.plain.draft.mixesUnits unit = s.buffer.mixesUnits unit :=
      (Buffer.mixesUnits_draft _ _).symm
    rw [apply_bind_ok hr, apply_bind_ok (apply_get s)]
    dsimp only
    rw [hmixes]
    cases s.buffer.mixesUnits unit <;> rfl
  | none =>
    have hr : (report (Reporting.unitText v)).apply s = (.error (.unfit v),
        { s with log := s.log ++
          [⟨.error, .buffer, "Rejected indent unit of type " ++ v.kindName⟩] }) := by
      rw [Reporting.unitText, hv]; rfl
    rw [apply_bind_error hr]
    rfl

theorem refines_writeTree (t : Tree) : RefinesSilent (writeTree t) (.writeTree t) := by
  intro s
  rw [PlainAction.writeTree, show s.plain.draft = s.buffer.draft from rfl,
    ← Tree.draft_write t s.buffer]
  cases hr : (t.write s.buffer).rejected with
  | none =>
    rw [apply_writeTree_written hr]
    rfl
  | some v =>
    obtain ⟨b, hb⟩ := Tree.exists_refusedAt t hr
    rw [apply_writeTree_rejected hb.write.1 hr]
    rfl

theorem Refines.noted (label : String) {a : Action Reply} {f : PlainAction Answer}
    (h : Refines Reply.answer a f) : Refines Reply.answer (noted label a) (f.noted label) := by
  intro s
  rw [apply_noted, PlainAction.noted, ← h s]
  dsimp only [Session.plain, Step.plain]
  rw [List.map_append, ← Buffer.atLineStart_draft]
  rfl

theorem Refines.indented (reply : Value) {a : Action Unit} {f : PlainAction Unit}
    (h : Refines id a f) :
    Refines Reply.answer (do Action.indented a; return .value reply) (f.indented reply) := by
  intro s
  have hs : f { s.plain with draft := s.plain.draft.enter } = _ :=
    (h { s with buffer := s.buffer.enter }).symm
  rw [PlainAction.indented, hs, apply_bind, apply_indented]
  rcases a.apply { s with buffer := s.buffer.enter } with ⟨_ | _, t⟩ <;> rfl

theorem Refines.attempt {a : Action Unit} {f : PlainAction Unit} (h : Refines id a f) :
    Refines Reply.answer (Action.attempt a) f.attempt := by
  intro s
  rw [apply_attempt, PlainAction.attempt, ← h s]
  rcases a.apply s with ⟨e | _, t⟩
  · show (((if e.isOwn then .ok (.caught e) else .error e) : Except Error Reply).map Reply.answer, _) =
      ((if e.isOwn then .ok (.caught e) else .error e), _)
    split <;> rfl
  · rfl

theorem Refines.next {a : Action Reply} {b : Action Unit} {f : PlainAction Answer}
    {f' : PlainAction Unit} (ha : Refines Reply.answer a f) (hb : Refines id b f') :
    Refines id (do discard a; b) (f.next f') := by
  intro s
  rw [PlainAction.next, ← ha s, discard_eq, bind_assoc, apply_bind]
  rcases a.apply s with ⟨_ | x, t⟩
  · rfl
  · exact hb t

end Action

namespace TextOp

open CxxWriter.Action

mutual

/-- An operation comes to what it comes to for the plain writer. -/
theorem refines_perform : ∀ o : TextOp, Refines Reply.answer o.op.perform o.perform
  | .noted label o => (refines_perform o).noted label
  | .newline => (refines_change Buffer.draft_newline).silent
  | .stripNewlines => (refines_change Buffer.draft_stripNewlines).silent
  | .emit code => (refines_write Buffer.draft_emit code).silent
  | .emitOpen code => (refines_write Buffer.draft_emitOpen code).silent
  | .emitRaw text => (refines_write Buffer.draft_emitRaw text).silent
  | .comment text => (refines_write Buffer.draft_emitComment text).silent
  | .setUnit unit => (refines_setUnit unit).silent
  | .writeTree tree => (refines_writeTree tree).silent
  | .snapshot => fun s => by
    show (Except.ok (Answer.value (.text s.buffer.joined.text)),
      PlainSession.mk s.buffer.joined.draft s.log _) = _
    rw [Buffer.draft_joined, Buffer.joined_text]
    rfl
  | .place => fun s => by
    show (Except.ok (Answer.place s.buffer.atLineStart s.buffer.depth s.buffer.unit), s.plain) = _
    rw [Buffer.atLineStart_draft]
    rfl
  | .indented body reply => (refines_performAll body).indented reply
  | .attempt body => (refines_performAll body).attempt
  | .fail _ => fun _ => rfl

theorem refines_performAll : ∀ os : List TextOp, Refines id (Op.performAll (ops os)) (performAll os)
  | [] => fun _ => rfl
  | o :: os => (refines_perform o).next (refines_performAll os)

end

/-- A script comes to what it comes to for the plain writer, whether or not
    operations fail. -/
theorem plain_play (os : List TextOp) (s : Session) :
    play os s.plain =
      ⟨(s.play (ops os)).session.buffer.draft, (s.play (ops os)).session.log,
        (s.play (ops os)).notes.flatten.map Step.plain⟩ := by
  induction os generalizing s with
  | nil => rfl
  | cons o os ih =>
    have ho := refines_perform o { s with trace := [] }
    rw [play]
    rw [show ({ s.plain with trace := [] } : PlainSession) =
      ({ s with trace := [] } : Session).plain from rfl, ← ho]
    dsimp only
    rw [ih]
    show PlainSession.mk _ _ _ = PlainSession.mk _ _ (List.map Step.plain (_ ++ _))
    rw [List.map_append]
    rfl

/-! ## Questions in between -/

mutual

/-- Does the second operation have questions in its bodies that the first one
    does not have? -/
inductive GainsReads : TextOp → TextOp → Prop
  | same (o : TextOp) : GainsReads o o
  | noted {o o' : TextOp} (label : String) : GainsReads o o' →
      GainsReads (.noted label o) (.noted label o')
  | indented {body body' : List TextOp} (reply : Value) : GainReads body body' →
      GainsReads (.indented body reply) (.indented body' reply)
  | attempt {body body' : List TextOp} : GainReads body body' →
      GainsReads (.attempt body) (.attempt body')

/-- Are there questions between and in the second operations that there are not
    in the first ones? -/
inductive GainReads : List TextOp → List TextOp → Prop
  | nil : GainReads [] []
  | cons {o o' : TextOp} {os os' : List TextOp} : GainsReads o o' → GainReads os os' →
      GainReads (o :: os) (o' :: os')
  | question {q : TextOp} {os os' : List TextOp} : q.isQuestion = true → GainReads os os' →
      GainReads os (q :: os')

end

/-- A question is answered, and leaves the plain session as it is. -/
theorem perform_question {q : TextOp} (hq : q.isQuestion = true) (p : PlainSession) :
    ∃ answer, q.perform p = (.ok answer, p) := by
  cases q with
  | snapshot | place => exact ⟨_, rfl⟩
  | _ => cases hq

mutual

theorem GainsReads.perform_eq : ∀ {o o' : TextOp}, GainsReads o o' → o'.perform = o.perform
  | _, _, .same _ => rfl
  | _, _, .noted _ h => by rw [perform, perform, h.perform_eq]
  | _, _, .indented _ h => by rw [perform, perform, h.performAll_eq]
  | _, _, .attempt h => by rw [perform, perform, h.performAll_eq]

theorem GainReads.performAll_eq : ∀ {os os' : List TextOp}, GainReads os os' →
    performAll os' = performAll os
  | _, _, .nil => rfl
  | _, _, .cons h hs => by rw [performAll, performAll, h.perform_eq, hs.performAll_eq]
  | _, _, .question hq hs => by
    funext p
    obtain ⟨answer, ha⟩ := perform_question hq p
    rw [performAll, PlainAction.next, ha, hs.performAll_eq]

end

theorem play_trace (os : List TextOp) (p : PlainSession) (trace : List PlainStep) :
    play os { p with trace := trace } = play os p := by
  cases os <;> rfl

/-- Nor do questions make a difference to what a script comes to. -/
theorem GainReads.play_eq {os os' : List TextOp} (h : GainReads os os') (p : PlainSession) :
    play os' p = play os p := by
  induction os' generalizing os p with
  | nil => cases h; rfl
  | cons o' os' ih =>
    cases h with
    | cons ho hs => rw [play, play, ho.perform_eq, ih hs]
    | question hq hs =>
      obtain ⟨answer, ha⟩ := perform_question hq { p with trace := [] }
      rw [play, ha]
      dsimp only
      rw [play_trace, ih hs]
      rfl

end TextOp

open TextOp

/-- **A buffer holds one text.**  Whatever was written before, a script of
    operations on text leaves what it leaves to a writer that keeps one string:
    the text, the depth, the unit, the records, the notes with their answers and
    errors.  A line starts exactly at the start of the text and after a line
    feed.  Questions put anywhere in between make no difference. -/
theorem buffer_holds_one_text (os : List TextOp) (s : Session) :
    let run := s.play (ops os)
    let plain := play os s.plain
    ((Op.snapshot.perform.apply run.session).1 = .ok (.value (.text plain.draft.text)) ∧
      (run.session.buffer.atLineStart = true ↔
        plain.draft.text = "" ∨ ∃ t, plain.draft.text = t ++ "\n") ∧
      run.session.buffer.depth = plain.draft.depth ∧ run.session.buffer.unit = plain.draft.unit ∧
      run.session.log = plain.log ∧ run.notes.flatten.map Step.plain = plain.trace) ∧
    ∀ os', GainReads os os' →
      let run' := s.play (ops os')
      run'.session.buffer.text = run.session.buffer.text ∧
      run'.session.buffer.atLineStart = run.session.buffer.atLineStart ∧
      run'.session.buffer.depth = run.session.buffer.depth ∧
      run'.session.buffer.unit = run.session.buffer.unit ∧
      run'.session.log = run.session.log ∧
      run'.notes.flatten.map Step.plain = run.notes.flatten.map Step.plain := by
  intro run plain
  have hrun : plain = ⟨run.session.buffer.draft, run.session.log, run.notes.flatten.map Step.plain⟩ :=
    plain_play os s
  have hdraft : plain.draft = run.session.buffer.draft := congrArg PlainSession.draft hrun
  refine ⟨⟨?_, ?_, ?_, ?_, ?_, ?_⟩, fun os' h => ?_⟩
  · show Except.ok (Reply.value (.text run.session.buffer.joined.text)) = _
    rw [Buffer.joined_text, hdraft]
    rfl
  · rw [Buffer.atLineStart_draft, ← hdraft]
    exact Buffer.startsLine_iff _
  · rw [hdraft]; rfl
  · rw [hdraft]; rfl
  · rw [hrun]
  · rw [hrun]
  · intro run'
    have hrun' : plain = ⟨run'.session.buffer.draft, run'.session.log,
        run'.notes.flatten.map Step.plain⟩ := (h.play_eq s.plain).symm.trans (plain_play os' s)
    obtain ⟨hd, hlog, htrace⟩ := PlainSession.mk.inj (hrun'.symm.trans hrun)
    refine ⟨congrArg Draft.text hd, ?_, congrArg Draft.depth hd, congrArg Draft.unit hd, hlog, htrace⟩
    rw [Buffer.atLineStart_draft, Buffer.atLineStart_draft, hd]

/-- Questions before, between and in operations of which one is an empty text, one
    warns of a change of the unit, and one fails. -/
theorem buffer_holds_one_text_asked :
    let s := Session.start .empty Config.default "\t" Files.empty []
    let fails (q : List TextOp) := [.emit (.text "b"), .fail "stop"] ++ q
    let os (q : List TextOp) := q ++ [.emitRaw (.text ""), .setUnit (.text "  ")] ++ q ++
      [.indented (q ++ fails q) .null, .stripNewlines] ++ q
    let asked := os [.snapshot, .place]
    GainReads (os []) asked ∧
      (s.play (ops asked)).session.buffer.text = (s.play (ops (os []))).session.buffer.text := by
  intro s fails os asked
  have ask {os os' : List TextOp} (h : GainReads os os') :
      GainReads os (.snapshot :: .place :: os') := .question rfl (.question rfl h)
  have h : GainReads (os []) asked :=
    ask <| .cons (.same _) <| .cons (.same _) <| ask <|
      .cons (.indented _ (ask (.cons (.same _) (.cons (.same _) (ask .nil))))) <|
      .cons (.same _) (ask .nil)
  exact ⟨h, ((buffer_holds_one_text (os []) s).2 asked h).1⟩

end CxxWriter
