/-
  The phases of an operation.

  * `Op.opening` is what an operation does before its body.  It gives the
    `Ending`, which gives the `Closing`: a tree that is written, and a last
    change, which cannot fail;
  * `Op.unwind` is what an operation does when its body fails;
  * `phased_perform`: an operation is its phases, one after the other;
  * `perform_opening_error`, `perform_body_error` and `perform_body_ok` say how
    it ends, by the phase that fails.
-/
import CxxWriter.Proofs.Initializer

namespace CxxWriter

open CxxWriter.Action

/-- The last phase of an operation. -/
structure Closing where
  /-- The tree that is written first. -/
  tree : Option Tree
  /-- What becomes of the session in the end. -/
  change : Session → Session
  reply : Reply

/-- What an operation does after its body. -/
structure Ending where
  /-- The composites that get a nested one in the end. -/
  places : List Nat
  closing : Action Closing

namespace Closing

/-- A closing that gives something back, and nothing else. -/
def replying (r : Reply) : Closing := ⟨none, id, r⟩

/-- A closing that changes the buffer. -/
def changing (f : Buffer → Buffer) : Closing :=
  ⟨none, fun s => { s with buffer := f s.buffer }, .nothing⟩

/-- Carries out a closing. -/
def perform (c : Closing) : Action Reply := do
  (match c.tree with
    | some t => writeTree t
    | none => pure ())
  modify c.change
  return c.reply

end Closing

/-- Carries out an ending. -/
def Ending.perform (e : Ending) : Action Reply := e.closing >>= Closing.perform

namespace Op

/-! ## The phases -/

/-- What an operation does before its body. -/
def opening : Op → Action Ending
  | indented _ reply => do
    changeBuffer (·.enter)
    return ⟨[], do
      changeBuffer (·.leave)
      return .replying (.value reply)⟩
  | attempt _ => return ⟨[], return .replying .nothing⟩
  | guarded name _ => do
    let name ← report (.fragment name)
    emitText ("#ifndef " ++ name)
    defineText name
    Action.separator
    return ⟨[], return .changing fun b => (b.emit "").emit ("#endif /* " ++ name ++ " */")⟩
  | struct name _ => do
    let name ← report (.fragment name)
    emitText ("struct " ++ name ++ " \x7b")
    changeBuffer (·.enter)
    return ⟨[], do
      changeBuffer (·.leave)
      return .changing (·.emit "\x7d;")⟩
  | typedefStruct name _ => do
    emitText "typedef struct \x7b"
    changeBuffer (·.enter)
    return ⟨[], do
      changeBuffer (·.leave)
      let name ← report (.fragment name)
      return .changing (·.emit ("\x7d " ++ name ++ ";"))⟩
  | function declaration _ => do
    let d ← report (.declaration declaration)
    returnType d
    emitText (d.signature ++ " \x7b")
    changeBuffer (·.enter)
    return ⟨[], do
      changeBuffer (·.leave)
      return .changing fun b => (b.emit "\x7d").emit ""⟩
  | constructor declaration initial _ => do
    let d ← report (.declaration declaration)
    returnType d
    emitText d.signature
    Action.indented (members ": " initial)
    emitText "\x7b"
    changeBuffer (·.enter)
    return ⟨[], do
      changeBuffer (·.leave)
      return .changing fun b => (b.emit "\x7d").emit ""⟩
  | declareWith declaration _ => do
    let s ← report (.fragment declaration)
    changeBuffer fun b => (b.emitOpen (s ++ " =")).emitRaw " "
    return ⟨[], return .changing (·.closeValue)⟩
  | declareInitializer declaration handle => do
    let place ← placeOf handle
    let s ← report (.fragment declaration)
    changeBuffer fun b => (b.emitOpen (s ++ " =")).emitRaw " "
    let t ← closeRoot place
    return ⟨[], return ⟨some t, fun s => { s with buffer := s.buffer.closeValue }, .nothing⟩⟩
  | nestedWith handle brackets child _ => do
    let place ← placeOf handle
    let inner ← beginNested place brackets
    setHandle child inner
    return ⟨[place], return ⟨none, fun s => { s with
      forest := s.forest.attach place (.composite inner) }, .nothing⟩⟩
  | writeInitializer handle => do
    let place ← placeOf handle
    let t ← closeRoot place
    return ⟨[], return ⟨some t, id, .nothing⟩⟩
  | initializer brackets handle _ => do
    let place ← Action.beginInitializer brackets
    setHandle handle place
    return ⟨[], do
      let t ← closeRoot place
      return ⟨some t, id, .nothing⟩⟩
  | writeTree t => return ⟨[], return ⟨some t, id, .nothing⟩⟩
  | op => do
    let r ← op.perform
    return ⟨[], return .replying r⟩

/-- What an operation does when its body fails. -/
def unwind : Op → Error → Session → Except Error Reply × Session
  | indented .., e, s | struct .., e, s | typedefStruct .., e, s | function .., e, s
  | constructor .., e, s => (.error e, { s with buffer := s.buffer.leave })
  | attempt _, e, s => (attempted (.error e), s)
  | _, e, s => (.error e, s)

theorem unwind_forest (op : Op) (e : Error) (s : Session) :
    (op.unwind e s).2.forest = s.forest := by
  cases op <;> rfl

/-- Only the depth changes when an error leaves an operation. -/
theorem unwind_text (op : Op) (e : Error) (s : Session) :
    (op.unwind e s).2.buffer.text = s.buffer.text := by
  cases op <;> rfl

end Op

namespace Action

variable {α : Type}

/-- Does an action begin with `opening`, go on with `body`, and then carry out
    the ending or, if the body fails, `unwind`? -/
def Phased (opening : Action Ending) (body : Action Unit)
    (unwind : Error → Session → Except Error Reply × Session) (a : Action Reply) : Prop :=
  ∀ s, a.apply s = match opening.apply s with
    | (.error e, t) => (.error e, t)
    | (.ok ending, t) => match body.apply t with
      | (.error e, u) => unwind e u
      | (.ok (), u) => ending.perform.apply u

/-- A common beginning. -/
theorem Phased.after {a : Action α} {f : α → Action Ending} {g : α → Action Reply}
    {body : Action Unit} {unwind : Error → Session → Except Error Reply × Session}
    (h : ∀ x, Phased (f x) body unwind (g x)) : Phased (a >>= f) body unwind (a >>= g) := by
  intro s
  rcases e : a.apply s with ⟨_ | x, t⟩
  · rw [apply_bind_error e, apply_bind_error e]
  · rw [apply_bind_ok e, apply_bind_ok e]
    exact h x t

/-- A body that is carried out as it is. -/
theorem phased_plain (body : Action Unit) (ending : Ending) :
    Phased (pure ending) body (fun e s => (.error e, s)) (body >>= fun _ => ending.perform) := by
  intro s
  rw [apply_bind]
  dsimp only [apply_pure]
  rcases body.apply s with ⟨_ | _, t⟩ <;> rfl

/-- A body that is carried out one level deeper. -/
theorem phased_indented (body : Action Unit) (places : List Nat) (closing : Action Closing) :
    Phased
      (do changeBuffer (·.enter); return ⟨places, do changeBuffer (·.leave); closing⟩) body
      (fun e s => (.error e, { s with buffer := s.buffer.leave }))
      (indented body >>= fun _ => closing >>= Closing.perform) := by
  intro s
  rw [apply_bind, apply_indented]
  show _ = match body.apply { s with buffer := s.buffer.enter } with
    | (Except.error e, u) => (Except.error e, { u with buffer := u.buffer.leave })
    | (Except.ok (), u) =>
      ((changeBuffer (·.leave) >>= fun _ => closing) >>= Closing.perform).apply u
  rcases body.apply { s with buffer := s.buffer.enter } with ⟨_ | _, t⟩
  · rfl
  · rw [bind_assoc]
    rfl

/-- An action without a body. -/
theorem phased_whole (a : Action Reply) (unwind : Error → Session → Except Error Reply × Session) :
    Phased (do let r ← a; return ⟨[], return .replying r⟩) (pure ()) unwind a := by
  intro s
  rcases e : a.apply s with ⟨_ | r, t⟩
  · rw [apply_bind_error e]
  · rw [apply_bind_ok e]
    rfl

/-- Every operation goes through its phases. -/
theorem phased_perform (op : Op) :
    Phased op.opening (Op.performAll op.body) op.unwind op.perform := by
  cases op with
  | indented body reply => exact phased_indented _ _ _
  | attempt body =>
    intro s
    show (attempt (Op.performAll body)).apply s = _
    rw [apply_attempt]
    show _ = match (Op.performAll body).apply s with
      | (Except.error e, u) => (attempted (.error e), u)
      | (Except.ok (), u) => (Except.ok Reply.nothing, u)
    rcases (Op.performAll body).apply s with ⟨_ | _, t⟩ <;> rfl
  | guarded name body =>
    simp only [Op.perform, Op.silent, guarded, bind_assoc]
    refine .after fun name => .after fun _ => .after fun _ => .after fun _ => ?_
    exact phased_plain _ _
  | struct name body =>
    simp only [Op.perform, Op.silent, struct, bind_assoc]
    refine .after fun name => .after fun _ => ?_
    exact phased_indented _ _ _
  | typedefStruct name body =>
    simp only [Op.perform, Op.silent, typedefStruct, bind_assoc]
    refine .after fun _ => ?_
    have h := phased_indented (Op.performAll body) [] (do
      let name ← report (.fragment name)
      return .changing (·.emit ("\x7d " ++ name ++ ";")))
    rw [bind_assoc] at h
    exact h
  | function declaration body =>
    simp only [Op.perform, Op.silent, function, bind_assoc]
    refine .after fun d => .after fun _ => .after fun _ => ?_
    exact phased_indented _ _ _
  | constructor declaration initial body =>
    simp only [Op.perform, Op.silent, constructor, bind_assoc]
    refine .after fun d => .after fun _ => .after fun _ => .after fun _ => .after fun _ => ?_
    exact phased_indented _ _ _
  | declareWith declaration body =>
    simp only [Op.perform, Op.silent, declareWith, bind_assoc]
    refine .after fun s => .after fun _ => ?_
    exact phased_plain _ _
  | declareInitializer declaration handle =>
    simp only [Op.perform, Op.silent, declareWith, bind_assoc, writeInitializer_eq]
    refine .after fun place => .after fun s => .after fun _ => .after fun t => ?_
    exact phased_plain _ _
  | nestedWith handle brackets child body =>
    simp only [Op.perform, Op.silent]
    refine .after fun place => .after fun inner => .after fun _ => ?_
    exact phased_plain _ _
  | writeInitializer handle =>
    simp only [Op.perform, Op.silent, bind_assoc, writeInitializer_eq]
    refine .after fun place => .after fun t => ?_
    exact phased_plain _ _
  | initializer brackets handle body =>
    simp only [Op.perform, Op.silent, bind_assoc, writeInitializer_eq]
    refine .after fun place => .after fun _ => ?_
    have h := phased_plain (Op.performAll body) ⟨[], do
      let t ← closeRoot place
      return ⟨some t, id, .nothing⟩⟩
    rw [Ending.perform, bind_assoc] at h
    exact h
  | writeTree t => exact phased_plain _ _
  | _ => exact phased_whole _ _

end Action

/-! ## How an operation ends -/

namespace Op

variable {op : Op} {s t u : Session} {e : Error} {ending : Ending}

theorem perform_opening_error (ho : op.opening.apply s = (.error e, t)) :
    op.perform.apply s = (.error e, t) := by
  rw [phased_perform op s, ho]

theorem perform_body_error (ho : op.opening.apply s = (.ok ending, t))
    (hb : (performAll op.body).apply t = (.error e, u)) : op.perform.apply s = op.unwind e u := by
  rw [phased_perform op s, ho]
  dsimp only
  rw [hb]

theorem perform_body_ok (ho : op.opening.apply s = (.ok ending, t))
    (hb : (performAll op.body).apply t = (.ok (), u)) :
    op.perform.apply s = ending.perform.apply u := by
  rw [phased_perform op s, ho]
  dsimp only
  rw [hb]

end Op

end CxxWriter
