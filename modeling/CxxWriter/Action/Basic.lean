/-
  Actions on a session.

  An action ends with a result or an error; either way it leaves the session
  as it has become.
-/
import CxxWriter.Session

namespace CxxWriter

/-- An action on a session. -/
abbrev Action (α : Type) := ExceptT Error (StateM Session) α

namespace Action

/-- Carries out an action. -/
def apply (a : Action α) (s : Session) : Except Error α × Session := a.run.run s

/-- The action that a function on sessions is. -/
def ofFunction (f : Session → Except Error α × Session) : Action α :=
  ExceptT.mk (m := StateM Session) f

/-- Carries out an operation that only keeps records. -/
def report (r : Reporting α) : Action α := ofFunction fun s =>
  let (result, log) := r.run.run s.log
  (result, { s with log := log })

/-- Changes the buffer. -/
def changeBuffer (f : Buffer → Buffer) : Action Unit := ofFunction fun s =>
  (.ok (), { s with buffer := f s.buffer })

/-- Carries out an action one level deeper.  The depth is restored however
    the action ends. -/
def indented (body : Action α) : Action α := ofFunction fun s =>
  let (result, s) := body.apply { s with buffer := s.buffer.enter }
  (result, { s with buffer := s.buffer.leave })

/-- Carries out an action and gives the error it ends with, if that is one
    which can be handled. -/
def attempt (body : Action Unit) : Action Reply := ofFunction fun s =>
  match body.apply s with
  | (.ok (), s) => (.ok .nothing, s)
  | (.error e, s) => (if e.isOwn then .ok (.caught e) else .error e, s)

/-- Carries out an action and notes how it ended. -/
def noted (label : String) (body : Action Reply) : Action Reply := ofFunction fun s =>
  let (outcome, s) := body.apply s
  (outcome, { s with trace := s.trace ++ [⟨label, s.buffer, outcome⟩] })

end Action

end CxxWriter
