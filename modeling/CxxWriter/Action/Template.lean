/-
  Writing what templates come to.

  The engine of a session is made when it is first needed, for the directory
  of the settings.  A template comes to a fragment, which is written like any
  other.
-/
import CxxWriter.Action.Code
import CxxWriter.Template.Report

namespace CxxWriter.Action

open Template (Bindings)

/-- The engine of the session. -/
def engine : Action Engine := do
  let s ← get
  match s.engine with
  | some e => return e
  | none =>
    let e ← report (Engine.start s.files s.config.templateDir)
    modify ({ · with engine := some e })
    return e

/-- Adds a template to the engine. -/
def addTemplate (name source : String) : Action Unit := do
  let e ← report ((← engine).install name source)
  modify ({ · with engine := some e })

/-- Is a template of the name listed? -/
def hasTemplate (name : String) : Action Bool := do
  let e ← engine
  let s ← get
  return e.contains s.library s.files name

/-- Fails for variables whose names are those of an operation's own
    arguments. -/
def checkVariables (own : List String) (given : Bindings) : Action Unit :=
  if given.any (own.contains ·.1) then throw (.value .wrongKind) else return ()

/-- Writes what a text comes to as a template. -/
def template (source : String) (given : Bindings) : Action Unit := do
  checkVariables ["self", "source"] given
  let e ← engine
  let s ← get
  let (e, produced) := e.produceText s.library s.files source given
  modify ({ · with engine := some e })
  emitText (← report produced)

/-- Writes what the template of a name comes to. -/
def templateFile (name : String) (given : Bindings) : Action Unit := do
  checkVariables ["self", "template_name"] given
  let e ← engine
  let s ← get
  let (e, produced) := e.produceNamed s.library s.files name given
  modify ({ · with engine := some e })
  emitText (← report produced)

end CxxWriter.Action
