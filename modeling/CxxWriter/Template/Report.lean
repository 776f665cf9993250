/-
  Templates with records of what was done.
-/
import CxxWriter.Report
import CxxWriter.Template.Engine

namespace CxxWriter.Engine

open Template (Failure Bindings)

/-- An engine for the directory of a setting, which may name none. -/
def start (files : Files) (directory : Value) : Reporting Engine := do
  if directory.isTrue then
    match directory with
    | .text s =>
      let path := Path.ofString s
      let e ← Reporting.ofExcept .file (create files (some path))
      if e.directory.isNone then
        Reporting.record .warning .template ("Template directory not found: " ++ path.toString)
      return e
    | _ => throw (.value .wrongKind)
  else Reporting.ofExcept .file (create files none)

/-- The text that a template came to, or the error that its failure is. -/
def finish (name : Option String) : Except Failure String → Reporting String
  | .ok s => return s
  | .error f => do
    match f, f.message? with
    | .notFragment v, _ => Reporting.record .error .buffer (Error.rejection v)
    | _, some m =>
      Reporting.record .error .template ("Failed to render " ++ Error.subjectText name ++ ": " ++ m)
    | _, none => pure ()
    throw (Error.ofFailure name f)

/-- Keeps records of values that are not fragments. -/
def recordRejected (vs : List Value) : Reporting Unit :=
  vs.forM fun v => Reporting.record .error .buffer (Error.rejection v)

section

variable (l : TemplateLibrary) (files : Files) (e : Engine)

/-- Renders the template of a name; the engine may keep templates. -/
def produceNamed (name : String) (given : Bindings) : Engine × Reporting String :=
  let r := e.renderNamed l files name given
  (r.engine, do
    recordRejected r.rejected
    let s ← finish (some name) r.outcome
    Reporting.record .debug .template ("Rendered template " ++ name)
    return s)

/-- Renders a text as a template; the engine may keep the templates that it
    names. -/
def produceText (source : String) (given : Bindings) : Engine × Reporting String :=
  let r := e.renderText l files source given
  (r.engine, do
    recordRejected r.rejected
    finish none r.outcome)

end

/-- Adds a template. -/
def install (e : Engine) (name source : String) : Reporting Engine := do
  Reporting.record .debug .template ("Added in-memory template " ++ name)
  return e.add name source

end CxxWriter.Engine
