/-
  From arguments to a source text.

  The template is written through a session, so that it can be indented by two
  spaces whatever the unit of indentation is.  Files are only read here.
-/
import CxxWriter.CommandLine.Arguments
import CxxWriter.Config.Load
import CxxWriter.Config.Save
import CxxWriter.Naming
import CxxWriter.Action.Template
import CxxWriter.Source

namespace CxxWriter

/-- Carries out an action, and keeps its records. -/
def Session.carryOut (s : Session) (a : Action Unit) : Reporting Session := do
  let (result, s') := a.apply s
  modify fun (log : Log) => log ++ s'.log
  match result with
  | .ok () => return s'
  | .error e => throw e

namespace CommandLine

/-- An argument that is given and not empty. -/
def filled? (argument : Option String) : Option String := argument.filter (!·.isEmpty)

/-- The names of the tab as a unit of indentation. -/
def tabNames : List String := ["tab", "tabs", "\\t"]

/-- The unit of indentation that an argument describes: a tab, or a number of
    spaces. -/
def unitOf (s : String) : Except Error String :=
  if tabNames.contains (Text.toLower s) then .ok "\t"
  else match Text.readInt? s with
    | none => .error (.command (.badIndentation s))
    | some width =>
      if width ≤ 0 then .error (.command (.noIndentation width))
      else if Config.maxCopies ≤ width then .error (.value .overflow)
      else .ok (String.ofList (List.replicate width.toNat ' '))

namespace Arguments

/-- The path of the template. -/
def templatePath (a : Arguments) : Path := Path.ofString a.template

/-- The settings: those of a file, under those that the arguments give. -/
def settings (a : Arguments) (files : Files) : Reporting Config := do
  unless ← Reporting.ofExcept .file (files.isFile a.templatePath) do
    throw (.command (.templateMissing a.templatePath))
  let directory := ("template_dir", Value.text a.templatePath.parent.toString)
  let unit ← match filled? a.indent with
    | some s => do
      let unit ← Reporting.ofExcept id (unitOf s)
      pure [("indent_string", Value.text unit)]
    | none => pure []
  Config.load files (directory :: unit) ((filled? a.config).map Path.ofString)

/-- The name of the macro that guards the output. -/
def guardName (a : Arguments) : Except Error (Option String) :=
  match filled? a.guard with
  | some name => .ok (some name)
  | none =>
    if a.autoGuard then
      match filled? a.output with
      | some output => .ok (some (Naming.macroCase (Path.ofString output).name))
      | none => .error (.command .guardWithoutOutput)
    else .ok none

/-- The variables that the template is given. -/
def bindings (a : Arguments) (files : Files) : Reporting (List (String × Value)) :=
  match filled? a.context with
  | some s => Context.load files (Path.ofString s)
  | none => return []

/-- Writes the comment at the top and what the template comes to, which is guarded
    if the arguments tell so. -/
def writing (a : Arguments) (config : Config) (given : List (String × Value)) : Action Unit := do
  let template := Action.templateFile a.templatePath.name given
  if config.headerComment.isTrue then Action.comment config.headerComment
  match filled? (← Action.report (.ofExcept id a.guardName)) with
  | some name => Action.guarded (.text name) template
  | none => template

/-- The source text. -/
def compose (a : Arguments) (library : TemplateLibrary) (files : Files) (config : Config) :
    Reporting String := do
  let given ← a.bindings files
  let session ← Session.openWriter library files config .null
  let session ← session.carryOut (a.writing config given)
  return session.buffer.text

end Arguments

/-- What generating a source text came to. -/
structure Generated where
  /-- The records up to the doubts. -/
  before : Log
  /-- Doubts about the settings. -/
  warnings : List String
  /-- The records after the doubts. -/
  after : Log
  outcome : Except Error (String × Config)

/-- Generates a source text. -/
def Arguments.generate (a : Arguments) (library : TemplateLibrary) (files : Files) : Generated :=
  match (a.settings files).outcome with
  | (.error e, log) => ⟨log, [], [], .error e⟩
  | (.ok config, log) =>
    match config.validate files with
    | .error e => ⟨log, [], [], .error e⟩
    | .ok warnings =>
      let (text, more) := (a.compose library files config).outcome
      ⟨log, warnings, more, text.map fun s => (s, config)⟩

end CommandLine

end CxxWriter
