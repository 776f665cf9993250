/-
  What a run of the program does.

  A run reads its arguments, generates a source text, and writes it to a file
  or to the standard output.  Messages go to the standard output if the run
  went well, else to the standard error.  A message that the console does not
  show ends the run: nothing handles that.
-/
import CxxWriter.CommandLine.Generate
import CxxWriter.Console

namespace CxxWriter.CommandLine

/-- How a run ends. -/
inductive Ending where
  /-- The program ran, with a code. -/
  | completed (code : Nat)
  /-- The arguments alone settled the run, with a code. -/
  | settled (code : Nat)
  /-- An error that the program does not handle. -/
  | failed (e : Error)
  /-- A message that is not shown. -/
  | refused (f : PrintFault)

/-- A run. -/
structure Run where
  shown : Shown
  /-- The records that were shown. -/
  log : Log
  files : Files
  ending : Ending

/-- Is an error one of the arguments, found late?  It is not recorded. -/
def isArgumentError : Error → Bool
  | .command (.badIndentation _) | .command (.noIndentation _) => true
  | _ => false

/-- The records of an error that is shown. -/
def failureLog (e : Error) : Log :=
  if isArgumentError e then [] else [⟨.debug, .commandLine, "Generation failed"⟩]

/-- What writing the source text came to: whether the file of the output has been written, if
    there is one, or an error. -/
structure Delivered where
  files : Files
  outcome : Except Error (Option (String × Bool))
  log : Log

/-- Writes the source text to the file of the arguments, if they name one. -/
def Arguments.deliver (a : Arguments) (files : Files) (text : String) (config : Config) :
    Delivered :=
  match filled? a.output, config.lineEnding with
  | none, _ => ⟨files, .ok none, []⟩
  | some output, .text lineEnding =>
    let (files, written) := Source.write files (Path.ofString output) text lineEnding
    let (outcome, log) := written.outcome
    ⟨files, outcome.map fun isWritten => some (output, isWritten), log⟩
  | some _, _ => ⟨files, .error (.value .wrongKind), []⟩

/-- The least important records that a run shows. -/
def Arguments.level (a : Arguments) : Level := if a.verbose then .debug else .warning

section

variable (console : Console)

/-- A message about an error. -/
def errorMessage (text : String) : Message :=
  .markup ("[red]✗ Error:[/red] " ++ console.escape text)

/-- A message about a doubt. -/
def warningMessage (text : String) : Message :=
  .markup ("[yellow]⚠ " ++ console.escape text ++ "[/yellow]")

/-- A message about a file that has been written, or need not be. -/
def writtenMessage (output : String) (isWritten : Bool) : Message :=
  .markup <|
    if isWritten then "[green]✓[/green] Wrote " ++ console.escape output
    else "[dim]✓ " ++ console.escape output ++ " is up to date[/dim]"

/-- The source text for the standard output.  Only a terminal shows it in a frame. -/
def textMessage (a : Arguments) (text : String) : Message :=
  if console.isTerminal then .framed (console.escape a.template) text else .plain text

/-- What a run tells that has gone well. -/
def closingMessage (a : Arguments) (text : String) : Option (String × Bool) → Message
  | some (output, isWritten) => writtenMessage console output isWritten
  | none => textMessage console a text

/-- Ends a run with a message. -/
def close (stream : Stream) (m : Message) (shown : Shown) (log : Log) (files : Files)
    (ending : Ending) : Run :=
  match console.present stream m shown with
  | .ok shown => ⟨shown, log, files, ending⟩
  | .error f => ⟨shown, log, files, .refused f⟩

/-- Ends a run with an error. -/
def closeWith (e : Error) (shown : Shown) (log : Log) (files : Files) : Run :=
  match e.message? with
  | none => ⟨shown, log, files, .failed e⟩
  | some text =>
    let run := close console .err (errorMessage console text) shown log files (.completed 1)
    match run.ending with
    | .completed _ => { run with log := log ++ failureLog e }
    | _ => run

/-- A run that the arguments alone settle. -/
def Halt.run (files : Files) : Halt → Run
  | .help => close console .out (.plain helpText) .nothing [] files (.settled 0)
  | .version => close console .out (.plain versionText) .nothing [] files (.settled 0)
  | .fault f =>
    close console .err (.plain (usageText ++ programName ++ ": error: " ++ f.message ++ "\n"))
      .nothing [] files (.settled 2)

variable (library : TemplateLibrary)

/-- A run with arguments that have been understood, with all of its records. -/
def Arguments.perform (a : Arguments) (files : Files) : Run :=
  let g := a.generate library files
  match console.presentAll .err (g.warnings.map (warningMessage console)) .nothing with
  | (shown, some f) => ⟨shown, g.before, files, .refused f⟩
  | (shown, none) =>
    let log := g.before ++ g.after
    match g.outcome with
    | .error e => closeWith console e shown log files
    | .ok (text, config) =>
      let d := a.deliver files text config
      match d.outcome with
      | .error e => closeWith console e shown (log ++ d.log) d.files
      | .ok written =>
        close console .out (closingMessage console a text written) shown (log ++ d.log) d.files
          (.completed 0)

/-- A run with arguments that have been understood. -/
def Arguments.run (a : Arguments) (files : Files) : Run :=
  let r := a.perform console library files
  { r with log := r.log.from a.level }

/-- A run of the program. -/
def run (arguments : List String) (files : Files) : Run :=
  match Arguments.ofList arguments with
  | .error halt => halt.run console files
  | .ok a => a.run console library files

end

end CxxWriter.CommandLine
