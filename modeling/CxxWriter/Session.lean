/-
  The state of a writer.

  A session holds the text written so far, the initializers under
  construction, and what templates need.  It keeps a log of what the library
  did and a trace of the operations that its script asked to note.
-/
import CxxWriter.Buffer
import CxxWriter.Config.Basic
import CxxWriter.Initializer.Forest
import CxxWriter.Template.Library

namespace CxxWriter

/-- What an operation gives back. -/
inductive Reply where
  | nothing
  | value (v : Value)
  /-- The state of the buffer. -/
  | buffer (b : Buffer)
  /-- A tree of initializers. -/
  | tree (t : Tree)
  /-- An error that was caught. -/
  | caught (e : Error)

/-- A note about an operation, taken when it ended. -/
structure Step where
  label : String
  /-- The buffer at the end of the operation. -/
  buffer : Buffer
  outcome : Except Error Reply

/-- The state of a writer. -/
structure Session where
  buffer : Buffer
  forest : Forest
  /-- The places of initializers, by the names that a script gave them. -/
  handles : List (String × Nat)
  config : Config
  /-- What is known of templates. -/
  library : TemplateLibrary
  /-- The templates, once they are needed. -/
  engine : Option Engine
  files : Files
  log : Log
  /-- The notes, in order. -/
  trace : List Step

namespace Session

section

variable (library : TemplateLibrary)

/-- A session before anything is written. -/
def start (config : Config) (unit : String) (files : Files) (log : Log) : Session where
  buffer := Buffer.empty unit
  forest := Forest.empty
  handles := []
  config := config
  library := library
  engine := none
  files := files
  log := log
  trace := []

/-- Opens a session that writes text only; a level of indentation is a tab
    unless a unit is given. -/
def openBuffer (files : Files) (unit : Option Value) : Reporting Session := do
  let unit ← Reporting.unitText (unit.getD (.text "\t"))
  return start library Config.default unit files []

/-- Opens a session with settings; a unit that is given goes over them. -/
def openWriter (files : Files) (config : Config) (unit : Value) : Reporting Session := do
  let unit ← match unit with
    | .null => Reporting.ofExcept id config.unit
    | unit => pure unit
  let unit ← Reporting.unitText unit
  Reporting.record .debug .writer ("CxxBuilder created with indent string " ++ Text.quote unit)
  return start library config unit files []

end

end Session

end CxxWriter
