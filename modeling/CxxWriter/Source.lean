/-
  Template variables from files, and source files.

  A source file is written only if its bytes change, so that a build does not
  take it for new.
-/
import CxxWriter.Document

namespace CxxWriter

namespace Context

/-- How messages about a file of variables are worded. -/
def words : DocumentWords where
  component := .files
  error path fault := .context path fault
  record path fault :=
    match fault with
    | .missing => "File not found: " ++ path.toString
    | .notObject => "Context file does not contain a JSON object: " ++ path.toString
    | fault => Error.contextMessage path fault
  suffix := none

/-- The variables in a file. -/
def load (files : Files) (path : Path) : Reporting (List (String × Value)) := do
  Reporting.record .debug .files ("Attempting to load context from file: " ++ path.toString)
  let entries ← Document.read words files path
  Reporting.record .info .files ("Loaded template context from " ++ path.toString)
  return entries

end Context

namespace Source

/-- The bytes of a text whose line feeds are written as `lineEnding`. -/
def bytes (text lineEnding : String) : ByteArray :=
  bytesOfText (String.ofList (text.toList.flatMap fun c => if c = '\n' then lineEnding.toList else [c]))

/-- What a write comes to: the files afterwards, and whether the file has been
    written or an error. -/
structure Written where
  files : Files
  outcome : Except FileError Bool

/-- Does the path lead to a file that holds just these bytes?  A directory
    cannot be compared. -/
def isUpToDate (files : Files) (path : Path) (content : ByteArray) : Except FileError Bool := do
  if ← files.pathExists path then return (← files.read path) == content
  else return false

/-- Writes bytes to a file unless it holds them already.  Directories on the
    way are made. -/
def writeBytes (files : Files) (path : Path) (content : ByteArray) : Written :=
  match isUpToDate files path content with
  | .error e => ⟨files, .error e⟩
  | .ok true => ⟨files, .ok false⟩
  | .ok false =>
    let made := files.makeDirectories path.parent
    match made.error with
    | some e => ⟨made.files, .error e⟩
    | none =>
      match made.files.write path content with
      | .ok files => ⟨files, .ok true⟩
      | .error e => ⟨made.files, .error e⟩

/-- The records and the error of a write. -/
def report (path : Path) (outcome : Except FileError Bool) : Reporting Bool := do
  match outcome with
  | .ok true =>
    Reporting.record .info .files ("Wrote generated source to " ++ path.toString)
    return true
  | .ok false =>
    Reporting.record .debug .files ("Generated file is up to date: " ++ path.toString)
    return false
  | .error e =>
    match e.fault with
    | .badPath => throw (.file e)
    | _ =>
      Reporting.fail .files ("Error writing file " ++ path.toString ++ ": " ++ e.message)
        (.sourceWrite path e)

/-- Writes a source text to a file unless the file holds it already. -/
def write (files : Files) (path : Path) (text lineEnding : String) : Files × Reporting Bool :=
  let w := writeBytes files path (bytes text lineEnding)
  (w.files, report path w.outcome)

end Source

end CxxWriter
