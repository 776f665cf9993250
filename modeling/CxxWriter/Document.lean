/-
  JSON objects in files.

  Settings and template variables are JSON objects in files.  Both are read in
  the same steps; the words for what goes wrong are those of the reader's
  caller.
-/
import CxxWriter.Report

namespace CxxWriter

/-- How messages about a document are worded. -/
structure DocumentWords where
  component : Component
  /-- The error of a fault. -/
  error : Path → DocumentFault → Error
  /-- The record of a fault. -/
  record : Path → DocumentFault → String
  /-- The suffix that the name of the file has to end with. -/
  suffix : Option String

namespace Document

/-- Ends with a fault. -/
def fail {α : Type} (words : DocumentWords) (path : Path) (fault : DocumentFault) : Reporting α :=
  Reporting.fail words.component (words.record path fault) (words.error path fault)

/-- Reads the text of a document. -/
def parse (words : DocumentWords) (path : Path) (bytes : ByteArray) : Reporting Value :=
  match readableText? bytes with
  | none => throw (.value .notUtf8)
  | some s =>
    match Json.read s with
    | .ok v => return v
    | .error (.fault f line column position) => fail words path (.malformed f line column position)
    | .error .tooManyDigits => throw (.value .badValue)
    | .error .tooDeep => throw (.value .tooDeep)

/-- Reads a document, which has to be an object. -/
def read (words : DocumentWords) (files : Files) (path : Path) :
    Reporting (List (String × Value)) := do
  unless ← Reporting.ofExcept .file (files.pathExists path) do fail words path .missing
  if words.suffix.any fun s => path.suffix.toLower != s then fail words path .wrongSuffix
  let bytes ← match files.read path with
    | .ok bytes => pure bytes
    | .error e => fail words path (.unreadable e)
  match ← parse words path bytes with
  | .dict entries => return Value.textEntries entries
  | _ => fail words path .notObject

end Document

end CxxWriter
