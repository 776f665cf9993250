/-
  Where settings come from.

  Settings start from the defaults; a file goes over them, and overrides go
  over both.  Keys that are no settings are added to the custom ones.  At last
  every setting has to be of its kind.
-/
import CxxWriter.Config.Basic
import CxxWriter.Document

namespace CxxWriter.Config

/-- How messages about a file of settings are worded. -/
def words : DocumentWords where
  component := .config
  error path fault := .config (.document path fault)
  record path fault :=
    match fault with
    | .wrongSuffix => "Configuration file is not JSON: " ++ path.toString
    | .notObject => "Configuration file is not a JSON object: " ++ path.toString
    | .unreadable e => "Failed to read configuration file " ++ path.toString ++ ": " ++ e.message
    | fault => Error.configMessage path fault
  suffix := some ".json"

/-- The entries of a file of settings. -/
def readFile (files : Files) (path : Path) : Reporting (List (String × Value)) := do
  let entries ← Document.read words files path
  Reporting.record .debug .config ("Loaded configuration from " ++ path.toString)
  return entries

/-- The entries that are no settings. -/
def unknownEntries (entries : List (String × Value)) : List (String × Value) :=
  entries.filter fun e => (Setting.ofKey? e.1).isNone

/-- The custom settings with more entries; a value that is false holds none. -/
def extendCustom (custom : Value) (more : List (String × Value)) : Except Error Value := do
  let old ← if custom.isTrue then entriesOf custom else pure []
  let start := Value.updateEntries [] old
  return .dict (Value.updateEntries start (more.map fun e => (.text e.1, e.2)))

/-- Fails for the first setting that is not of its kind.  The value is shown,
    so that one without a text is an error of its own. -/
def checkKinds (get : Setting → Value) : List Setting → Reporting Unit
  | [] => return ()
  | s :: ss =>
    if s.hasKind (get s) then checkKinds get ss
    else if (get s).isWritable then
      Reporting.fail .config ("Invalid type for " ++ s.key ++ ": " ++ (get s).quoted)
        (.config (.wrongKind s.key s.kindName (get s)))
    else throw (.value .badValue)

/-- The order of keys: by code points. -/
def keyOrder (a b : String) : Bool := decide (a ≤ b)

/-- Settings from entries that hold a value for each of them. -/
def ofEntries (entries : List (String × Value)) : Reporting Config := do
  let given (s : Setting) : Value := ((entries.find? (·.1 == s.key)).map (·.2)).getD s.default
  let unknown := unknownEntries entries
  let custom ←
    if unknown.isEmpty then pure (given .custom)
    else do
      Reporting.record .warning .config
        ("Unknown configuration keys kept as custom settings: " ++
          String.intercalate ", " ((unknown.map (·.1)).mergeSort keyOrder))
      Reporting.ofExcept id (extendCustom (given .custom) unknown)
  let get (s : Setting) : Value := if s = .custom then custom else given s
  checkKinds get Setting.all
  return ofFunction get

/-- The entries of the defaults. -/
def defaultEntries : List (String × Value) := Setting.all.map fun s => (s.key, s.default)

/-- Settings from a file and overrides, both of which may be absent. -/
def load (files : Files) (overrides : List (String × Value)) (file : Option Path) :
    Reporting Config := do
  let given ← match file with
    | some path => readFile files path
    | none => pure []
  ofEntries (setKeys (setKeys defaultEntries given) overrides)

end CxxWriter.Config
