/-
  Writing settings to a file, and what is doubtful about them.

  A file of settings is one JSON object; custom settings stand in it beside the
  others.  The settings are copied at first, then the file is opened, and then
  the first value is written: if a value cannot be written, the file holds what
  comes before that value.
-/
import CxxWriter.Config.Basic
import CxxWriter.Json.Writer

namespace CxxWriter.Config

/-- Settings in which values nest deeper than this cannot be copied. -/
def maxCopied : Nat := 480

/-- Can the settings be copied? -/
def isCopyable (c : Config) : Bool := Setting.all.all fun s => (c.get s).height ≤ maxCopied

/-- The entries of a file of settings. -/
def savedEntries (c : Config) : Except Error (List (Value × Value)) := do
  unless c.isCopyable do throw (.value .tooDeep)
  let own := (Setting.all.filter (· ≠ .custom)).map fun s => (Value.text s.key, c.get s)
  return Value.updateEntries own (← entriesOf c.custom)

/-- What a write to a file comes to. -/
structure Saved where
  files : Files
  outcome : Reporting Unit

/-- Writes settings to a file. -/
def save (c : Config) (files : Files) (path : Path) : Saved :=
  match c.savedEntries with
  | .error e => ⟨files, throw e⟩
  | .ok entries =>
    let w := Json.write (.dict entries)
    match files.write path (bytesOfText w.text) with
    | .ok files =>
      ⟨files, match w.fault with
        | none => return ()
        | some f => throw (.value f)⟩
    | .error e =>
      match e.fault with
      | .badPath => ⟨files, throw (.file e)⟩
      | _ =>
        ⟨files, Reporting.fail .config
          ("Failed to save configuration to " ++ path.toString ++ ": " ++ e.message)
          (.config (.unwritable path e))⟩

/-- The line ends that files can have. -/
def lineEndings : List String := ["\n", "\r\n"]

/-- A number of spaces that makes a level of indentation. -/
def isSize : Value → Bool
  | .int n => decide (0 < n)
  | _ => false

/-- A text of white space. -/
def isSpaceText : Value → Bool
  | .text s => s.toList.all Text.isSpace
  | _ => false

/-- The doubt about the number of spaces. -/
def sizeDoubts (c : Config) : List String :=
  if isSize c.indentSize then [] else ["Invalid indent_size: " ++ c.indentSize.quoted]

/-- The doubt about the line end. -/
def lineEndingDoubts (c : Config) : Except Error (List String) :=
  match c.lineEnding with
  | .text s =>
    .ok (if lineEndings.contains s then [] else ["Unsupported line_ending: " ++ Text.quote s])
  | v =>
    if v.isHashable then .ok ["Unsupported line_ending: " ++ v.quoted]
    else .error (.value .wrongKind)

/-- The doubt about the unit of indentation. -/
def unitDoubts (c : Config) : Except Error (List String) := do
  let given := match c.indentUnit with
    | .null => false
    | _ => true
  if given || c.useTabs.isTrue || isSize c.indentSize then
    let u ← c.unit
    return if isSpaceText u then []
      else ["indent_string should only contain whitespace: " ++ u.quoted]
  else return []

/-- The doubt about the directory of templates. -/
def templateDirDoubts (c : Config) (files : Files) : Except Error (List String) :=
  if c.templateDir.isTrue then
    match c.templateDir with
    | .text s =>
      match files.isDirectory (Path.ofString s) with
      | .ok true => .ok []
      | .ok false => .ok ["Template directory not found: " ++ s]
      | .error e => .error (.file e)
    | _ => .error (.value .wrongKind)
  else .ok []

/-- All that is doubtful about settings. -/
def validate (c : Config) (files : Files) : Except Error (List String) := do
  let endings ← c.lineEndingDoubts
  let units ← c.unitDoubts
  return c.sizeDoubts ++ endings ++ units ++ (← c.templateDirDoubts files)

end CxxWriter.Config
