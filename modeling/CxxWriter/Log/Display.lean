/-
  Showing records to the user.

  Loggers are named, and all names are below that of the library.  Their
  records are shown once a display has been set up, from the level on that was
  set last.
-/
import CxxWriter.Error
import CxxWriter.Text.LetterCase

namespace CxxWriter

/-- The name that all loggers are below. -/
def Log.rootName : String := "cxxcodebuilder"

/-- The full name of a logger. -/
def Log.qualify (name : String) : String :=
  if name = rootName || name.startsWith (rootName ++ ".") then name else rootName ++ "." ++ name

/-- How records are shown. -/
inductive DisplayStyle where
  /-- With times and colours. -/
  | styled
  /-- As lines of text. -/
  | plain
deriving DecidableEq, Repr

/-- The state of the display of records. -/
structure LogDisplay where
  /-- The level that was set; zero if none was. -/
  level : Int
  style : Option DisplayStyle
  /-- What has been shown in plain style. -/
  output : String
deriving DecidableEq, Repr

namespace LogDisplay

/-- Before anything is set up. -/
def start : LogDisplay := ⟨0, none, ""⟩

/-- The names of levels; of two names for a level, the first is shown. -/
def levelNames : List (String × Int) :=
  [("CRITICAL", 50), ("FATAL", 50), ("ERROR", 40), ("WARNING", 30), ("WARN", 30), ("INFO", 20),
    ("DEBUG", 10), ("NOTSET", 0)]

/-- The level that a value stands for. -/
def level? : Value → Except Error Int
  | .text s =>
    match levelNames.find? (·.1 == Text.toUpper s) with
    | some (_, n) => .ok n
    | none => .error (.value .badValue)
  | v =>
    match v.int? with
    | some n => .ok n
    | none => .error (.value .wrongKind)

/-- The name of a level. -/
def levelName (level : Int) : String :=
  ((levelNames.find? (·.2 == level)).map (·.1)).getD ("Level " ++ toString level)

/-- Sets the level; the first time it also sets the style. -/
def configure (d : LogDisplay) (level : Value) (style : DisplayStyle) : Except Error LogDisplay :=
  (level? level).map fun n => { d with level := n, style := d.style.or (some style) }

/-- The level from which on records are shown: warnings, unless one was
    set. -/
def threshold (d : LogDisplay) : Int := if d.level = 0 then 30 else d.level

/-- Adds a record to what is shown.  A level that is not positive is never shown. -/
def add (d : LogDisplay) (level : Int) (logger text : String) : LogDisplay :=
  if d.style = some .plain ∧ 0 < level ∧ d.threshold ≤ level then
    { d with output :=
        d.output ++ levelName level ++ " " ++ Log.qualify logger ++ ": " ++ text ++ "\n" }
  else d

end LogDisplay

end CxxWriter
