/-
  Settings of a writer and of the files it produces.

  Settings are kept as they were given, of whatever kind; `Config.HasKinds`
  says that each is of the kind that it should be, and settings that come
  from a file or from overrides have been checked for it.  Keys that are no
  settings are kept among the custom ones.
-/
import CxxWriter.Report

namespace CxxWriter

/-- Settings. -/
structure Config where
  /-- Is a level of indentation a tab? -/
  useTabs : Value
  /-- The number of spaces of a level of indentation. -/
  indentSize : Value
  /-- The text of a level of indentation, before the two above. -/
  indentUnit : Value
  /-- The line end in files. -/
  lineEnding : Value
  /-- The directory of templates. -/
  templateDir : Value
  /-- A comment at the top of files. -/
  headerComment : Value
  /-- All else. -/
  custom : Value
deriving Inhabited

/-- The settings by name. -/
inductive Setting where
  | useTabs | indentSize | indentUnit | lineEnding | templateDir | headerComment | custom
deriving DecidableEq, Repr

namespace Setting

/-- All settings, in their order. -/
def all : List Setting :=
  [.useTabs, .indentSize, .indentUnit, .lineEnding, .templateDir, .headerComment, .custom]

/-- The key of a setting. -/
def key : Setting → String
  | useTabs => "use_tabs"
  | indentSize => "indent_size"
  | indentUnit => "indent_string"
  | lineEnding => "line_ending"
  | templateDir => "template_dir"
  | headerComment => "header_comment"
  | custom => "custom"

/-- The setting of a key. -/
def ofKey? (s : String) : Option Setting := all.find? (·.key == s)

/-- The value of a setting that is not given. -/
def default : Setting → Value
  | useTabs => .bool true
  | indentSize => .int 4
  | indentUnit => .null
  | lineEnding => .text "\n"
  | templateDir => .null
  | headerComment => .null
  | custom => .dict []

/-- What messages call the kind of a setting. -/
def kindName : Setting → String
  | useTabs => "bool"
  | indentSize => "int"
  | custom => "dict"
  | _ => "str"

/-- Is a value of the kind of a setting?  A truth value is no number. -/
def hasKind : Setting → Value → Bool
  | useTabs, .bool _ => true
  | indentSize, .int _ => true
  | indentUnit, .null | indentUnit, .text _ => true
  | lineEnding, .text _ => true
  | templateDir, .null | templateDir, .text _ => true
  | headerComment, .null | headerComment, .text _ => true
  | custom, .dict _ => true
  | _, _ => false

end Setting

namespace Config

/-- The value of a setting. -/
def get (c : Config) : Setting → Value
  | .useTabs => c.useTabs
  | .indentSize => c.indentSize
  | .indentUnit => c.indentUnit
  | .lineEnding => c.lineEnding
  | .templateDir => c.templateDir
  | .headerComment => c.headerComment
  | .custom => c.custom

/-- The settings that a function gives. -/
def ofFunction (f : Setting → Value) : Config where
  useTabs := f .useTabs
  indentSize := f .indentSize
  indentUnit := f .indentUnit
  lineEnding := f .lineEnding
  templateDir := f .templateDir
  headerComment := f .headerComment
  custom := f .custom

/-- The settings where none is given. -/
def default : Config := ofFunction Setting.default

/-- Is every setting of its kind? -/
def HasKinds (c : Config) : Prop := ∀ s : Setting, s.hasKind (c.get s) = true

/-- Settings given by keys, unchecked; fails for a key that is no setting. -/
def ofFields (fields : List (String × Value)) : Except Error Config :=
  if fields.any fun e => (Setting.ofKey? e.1).isNone then .error (.value .wrongKind)
  else .ok (ofFunction fun s =>
    ((fields.find? (·.1 == s.key)).map (·.2)).getD s.default)

/-- More copies of a text than this cannot be made. -/
def maxCopies : Nat := 0x8000000000000000

/-- The text of a level of indentation, which is no text if the setting is
    none. -/
def unit (c : Config) : Except Error Value :=
  match c.indentUnit with
  | .null =>
    if c.useTabs.isTrue then .ok (.text "\t")
    else match c.indentSize.int? with
      | some n =>
        if n.natAbs < maxCopies ∨ n = -maxCopies then .ok (.text (String.ofList (List.replicate n.toNat ' ')))
        else .error (.value .overflow)
      | none => .error (.value .wrongKind)
  | v => .ok v

end Config

/-! ## Entries -/

/-- Sets the value of a key; a new key comes last. -/
def setKey (key : String) (value : Value) : List (String × Value) → List (String × Value)
  | [] => [(key, value)]
  | e :: es => if e.1 = key then (key, value) :: es else e :: setKey key value es

/-- The first entries with those of the second set in order. -/
def setKeys (a b : List (String × Value)) : List (String × Value) :=
  b.foldl (fun acc e => setKey e.1 e.2 acc) a

/-- The items of a value from which a pair can be taken. -/
def pairItems? : Value → Option (List Value)
  | .list items | .tuple items => some items
  | .dict entries => some (entries.map (·.1))
  | .text s => some (s.toList.map fun c => .text (String.singleton c))
  | .bytes b => some (b.data.toList.map fun x => .int x.toNat)
  | _ => none

/-- Entries taken from pairs. -/
def entriesOfPairs : List Value → Except Error (List (Value × Value))
  | [] => .ok []
  | v :: vs =>
    match pairItems? v with
    | none => .error (.value .wrongKind)
    | some [k, x] =>
      if k.isHashable then do return (k, x) :: (← entriesOfPairs vs)
      else .error (.value .wrongKind)
    | some _ => .error (.value .badValue)

/-- The entries of a dictionary, or those taken from a list of pairs. -/
def entriesOf (v : Value) : Except Error (List (Value × Value)) :=
  match v with
  | .dict entries => .ok entries
  | v =>
    match pairItems? v with
    | some items => entriesOfPairs items
    | none => .error (.value .wrongKind)

end CxxWriter
