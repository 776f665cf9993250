/-
  Writing JSON.

  Items and entries stand on lines of their own, two spaces deeper than what
  holds them.  Not every value can be written: writing stops at the first one
  that cannot, and what has been written up to there is kept.
-/
import CxxWriter.Fault
import CxxWriter.Value

namespace CxxWriter.Json

/-- What has been written, and the fault that writing has stopped at. -/
structure Written where
  text : String
  fault : Option ValueFault
deriving DecidableEq, Repr

namespace Written

def done (s : String) : Written := ⟨s, none⟩

def stopped (f : ValueFault) : Written := ⟨"", some f⟩

/-- Writes more, unless writing has stopped. -/
def andThen (w : Written) (next : Written) : Written :=
  match w.fault with
  | none => ⟨w.text ++ next.text, next.fault⟩
  | some _ => w

end Written

/-- A character of a quoted text. -/
def quoteChar (c : Char) : List Char :=
  if c = '"' then ['\\', '"']
  else if c = '\\' then ['\\', '\\']
  else if c = '\n' then ['\\', 'n']
  else if c = '\r' then ['\\', 'r']
  else if c = '\t' then ['\\', 't']
  else if c = '\x0c' then ['\\', 'f']
  else if c = '\x08' then ['\\', 'b']
  else if c.toNat < 0x20 then '\\' :: 'u' :: Text.hexDigits 4 c.toNat
  else [c]

/-- A quoted text. -/
def quote (s : String) : String := String.ofList ('"' :: s.toList.flatMap quoteChar ++ ['"'])

/-- A number. -/
def floatText (x : Float) : String :=
  match Double.parts x with
  | .nan => "NaN"
  | .infinite negative => if negative then "-Infinity" else "Infinity"
  | .finite .. => Double.toText x

/-- The text of a key; only texts, numbers, truth values and null can be
    keys. -/
def keyText : Value → Except ValueFault String
  | .text s => .ok s
  | .float x => .ok (floatText x)
  | .bool b => .ok (if b then "true" else "false")
  | .null => .ok "null"
  | .int n => if Value.isShort n then .ok (toString n) else .error .badValue
  | _ => .error .wrongKind

/-- A line feed and the spaces of a level. -/
def lineAt (level : Nat) : String := String.ofList ('\n' :: List.replicate (2 * level) ' ')

/-- Writes what stands before an item; nothing if the item is an integer with
    too many digits. -/
def writeLead (lead : String) : Value → Written
  | .int n => if Value.isShort n then .done lead else .stopped .badValue
  | _ => .done lead

mutual

/-- Writes a value at a level. -/
def writeAt (level : Nat) : Value → Written
  | .null => .done "null"
  | .bool b => .done (if b then "true" else "false")
  | .int n => if Value.isShort n then .done (toString n) else .stopped .badValue
  | .float x => .done (floatText x)
  | .text s => .done (quote s)
  | .list items | .tuple items => writeItems level items
  | .dict entries => writeEntries level entries
  | _ => .stopped .wrongKind

/-- Writes a list. -/
def writeItems (level : Nat) (items : List Value) : Written :=
  match items with
  | [] => .done "[]"
  | v :: vs =>
    (((writeLead ("[" ++ lineAt (level + 1)) v).andThen (writeAt (level + 1) v)).andThen
      (writeMoreItems (level + 1) vs)).andThen (.done (lineAt level ++ "]"))

/-- Writes the items after the first. -/
def writeMoreItems (level : Nat) : List Value → Written
  | [] => .done ""
  | v :: vs =>
    ((writeLead ("," ++ lineAt level) v).andThen (writeAt level v)).andThen
      (writeMoreItems level vs)

/-- Writes an object. -/
def writeEntries (level : Nat) (entries : List (Value × Value)) : Written :=
  match entries with
  | [] => .done "\x7b\x7d"
  | (k, v) :: es =>
    (((Written.done ("\x7b" ++ lineAt (level + 1))).andThen
      (match keyText k with
        | .ok s => (Written.done (quote s ++ ": ")).andThen (writeAt (level + 1) v)
        | .error f => .stopped f)).andThen
      (writeMoreEntries (level + 1) es)).andThen (.done (lineAt level ++ "\x7d"))

/-- Writes the entries after the first. -/
def writeMoreEntries (level : Nat) : List (Value × Value) → Written
  | [] => .done ""
  | (k, v) :: es =>
    (match keyText k with
      | .ok s => (Written.done ("," ++ lineAt level ++ quote s ++ ": ")).andThen (writeAt level v)
      | .error f => .stopped f).andThen (writeMoreEntries level es)

end

/-- Writes a document. -/
def write (v : Value) : Written := writeAt 0 v

end CxxWriter.Json
