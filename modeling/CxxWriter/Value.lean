/-
  Values that callers supply and templates compute.

  Fragments, settings and template variables come as values of any kind.  Most
  kinds are data; those from `range` on arise only inside a template.

  Numbers that are not equal to themselves, absent values and some views of
  dictionaries are the same only as themselves.  Inside of a template labels
  tell them apart.

  * `kindName` names the kind of a value in messages;
  * `quoted` is the text that shows a value as it would be written in a
    program, `toText` the text it is printed as: they differ for texts and
    decimals;
  * `isWritable` tells whether a value has these texts: integers beyond a
    size are not written out.
-/
import CxxWriter.Number.Exact
import CxxWriter.Text.Digit
import CxxWriter.Text.Quoted

namespace CxxWriter

/-- A place in a template: the line, and the name of the template if it has
    one. -/
structure Place where
  line : Nat
  template : Option String
deriving DecidableEq, Repr

/-- A value that a template cannot find.  Using it is an error that tells what
    was looked for. -/
inductive Absence where
  /-- A variable that the context does not hold. -/
  | variable (name : String)
  /-- An attribute that an object of the given kind does not have. -/
  | member (owner name : String)
  /-- An element that an object of the given kind does not have, with the text
      of the key unless that is too long to be written out. -/
  | element (owner : String) (key : Option String)
  /-- The item before the first of a loop. -/
  | previousItem
  /-- The item after the last of a loop. -/
  | nextItem
  /-- A block of the templates that are extended. -/
  | parentBlock (name : String)
  /-- A choice without an alternative whose condition fails.  Unlike the
      others it can be printed and tested. -/
  | alternative (place : Place)
deriving DecidableEq, Repr

/-- Can the absent value be used as an empty one? -/
def Absence.isLenient : Absence → Bool
  | .alternative _ => true
  | _ => false

/-- What a view of a dictionary shows. -/
inductive ViewKind where
  | keys
  | values
  | items
deriving DecidableEq, Repr

/-- Names that stand for something in every template. -/
inductive Builtin where
  | range
  | dict
  | lipsum
  | cycler
  | joiner
  | namespaceMaker
  /-- A kind of values. -/
  | kind (name : String)
deriving DecidableEq, Repr

/-- A value of any kind. -/
inductive Value where
  | null
  | bool (b : Bool)
  | int (n : Int)
  | float (x : Float)
  | complex (re im : Float)
  | decimal (d : Decimal)
  | text (s : String)
  | bytes (b : ByteArray)
  | list (items : List Value)
  | tuple (items : List Value)
  /-- Keys are distinct and keep the order in which they were added. -/
  | dict (entries : List (Value × Value))
  /-- The integers from `start` to before `stop` in steps of `step`. -/
  | range (start stop step : Int)
  /-- A double or decimal that is no number. -/
  | notNumber (d : Option Decimal) (label : Nat)
  /-- A view of the entries of a dictionary. -/
  | view (kind : ViewKind) (entries : List (Value × Value)) (label : Nat)
  /-- A method of a value. -/
  | method (owner : Value) (name : String)
  | builtin (b : Builtin)
  /-- A loop that has been entered. -/
  | loop (label : Nat)
  /-- A block of the template, with how many others of its name come before
      and after it. -/
  | block (name : String) (before after : Nat)
  /-- The blocks of a template, with how many there are of each name. -/
  | blocks (template : Option String) (counts : List (String × Nat))
  /-- What gives its items in turn. -/
  | cycler (label : Nat)
  /-- What a template that has been imported tells. -/
  | module (template : Option String) (label : Nat)
  | absent (why : Absence) (label : Nat)

instance : Inhabited Value := ⟨.null⟩

/-- The name of the kind of a view. -/
def ViewKind.kindName : ViewKind → String
  | .keys => "dict_keys"
  | .values => "dict_values"
  | .items => "dict_items"

/-- The name that a builtin is shown with. -/
def Builtin.fullName : Builtin → String
  | .range => "range"
  | .dict => "dict"
  | .lipsum => "generate_lorem_ipsum"
  | .cycler => "jinja2.utils.Cycler"
  | .joiner => "jinja2.utils.Joiner"
  | .namespaceMaker => "jinja2.utils.Namespace"
  | .kind name => name

namespace Value

/-- A dictionary with texts as keys. -/
def object (entries : List (String × Value)) : Value :=
  .dict (entries.map fun e => (.text e.1, e.2))

/-- The name of the kind of a value. -/
def kindName : Value → String
  | .null => "NoneType"
  | .bool _ => "bool"
  | .int _ => "int"
  | .float _ | .notNumber none _ => "float"
  | .complex .. => "complex"
  | .decimal _ | .notNumber (some _) _ => "Decimal"
  | .text _ => "str"
  | .bytes _ => "bytes"
  | .list _ => "list"
  | .tuple _ => "tuple"
  | .dict _ => "dict"
  | .range .. => "range"
  | .view kind _ _ => kind.kindName
  | .method .. => "builtin_function_or_method"
  | .builtin .lipsum => "function"
  | .builtin _ => "type"
  | .loop _ => "LoopContext"
  | .block .. => "BlockReference"
  | .blocks .. => "TemplateReference"
  | .cycler _ => "Cycler"
  | .module .. => "TemplateModule"
  | .absent why _ => if why.isLenient then "Undefined" else "StrictUndefined"

/-- The name of a template as it is shown. -/
def templateText : Option String → String
  | some name => Text.quote name
  | none => "None"

/-- The text of a range. -/
def rangeText (start stop step : Int) : String :=
  "range(" ++ toString start ++ ", " ++ toString stop ++
    (if step = 1 then ")" else ", " ++ toString step ++ ")")

/-- The text of a complex number. -/
def complexText (re im : Float) : String :=
  if re == 0.0 && !Double.isNegative re then Double.toShortText im ++ "j"
  else "(" ++ Double.toShortText re ++ (if Double.isNegative im then "" else "+") ++
    Double.toShortText im ++ "j)"

/-- What a view shows of the entries of a dictionary. -/
def viewItems : ViewKind → List (Value × Value) → List Value
  | .keys, entries => entries.map (·.1)
  | .values, entries => entries.map (·.2)
  | .items, entries => entries.map fun e => .tuple [e.1, e.2]

section

variable (loopText : Nat → String)

mutual

/-- The text that shows a value as it would be written in a program, given
    the texts of loops. -/
def quotedWith : Value → String
  | .null => "None"
  | .bool b => if b then "True" else "False"
  | .int n => toString n
  | .float x => Double.toText x
  | .complex re im => complexText re im
  | .decimal d => "Decimal('" ++ d.toText ++ "')"
  | .text s => Text.quote s
  | .bytes b => Text.quoteBytes b
  | .list items => "[" ++ quotedItems items ++ "]"
  | .tuple items =>
    match items with
    | [v] => "(" ++ quotedWith v ++ ",)"
    | items => "(" ++ quotedItems items ++ ")"
  | .dict es => "\x7b" ++ quotedEntries es ++ "\x7d"
  | .range start stop step => rangeText start stop step
  | .notNumber none _ => "nan"
  | .notNumber (some d) _ => "Decimal('" ++ d.toText ++ "')"
  | .view kind es _ =>
    kind.kindName ++ "([" ++
      (match kind with
        | .keys => quotedKeys es
        | .values => quotedValues es
        | .items => quotedPairs es) ++ "])"
  | .method owner name => "<built-in method " ++ name ++ " of " ++ owner.kindName ++ " object>"
  | .builtin b => "<class '" ++ b.fullName ++ "'>"
  | .loop label => loopText label
  | .block name _ _ => "<BlockReference " ++ Text.quote name ++ ">"
  | .blocks template _ => "<TemplateReference " ++ templateText template ++ ">"
  | .cycler _ => "<jinja2.utils.Cycler object>"
  | .module template _ => "<TemplateModule " ++ templateText template ++ ">"
  | .absent .. => "Undefined"

/-- Values separated by commas. -/
def quotedItems : List Value → String
  | [] => ""
  | [v] => quotedWith v
  | v :: w :: vs => quotedWith v ++ ", " ++ quotedItems (w :: vs)

/-- Entries separated by commas. -/
def quotedEntries : List (Value × Value) → String
  | [] => ""
  | [(k, v)] => quotedWith k ++ ": " ++ quotedWith v
  | (k, v) :: e :: es => quotedWith k ++ ": " ++ quotedWith v ++ ", " ++ quotedEntries (e :: es)

/-- The keys of entries separated by commas. -/
def quotedKeys : List (Value × Value) → String
  | [] => ""
  | [(k, _)] => quotedWith k
  | (k, _) :: e :: es => quotedWith k ++ ", " ++ quotedKeys (e :: es)

/-- The values of entries separated by commas. -/
def quotedValues : List (Value × Value) → String
  | [] => ""
  | [(_, v)] => quotedWith v
  | (_, v) :: e :: es => quotedWith v ++ ", " ++ quotedValues (e :: es)

/-- Entries as pairs separated by commas. -/
def quotedPairs : List (Value × Value) → String
  | [] => ""
  | [(k, v)] => "(" ++ quotedWith k ++ ", " ++ quotedWith v ++ ")"
  | (k, v) :: e :: es =>
    "(" ++ quotedWith k ++ ", " ++ quotedWith v ++ "), " ++ quotedPairs (e :: es)

end

/-- The text that a value is printed as, given the texts of loops. -/
def toTextWith : Value → String
  | .text s => s
  | .decimal d | .notNumber (some d) _ => d.toText
  | v => v.quotedWith loopText

end

/-- The text that shows a value as it would be written in a program. -/
def quoted (v : Value) : String := v.quotedWith fun _ => "<LoopContext>"

/-- The text that a value is printed as. -/
def toText (v : Value) : String := v.toTextWith fun _ => "<LoopContext>"

/-- Has an integer so few digits that it is written out? -/
def isShort (n : Int) : Bool := n.natAbs < tenTo Text.maxDigits

mutual

/-- Has a value a text? -/
def isWritable : Value → Bool
  | .int n => isShort n
  | .list items | .tuple items => areWritable items
  | .dict es | .view _ es _ => areEntriesWritable es
  | .range start stop step => isShort start && isShort stop && isShort step
  | _ => true

def areWritable : List Value → Bool
  | [] => true
  | v :: vs => isWritable v && areWritable vs

def areEntriesWritable : List (Value × Value) → Bool
  | [] => true
  | (k, v) :: es => isWritable k && isWritable v && areEntriesWritable es

end

mutual

/-- How deep values nest in a value. -/
def height : Value → Nat
  | .list items | .tuple items => heights items + 1
  | .dict es => heightEntries es + 1
  | _ => 0

/-- How deep they nest in the deepest of some values. -/
def heights : List Value → Nat
  | [] => 0
  | v :: vs => max (height v) (heights vs)

/-- How deep they nest in the deepest key or value of some entries. -/
def heightEntries : List (Value × Value) → Nat
  | [] => 0
  | (k, v) :: es => max (max (height k) (height v)) (heightEntries es)

end

/-! ## Numbers and equality -/

/-- The integer that a value counts as; truth values are zero and one. -/
def int? : Value → Option Int
  | .int n => some n
  | .bool b => some (if b then 1 else 0)
  | _ => none

/-- The real number that a value stands for, if it stands for one. -/
def real? : Value → Option ExactReal
  | .float x => ExactReal.ofDouble? x
  | .decimal d => ExactReal.ofDecimal? d
  | .complex re im => if im == 0.0 then ExactReal.ofDouble? re else none
  | v => v.int?.map ExactReal.ofInt

/-- How many integers a range holds. -/
def rangeSize (start stop step : Int) : Nat :=
  if 0 < step then ((stop - start + step - 1) / step).toNat
  else if step < 0 then ((start - stop - step - 1) / (-step)).toNat
  else 0

/-- Equality of ranges: they hold the same integers. -/
def sameRange (a b c d e f : Int) : Bool :=
  let n := rangeSize a b c
  n == rangeSize d e f && (n == 0 || (a == d && (n == 1 || c == f)))

/-- Equality of values that do not hold other values. -/
def sameLeaf (a b : Value) : Bool :=
  match a, b with
  | .null, .null => true
  | .text s, .text t => s == t
  | .bytes s, .bytes t => s == t
  | .complex a b, .complex c d => a == c && b == d
  | .range a b c, .range d e f => sameRange a b c d e f
  | .builtin b, .builtin c => b == c
  | .loop l, .loop m | .cycler l, .cycler m | .module _ l, .module _ m => l == m
  | .notNumber _ l, .notNumber _ m => l == m
  | .view _ _ l, .view _ _ m => l == m
  | .absent w l, .absent x m => l == m || (w.isLenient && x.isLenient)
  | a, b =>
    match a.real?, b.real? with
    | some x, some y => x.order y == .eq
    | _, _ => false

mutual

/-- Are two values the same key of a dictionary?  Numbers are compared across
    kinds.  Values that cannot be keys are the same as none. -/
def same : Value → Value → Bool
  | .tuple a, .tuple b => sameItems a b
  | .method a n, .method b m => n == m && same a b
  | a, b => sameLeaf a b

/-- Sameness item by item. -/
def sameItems : List Value → List Value → Bool
  | [], [] => true
  | a :: as, b :: bs => same a b && sameItems as bs
  | _, _ => false

end

/-! ## Dictionaries -/

/-- The value under a key. -/
def lookup? (entries : List (Value × Value)) (key : Value) : Option Value :=
  (entries.find? fun e => e.1.same key).map (·.2)

/-- Sets the value under a key; a new key comes last. -/
def insertEntry (key value : Value) : List (Value × Value) → List (Value × Value)
  | [] => [(key, value)]
  | e :: es => if e.1.same key then (e.1, value) :: es else e :: insertEntry key value es

/-- The first entries with those of the second set in order. -/
def updateEntries (a b : List (Value × Value)) : List (Value × Value) :=
  b.foldl (fun acc e => insertEntry e.1 e.2 acc) a

/-- The entries whose keys are texts; others are left out. -/
def textEntries (entries : List (Value × Value)) : List (String × Value) :=
  entries.filterMap fun e =>
    match e.1 with
    | .text s => some (s, e.2)
    | _ => none

/-- The name of the kind of a value, with where the kind comes from. -/
def fullKindName : Value → String
  | .decimal _ | .notNumber (some _) _ => "decimal.Decimal"
  | .loop _ => "jinja2.runtime.LoopContext"
  | .block .. => "jinja2.runtime.BlockReference"
  | .blocks .. => "jinja2.runtime.TemplateReference"
  | .cycler _ => "jinja2.utils.Cycler"
  | .module .. => "jinja2.environment.TemplateModule"
  | .absent why _ =>
    if why.isLenient then "jinja2.runtime.Undefined" else "jinja2.runtime.StrictUndefined"
  | v => v.kindName

mutual

/-- Can the value be a key of a dictionary? -/
def isHashable : Value → Bool
  | .list _ | .dict _ => false
  | .view kind _ _ => kind == .values
  | .absent why _ => why.isLenient
  | .decimal (.nan _ true _) | .notNumber (some (.nan _ true _)) _ => false
  | .tuple items => allHashable items
  | _ => true

/-- Can all values be keys? -/
def allHashable : List Value → Bool
  | [] => true
  | v :: vs => isHashable v && allHashable vs

end

/-- Is the value true as a condition?  Zero, empty and absent values are
    not. -/
def isTrue : Value → Bool
  | .null => false
  | .bool b => b
  | .int n => n != 0
  | .float x => x != 0.0
  | .complex re im => re != 0.0 || im != 0.0
  | .decimal (.finite _ c _) => c != 0
  | .text s => !s.isEmpty
  | .bytes b => b.size != 0
  | .list items => !items.isEmpty
  | .tuple items => !items.isEmpty
  | .dict es => !es.isEmpty
  | .range a b c => rangeSize a b c != 0
  | .view _ es _ => !es.isEmpty
  | .absent .. => false
  | _ => true

end Value

end CxxWriter
