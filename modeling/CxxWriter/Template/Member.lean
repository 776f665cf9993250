/-
  Members and items of values.

  `v.name` is an attribute that belongs to the kind of the value, or else the
  value of a dictionary under that text; `v[key]` is an item, or else an
  attribute.  What is not there is a value, too: to use it fails.

  Most attributes are only known to be there.
-/
import CxxWriter.Template.Outcome

namespace CxxWriter.Template

/-! ## Attributes -/

/-- What messages call a value. -/
def objectName : Value → String
  | .null => "None"
  | v => v.fullKindName ++ " object"

/-- The attributes that every value has. -/
def commonAttributes : String :=
  "__class__ __delattr__ __dir__ __doc__ __eq__ __format__ __ge__ __getattribute__ " ++
  "__getstate__ __gt__ __hash__ __init__ __init_subclass__ __le__ __lt__ __ne__ __new__ " ++
  "__reduce__ __reduce_ex__ __repr__ __setattr__ __sizeof__ __str__ __subclasshook__"

def integerAttributes : String :=
  "__abs__ __add__ __and__ __bool__ __ceil__ __divmod__ __float__ __floor__ __floordiv__ " ++
  "__getnewargs__ __index__ __int__ __invert__ __lshift__ __mod__ __mul__ __neg__ __or__ " ++
  "__pos__ __pow__ __radd__ __rand__ __rdivmod__ __rfloordiv__ __rlshift__ __rmod__ __rmul__ " ++
  "__ror__ __round__ __rpow__ __rrshift__ __rshift__ __rsub__ __rtruediv__ __rxor__ __sub__ " ++
  "__truediv__ __trunc__ __xor__ as_integer_ratio bit_count bit_length conjugate denominator " ++
  "from_bytes imag numerator real to_bytes"

def doubleAttributes : String :=
  "__abs__ __add__ __bool__ __ceil__ __divmod__ __float__ __floor__ __floordiv__ " ++
  "__getformat__ __getnewargs__ __int__ __mod__ __mul__ __neg__ __pos__ __pow__ __radd__ " ++
  "__rdivmod__ __rfloordiv__ __rmod__ __rmul__ __round__ __rpow__ __rsub__ __rtruediv__ " ++
  "__sub__ __truediv__ __trunc__ as_integer_ratio conjugate fromhex hex imag is_integer real"

def complexAttributes : String :=
  "__abs__ __add__ __bool__ __complex__ __getnewargs__ __mul__ __neg__ __pos__ __pow__ " ++
  "__radd__ __rmul__ __rpow__ __rsub__ __rtruediv__ __sub__ __truediv__ conjugate imag real"

def decimalAttributes : String :=
  "__abs__ __add__ __bool__ __ceil__ __complex__ __copy__ __deepcopy__ __divmod__ __float__ " ++
  "__floor__ __floordiv__ __int__ __mod__ __module__ __mul__ __neg__ __pos__ __pow__ __radd__ " ++
  "__rdivmod__ __rfloordiv__ __rmod__ __rmul__ __round__ __rpow__ __rsub__ __rtruediv__ " ++
  "__sub__ __truediv__ __trunc__ adjusted as_integer_ratio as_tuple canonical compare " ++
  "compare_signal compare_total compare_total_mag conjugate copy_abs copy_negate copy_sign " ++
  "exp fma from_float imag is_canonical is_finite is_infinite is_nan is_normal is_qnan " ++
  "is_signed is_snan is_subnormal is_zero ln log10 logb logical_and logical_invert " ++
  "logical_or logical_xor max max_mag min min_mag next_minus next_plus next_toward normalize " ++
  "number_class quantize radix real remainder_near rotate same_quantum scaleb shift sqrt " ++
  "to_eng_string to_integral to_integral_exact to_integral_value"

def textAttributes : String :=
  "__add__ __contains__ __getitem__ __getnewargs__ __iter__ __len__ __mod__ __mul__ __rmod__ " ++
  "__rmul__ capitalize casefold center count encode endswith expandtabs find format " ++
  "format_map index isalnum isalpha isascii isdecimal isdigit isidentifier islower isnumeric " ++
  "isprintable isspace istitle isupper join ljust lower lstrip maketrans partition " ++
  "removeprefix removesuffix replace rfind rindex rjust rpartition rsplit rstrip split " ++
  "splitlines startswith strip swapcase title translate upper zfill"

def bytesAttributes : String :=
  "__add__ __bytes__ __contains__ __getitem__ __getnewargs__ __iter__ __len__ __mod__ " ++
  "__mul__ __rmod__ __rmul__ capitalize center count decode endswith expandtabs find fromhex " ++
  "hex index isalnum isalpha isascii isdigit islower isspace istitle isupper join ljust " ++
  "lower lstrip maketrans partition removeprefix removesuffix replace rfind rindex rjust " ++
  "rpartition rsplit rstrip split splitlines startswith strip swapcase title translate upper " ++
  "zfill"

def listAttributes : String :=
  "__add__ __class_getitem__ __contains__ __delitem__ __getitem__ __iadd__ __imul__ __iter__ " ++
  "__len__ __mul__ __reversed__ __rmul__ __setitem__ append clear copy count extend index " ++
  "insert pop remove reverse sort"

def tupleAttributes : String :=
  "__add__ __class_getitem__ __contains__ __getitem__ __getnewargs__ __iter__ __len__ " ++
  "__mul__ __rmul__ count index"

def dictAttributes : String :=
  "__class_getitem__ __contains__ __delitem__ __getitem__ __ior__ __iter__ __len__ __or__ " ++
  "__reversed__ __ror__ __setitem__ clear copy fromkeys get items keys pop popitem " ++
  "setdefault update values"

def rangeAttributes : String :=
  "__bool__ __contains__ __getitem__ __iter__ __len__ __reversed__ count index start step stop"

def viewAttributes : ViewKind → String
  | .values => "__iter__ __len__ __reversed__ mapping"
  | _ =>
    "__and__ __contains__ __iter__ __len__ __or__ __rand__ __reversed__ __ror__ __rsub__ " ++
    "__rxor__ __sub__ __xor__ isdisjoint mapping"

def methodAttributes : String :=
  "__call__ __module__ __name__ __qualname__ __self__ __text_signature__"

def loopAttributes : String :=
  "__call__ __dict__ __iter__ __len__ __module__ __next__ __weakref__ cycle changed"

def cyclerAttributes : String :=
  "__dict__ __module__ __next__ __weakref__ current items next pos reset"

def moduleAttributes : String :=
  "__dict__ __html__ __module__ __name__ __weakref__ _body_stream"

def builtinAttributes : String :=
  "__base__ __bases__ __call__ __dict__ __module__ __mro__ __name__ __qualname__ mro"

/-- The attributes that the kind of a value has beyond those of every value. -/
def attributesOf : Value → String
  | .null => "__bool__"
  | .bool _ | .int _ => integerAttributes
  | .float _ | .notNumber none _ => doubleAttributes
  | .complex .. => complexAttributes
  | .decimal _ | .notNumber (some _) _ => decimalAttributes
  | .text _ => textAttributes
  | .bytes _ => bytesAttributes
  | .list _ => listAttributes
  | .tuple _ => tupleAttributes
  | .dict _ => dictAttributes
  | .range .. => rangeAttributes
  | .view kind _ _ => viewAttributes kind
  | .method .. => methodAttributes
  | .builtin _ => builtinAttributes
  | .loop _ => loopAttributes
  | .cycler _ => cyclerAttributes
  | .module .. => moduleAttributes
  | .block .. | .blocks .. | .absent .. => "__dict__ __module__"

/-- Is the name one of the words? -/
def isOneOfWords (name words : String) : Bool :=
  (Text.splitString ' ' words).contains name

/-- Has the value an attribute of the name? -/
def hasAttribute (v : Value) (name : String) : Bool :=
  isOneOfWords name (attributesOf v) || isOneOfWords name commonAttributes

/-- The block that a block replaces, if `after` tells that there is one. -/
def replacedBlock (name : String) (before after : Nat) : Outcome Value :=
  match after with
  | 0 => missing (.parentBlock name)
  | after + 1 => return .block name (before + 1) after

/-- What a loop tells about its progress. -/
def loopMember? (label : Nat) (name : String) : Outcome (Option Value) := do
  let l ← loopState label
  let index : Int := l.taken
  match name with
  | "index" => return some (.int index)
  | "index0" => return some (.int (index - 1))
  | "first" => return some (.bool (index == 1))
  | "depth" => return some (.int 1)
  | "depth0" => return some (.int 0)
  | "length" => return some (.int (← l.length))
  | "revindex" => return some (.int ((← l.length) - index + 1))
  | "revindex0" => return some (.int ((← l.length) - index))
  | "last" => return some (.bool (← l.peek).isNone)
  | "previtem" =>
    match l.previous with
    | some v => return some v
    | none => some <$> missing .previousItem
  | "nextitem" =>
    match ← l.peek with
    | some v => return some v
    | none => some <$> missing .nextItem
  | _ => return none

/-- What a cycler tells of itself. -/
def cyclerMember? (label : Nat) (name : String) : Outcome (Option Value) := do
  let c ← cyclerState label
  match name with
  | "current" => some <$> c.current
  | "items" => return some (.tuple c.items)
  | "pos" => return some (.int c.position)
  | _ => return none

/-- A part of a number. -/
def numberMember? (v : Value) (name : String) : Outcome (Option Value) := do
  match v, name with
  | .float _, "real" | .decimal _, "real" | .notNumber .., "real" => return some v
  | .float _, "imag" | .notNumber none _, "imag" => return some (.float 0.0)
  | .decimal _, "imag" | .notNumber (some _) _, "imag" => return some (.decimal (.finite false 0 0))
  | .complex re _, "real" => some <$> doubleOf re
  | .complex _ im, "imag" => some <$> doubleOf im
  | v, name =>
    match v.int? with
    | some n =>
      if name = "real" ∨ name = "numerator" then return some (.int n)
      else if name = "imag" then return some (.int 0)
      else if name = "denominator" then return some (.int 1)
      else return none
    | none => return none

/-- The value of an attribute. -/
def attributeValue (v : Value) (name : String) : Outcome Value := do
  match v, name with
  | v, "__class__" => return .builtin (.kind v.fullKindName)
  | .builtin b, "__name__" | .builtin b, "__qualname__" =>
    return .text ((Text.splitString '.' b.fullName).getLastD b.fullName)
  | .method _ method, "__name__" => return .text method
  | .range start _ _, "start" => return .int start
  | .range _ stop _, "stop" => return .int stop
  | .range _ _ step, "step" => return .int step
  | v, name =>
    match ← numberMember? v name with
    | some part => return part
    | none => return .method v name

/-- An attribute that belongs to the kind of a value. -/
def ownMember? (v : Value) (name : String) : Outcome (Option Value) := do
  let special ← match v with
    | .loop label => loopMember? label name
    | .cycler label => cyclerMember? label name
    | .module _ label => pure ((← moduleContent label).members.lookup name)
    | .block block before after =>
      if name = "super" then some <$> replacedBlock block before after else pure none
    | _ => pure none
  match special with
  | some m => return some m
  | none => if hasAttribute v name then some <$> attributeValue v name else return none

/-! ## Keys -/

mutual

/-- Why a value cannot be the key of a dictionary. -/
def keyFault? : Value → Option Failure
  | .tuple items => keyFaultIn? items
  | .absent why _ => if why.isLenient then none else some (.ofAbsence why)
  | v => if v.isHashable then none else some (.value .wrongKind)

def keyFaultIn? : List Value → Option Failure
  | [] => none
  | v :: vs =>
    match keyFault? v with
    | some f => some f
    | none => keyFaultIn? vs

end

/-- Fails for a value that cannot be the key of a dictionary. -/
def checkKey (v : Value) : Outcome Unit :=
  match keyFault? v with
  | some f => throw f
  | none => return ()

/-! ## Items -/

/-- The position at an index of so many items; the index counts from the end
    if it is negative. -/
def position? (size : Nat) (i : Int) : Option Nat :=
  if 0 ≤ i then if i < size then some i.toNat else none
  else if -(size : Int) ≤ i then some (i + size).toNat
  else none

/-- The item at an index. -/
def indexed? {α : Type} (l : List α) (i : Int) : Option α :=
  (position? l.length i).bind (l[·]?)

/-- The item of a value under a key, if the value has such items and one
    under that key. -/
def item? (v key : Value) : Outcome (Option Value) := do
  match v with
  | .dict entries =>
    match keyFault? key with
    | none => return Value.lookup? entries key
    | some (.value _) => return none
    | some f => throw f
  | .list items | .tuple items => return key.int?.bind (indexed? items)
  | .text s =>
    return key.int?.bind fun i => (indexed? s.toList i).map fun c => .text (String.singleton c)
  | .bytes b => return key.int?.bind fun i => (indexed? b.data.toList i).map fun x => .int x.toNat
  | .range start stop step =>
    return key.int?.bind fun i =>
      (position? (Value.rangeSize start stop step) i).map fun i => .int (start + step * i)
  | .blocks _ counts =>
    match key with
    | .text name => return (counts.lookup name).map fun n => .block name 0 (n - 1)
    | _ => return none
  | _ => return none

/-- `v.name`: an attribute, or else the item under that text. -/
def member (v : Value) (name : String) : Outcome Value := do
  match ← ownMember? v name with
  | some m => return m
  | none =>
    match v with
    | .absent why _ => notThere why
    | v =>
      match ← item? v (.text name) with
      | some x => return x
      | none => missing (.member (objectName v) name)

/-- What `v[key]` comes to if there is no such item. -/
def missingItem (v key : Value) : Outcome Value := do
  let m ← get
  missing (.element (objectName v) (if key.isWritable then some (key.quotedWith (loopText m)) else none))

/-- `v[key]`: an item, or else an attribute of that name. -/
def subscripted (v key : Value) : Outcome Value := do
  match v with
  | .absent why _ => notThere why
  | v =>
    match ← item? v key with
    | some x => return x
    | none =>
      match key with
      | .text name =>
        match ← ownMember? v name with
        | some m => return m
        | none => missing (.member (objectName v) name)
      | key => missingItem v key

end CxxWriter.Template
