/-
  Comparison of values.

  Numbers are compared across kinds by what they stand for, lists and tuples
  item by item, dictionaries by their entries.  Parts of a value that are the
  very same are equal without being compared.  To compare a value that is not
  there fails with what was looked for.
-/
import CxxWriter.Template.Arithmetic
import CxxWriter.Template.Member

namespace CxxWriter.Template

/-! ## Equality -/

/-- Are two values the same one?  Only those that have labels are told apart
    this way. -/
def isSelf (a b : Value) : Bool :=
  match a, b with
  | .notNumber _ l, .notNumber _ m => l == m
  | .view _ _ l, .view _ _ m => l == m
  | .absent _ l, .absent _ m => l == m
  | .loop l, .loop m => l == m
  | _, _ => false

/-- Is a value a signaling not-a-number? -/
def isSignaling : Value → Bool
  | .notNumber (some (.nan _ true _)) _ => true
  | _ => false

/-- Can a decimal be compared with the value? -/
def isComparable : Value → Bool
  | .complex _ im => im == 0.0
  | v => (numeric? v).isSome

/-- Equality of values that do not hold other values. -/
def leafEqual (a b : Value) : Outcome Bool :=
  match a, b with
  | .absent w _, .absent x _ =>
    if !x.isLenient && w.isLenient then notThere x
    else if w.isLenient then return true
    else notThere w
  | .absent why _, _ | _, .absent why _ =>
    if why.isLenient then return false else notThere why
  | a, b =>
    if (isSignaling a && isComparable b) || (isSignaling b && isComparable a) then
      faulty .invalidDecimal
    else match a, b with
      | .notNumber .., _ | _, .notNumber .. => return false
      | a, b => return a.sameLeaf b

/-- Compares with a value: is `x` equal to it, or, if told to, it to `x`? -/
abbrev Comparer := Bool → Value → Outcome Bool

/-- Compares with a value unless that is the very same. -/
def orSelf (x : Value) (comparer : Comparer) : Comparer := fun swapped y =>
  if isSelf x y then return true else comparer swapped y

/-- Are items equal one by one, as far as both lists go? -/
def allEqual : List Comparer → Bool → List Value → Outcome Bool
  | c :: cs, swapped, y :: ys => do
    if ← c swapped y then allEqual cs swapped ys else return false
  | _, _, _ => return true

/-- Are the values of all entries equal to those under the same keys? -/
def entriesHeld (comparers : List (Value × Comparer)) : List (Value × Value) → Outcome Bool
  | [] => return true
  | (k, v) :: es =>
    match comparers.find? (·.1.same k) with
    | none => return false
    | some (_, c) => do
      if ← c false v then entriesHeld comparers es else return false

/-- Are there entries for all keys, and equal values under them? -/
def keysHeld (entries : List (Value × Value)) : List (Value × Comparer) → Outcome Bool
  | [] => return true
  | (k, c) :: cs =>
    match Value.lookup? entries k with
    | none => return false
    | some v => do
      if ← c true v then keysHeld entries cs else return false

/-- Equality of entries.  Those of the left operand are looked up in the
    right one, and their values are compared in the other order. -/
def entriesEqual (swapped : Bool) (comparers : List (Value × Comparer))
    (entries : List (Value × Value)) : Outcome Bool :=
  if comparers.length ≠ entries.length then return false
  else if swapped then entriesHeld comparers entries
  else keysHeld entries comparers

mutual

/-- Equality of values. -/
def equalTo : Value → Comparer
  | .list xs => fun swapped y =>
    match y with
    | .list ys =>
      if xs.length ≠ ys.length then return false else allEqual (comparersOf xs) swapped ys
    | y => leafEqualIn swapped (.list []) y
  | .tuple xs => fun swapped y =>
    match y with
    | .tuple ys => do
      if ← allEqual (comparersOf xs) swapped ys then return xs.length == ys.length else return false
    | y => leafEqualIn swapped (.tuple []) y
  | .dict es => fun swapped y =>
    match y with
    | .dict fs => entriesEqual swapped (entryComparersOf es) fs
    | y => leafEqualIn swapped (.dict []) y
  | .view kind es label => fun swapped y =>
    match y with
    | .view kind' fs label' =>
      if kind ≠ kind' then return false
      else match kind with
        | .values => return label == label'
        | .keys => return es.length == fs.length && es.all fun e => (Value.lookup? fs e.1).isSome
        | .items => entriesEqual swapped (entryComparersOf es) fs
    | y => leafEqualIn swapped (.view kind es label) y
  | x => fun swapped y => leafEqualIn swapped x y

def comparersOf : List Value → List Comparer
  | [] => []
  | x :: xs => orSelf x (equalTo x) :: comparersOf xs

def entryComparersOf : List (Value × Value) → List (Value × Comparer)
  | [] => []
  | (k, x) :: es => (k, orSelf x (equalTo x)) :: entryComparersOf es

/-- Equality of values that do not both hold other values. -/
def leafEqualIn (swapped : Bool) (x y : Value) : Outcome Bool :=
  if swapped then leafEqual y x else leafEqual x y

end

/-- Are two values equal? -/
def equal (a b : Value) : Outcome Bool := equalTo a false b

/-- Are two values the same one, or else equal? -/
def selfOrEqual (a b : Value) : Outcome Bool := orSelf a (equalTo a) false b

/-- Is one of the items equal to a value? -/
def anyEqual (x : Value) : List Value → Outcome Bool
  | [] => return false
  | v :: vs => do
    if ← selfOrEqual v x then return true else anyEqual x vs

/-! ## Membership -/

/-- Does a view hold a value? -/
def viewHolds (kind : ViewKind) (entries : List (Value × Value)) (x : Value) : Outcome Bool := do
  match kind, x with
  | .keys, x =>
    checkKey x
    return (Value.lookup? entries x).isSome
  | .values, x => anyEqual x (entries.map (·.2))
  | .items, .tuple [k, v] =>
    checkKey k
    match Value.lookup? entries k with
    | some w => selfOrEqual w v
    | none => return false
  | .items, _ => return false

/-- Is an integer in a range? -/
def rangeHolds (start stop step n : Int) : Bool :=
  let inside := if 0 < step then start ≤ n && n < stop else stop < n && n ≤ start
  inside && (n - start) % step == 0

/-- Do bytes hold others? -/
def bytesHold (b sub : ByteArray) : Bool := Text.occursIn sub.data.toList b.data.toList

/-- Does a value hold another one? -/
def holds (v x : Value) : Outcome Bool := do
  match v, x with
  | .absent why _, _ => if why.isLenient then return false else notThere why
  | .text s, .text t => return Text.occursIn t.toList s.toList
  | .text _, _ => faulty .wrongKind
  | .bytes b, .bytes sub => return bytesHold b sub
  | .bytes b, x =>
    match x.int? with
    | some n =>
      if n < 0 ∨ 256 ≤ n then faulty .badValue
      else return b.data.toList.contains (UInt8.ofNat n.toNat)
    | none => faulty .wrongKind
  | .dict entries, x =>
    checkKey x
    return (Value.lookup? entries x).isSome
  | .view kind entries _, x => viewHolds kind entries x
  | .range start stop step, x =>
    match x.int? with
    | some n => return rangeHolds start stop step n
    | none => anyEqual x (← itemsOf v)
  | v, x => anyEqual x (← itemsOf v)

/-! ## Order -/

/-- Does the order satisfy the comparison? -/
def Relation.accepts (r : Relation) : Ordering → Bool
  | .lt => r == .lt || r == .le
  | .eq => r == .le || r == .ge
  | .gt => r == .gt || r == .ge

/-- The order of two lists of bytes. -/
def bytesOrder : List UInt8 → List UInt8 → Ordering
  | [], [] => .eq
  | [], _ :: _ => .lt
  | _ :: _, [] => .gt
  | x :: xs, y :: ys => if x = y then bytesOrder xs ys else if x < y then .lt else .gt

/-- Is the value a decimal? -/
def isDecimal : Value → Bool
  | .decimal _ | .notNumber (some _) _ => true
  | _ => false

/-- Compares two numbers by their order.  A double that is not a number comes
    neither before nor after another number; a decimal cannot be compared
    with it. -/
def numbersOrdered (r : Relation) (a b : Value) : Outcome Bool :=
  match a, b with
  | .complex .., _ | _, .complex .. => faulty .wrongKind
  | a, b =>
    match a.real?, b.real? with
    | some x, some y => return r.accepts (x.order y)
    | _, _ => if isDecimal a || isDecimal b then faulty .invalidDecimal else return false

/-- Does a view hold all items of another one? -/
def viewCovers (kind : ViewKind) (entries : List (Value × Value)) : List Value → Outcome Bool
  | [] => return true
  | v :: vs => do
    if ← viewHolds kind entries v then viewCovers kind entries vs else return false

/-- Compares two views as sets. -/
def viewsOrdered (r : Relation) (k : ViewKind) (es : List (Value × Value)) (k' : ViewKind)
    (fs : List (Value × Value)) : Outcome Bool :=
  let below := viewCovers k' fs (Value.viewItems k es)
  let above := viewCovers k es (Value.viewItems k' fs)
  match r with
  | .lt => if es.length < fs.length then below else return false
  | .le => if es.length ≤ fs.length then below else return false
  | .gt => if fs.length < es.length then above else return false
  | _ => if fs.length ≤ es.length then above else return false

/-- Compares two values that do not hold others by their order. -/
def leafOrdered (r : Relation) (a b : Value) : Outcome Bool :=
  match a, b with
  | .absent w _, .absent x _ => if w.isLenient && !x.isLenient then notThere x else notThere w
  | .absent why _, _ | _, .absent why _ => notThere why
  | .text s, .text t => return r.accepts (if s < t then .lt else if s = t then .eq else .gt)
  | .bytes s, .bytes t => return r.accepts (bytesOrder s.data.toList t.data.toList)
  | .view k es _, .view k' fs _ =>
    if k = .values ∨ k' = .values then faulty .wrongKind else viewsOrdered r k es k' fs
  | a, b =>
    if (numeric? a).isSome && (numeric? b).isSome then numbersOrdered r a b else faulty .wrongKind

mutual

/-- Compares two values by their order. -/
def ordered (r : Relation) : Value → Value → Outcome Bool
  | .list xs, .list ys => itemsOrdered r xs ys
  | .tuple xs, .tuple ys => itemsOrdered r xs ys
  | a, b => leafOrdered r a b

/-- Compares two lists by the order of the first items that differ. -/
def itemsOrdered (r : Relation) : List Value → List Value → Outcome Bool
  | [], [] => return r.accepts .eq
  | [], _ :: _ => return r.accepts .lt
  | _ :: _, [] => return r.accepts .gt
  | x :: xs, y :: ys => do
    if ← selfOrEqual x y then itemsOrdered r xs ys else ordered r x y

end

/-- Compares two values. -/
def related (r : Relation) (a b : Value) : Outcome Bool :=
  match r with
  | .eq => equal a b
  | .ne => (!·) <$> equal a b
  | .isIn => holds b a
  | .notIn => (!·) <$> holds b a
  | r => ordered r a b

end CxxWriter.Template
