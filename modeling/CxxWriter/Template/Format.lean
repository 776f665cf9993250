/-
  Patterns with directives.

  `pattern % arguments` replaces every directive of the pattern, such as `%s`
  or `%-5.2f`, by an argument.  The arguments are the items of a tuple, or a
  single value; a directive with a key, such as `%(name)d`, takes the item of
  the value under that key.  The pattern is a text, or bytes that stand for
  the characters of their numbers.
-/
import CxxWriter.Number.FixedText
import CxxWriter.Template.Arithmetic

namespace CxxWriter.Template

/-! ## Directives -/

/-- How the text for an argument is laid out. -/
structure Layout where
  left : Bool
  plus : Bool
  space : Bool
  alternate : Bool
  zero : Bool
  width : Nat
  precision : Option Nat

/-- The plain layout. -/
def Layout.plain : Layout := ⟨false, false, false, false, false, 0, none⟩

/-- What is left of the arguments. -/
structure Supplies where
  /-- The value that keys are looked up in. -/
  keyed : Option Value
  pending : List Value

/-- Takes the next argument. -/
def Supplies.take (s : Supplies) : Outcome (Value × Supplies) :=
  match s.pending with
  | [] => faulty .wrongKind
  | v :: vs => return (v, { s with pending := vs })

/-- Can items of the value be looked up by keys? -/
def isKeyed (ofBytes : Bool) : Value → Bool
  | .list _ | .dict _ | .range .. | .absent .. | .blocks .. => true
  | .bytes _ => !ofBytes
  | _ => false

/-- The arguments that a value stands for. -/
def Supplies.ofValue (ofBytes : Bool) (v : Value) : Supplies :=
  match v with
  | .tuple items => ⟨none, items⟩
  | v => ⟨if isKeyed ofBytes v then some v else none, [v]⟩

/-- The characters of bytes. -/
def charsOfBytes (b : ByteArray) : List Char := b.data.toList.map fun x => Char.ofNat x.toNat

/-- The bytes of characters. -/
def bytesOfChars (cs : List Char) : ByteArray := ⟨(cs.map fun c => UInt8.ofNat c.toNat).toArray⟩

/-! ## Arguments as text -/

/-- The integer that a number is cut to. -/
def truncated (v : Value) : Outcome Int := do
  match v, numeric? v with
  | .absent why _, _ => notThere why
  | _, some (.int n) => return n
  | _, some (.float x) =>
    match Double.parts x with
    | .nan => faulty .badValue
    | .infinite _ => faulty .overflow
    | .finite negative m e =>
      return Decimal.signed negative (m * twoTo e.toNat / twoTo (-e).toNat)
  | _, some (.decimal (.nan ..)) => faulty .badValue
  | _, some (.decimal (.infinite _)) => faulty .overflow
  | _, some (.decimal (.finite negative c e)) =>
    return Decimal.signed negative
      (if 0 ≤ e then c * tenTo e.toNat
       else if (-e).toNat < Double.digitCount c then c / tenTo (-e).toNat else 0)
  | _, _ => faulty .wrongKind

/-- The double that a number is. -/
def doubled (v : Value) : Outcome Float := do
  match v, numeric? v with
  | .absent why _, _ => notThere why
  | _, some (.int n) => toDouble n
  | _, some (.float x) => return x
  | _, some (.decimal (.nan _ signaling _)) =>
    if signaling then faulty .badValue else return (0.0 / 0.0)
  | _, some (.decimal (.infinite negative)) =>
    return if negative then -Double.infinity else Double.infinity
  | _, some (.decimal (.finite negative c e)) => return Double.ofDecimal negative c e
  | _, _ => faulty .wrongKind

/-- The digits of a natural in a base. -/
def baseDigits (base n : Nat) : List Char := Nat.toDigits base n

/-- The mark of a base. -/
def baseMark (c : Char) : List Char := if c = 'o' then ['0', 'o'] else ['0', 'x']

/-- An integer for the directive `c`, with at least as many digits as told. -/
def integerChars (l : Layout) (c : Char) (n : Int) : Outcome (List Char) := do
  let based := c == 'o' || c == 'x' || c == 'X'
  unless based || Value.isShort n do faulty .badValue
  let base := if c = 'o' then 8 else if c = 'x' ∨ c = 'X' then 16 else 10
  let ds := baseDigits base n.natAbs
  let ds := List.replicate ((l.precision.getD 0) - ds.length) '0' ++ ds
  let ds := if based && l.alternate then baseMark c ++ ds else ds
  let ds := if c = 'X' then ds.map Char.toUpper else ds
  return if n < 0 then '-' :: ds else ds

/-- The style of a directive for doubles. -/
def styleOf (c : Char) : Double.Style :=
  match c.toLower with
  | 'f' => .fixed
  | 'e' => .scientific
  | _ => .general

/-- A double for the directive `c`. -/
def doubleChars (l : Layout) (c : Char) (x : Float) : List Char :=
  let s := (Double.styledText (styleOf c) l.alternate (l.precision.getD 6) x).toList
  if c.isUpper then s.map Char.toUpper else s

/-- A text with all characters beyond ASCII escaped. -/
def escapedChars (s : String) : List Char :=
  s.toList.flatMap fun c =>
    if c.toNat < 0x80 then [c]
    else if c.toNat < 0x100 then '\\' :: 'x' :: Text.hexDigits 2 c.toNat
    else if c.toNat < 0x10000 then '\\' :: 'u' :: Text.hexDigits 4 c.toNat
    else '\\' :: 'U' :: Text.hexDigits 8 c.toNat

/-- The first characters, as many as the precision tells. -/
def Layout.cut (l : Layout) (cs : List Char) : List Char :=
  match l.precision with
  | some n => cs.take n
  | none => cs

/-- The character that an argument stands for. -/
def characterOf (ofBytes : Bool) (v : Value) : Outcome (List Char) :=
  match v with
  | .text s =>
    match s.toList, ofBytes with
    | [c], false => return [c]
    | _, _ => faulty .wrongKind
  | .bytes b =>
    match charsOfBytes b, ofBytes with
    | [c], true => return [c]
    | _, _ => faulty .wrongKind
  | v =>
    match v.int? with
    | none => faulty .wrongKind
    | some n =>
      if n < 0 ∨ (if ofBytes then 0x100 else 0x110000) ≤ n then faulty .overflow
      else return [Char.ofNat n.toNat]

/-! ## Layout -/

/-- A sign at the front of a number, or the one that the layout asks for. -/
def Layout.takeSign (l : Layout) : List Char → List Char × List Char
  | '-' :: cs => (['-'], cs)
  | '+' :: cs => (['+'], cs)
  | cs => (if l.plus then ['+'] else if l.space then [' '] else [], cs)

/-- Fills a text up to the width. -/
def Layout.fillText (l : Layout) (cs : List Char) : List Char :=
  let pad := List.replicate (l.width - cs.length) ' '
  if l.left then cs ++ pad else pad ++ cs

/-- Fills a number up to the width; `marked` tells whether the mark of a base
    stands in front of the digits.  Zeros go between these and the digits. -/
def Layout.fillNumber (l : Layout) (marked : Bool) (cs : List Char) : List Char :=
  let (sign, cs) := l.takeSign cs
  let (mark, cs) := if marked then (cs.take 2, cs.drop 2) else ([], cs)
  let pad := l.width - (sign.length + mark.length + cs.length)
  if l.left then sign ++ mark ++ cs ++ List.replicate pad ' '
  else if l.zero then sign ++ mark ++ List.replicate pad '0' ++ cs
  else List.replicate pad ' ' ++ sign ++ mark ++ cs

/-- An argument for the directive `c`. -/
def directed (ofBytes : Bool) (l : Layout) (c : Char) (v : Value) : Outcome (List Char) := do
  if maxItems < l.width then faulty .tooLarge
  match c with
  | 'd' | 'i' | 'u' => return l.fillNumber false (← integerChars l 'd' (← truncated v))
  | 'o' | 'x' | 'X' =>
    match v.int? with
    | some n => return l.fillNumber l.alternate (← integerChars l c n)
    | none => faulty .wrongKind
  | 'e' | 'E' | 'f' | 'F' | 'g' | 'G' =>
    let x ← if ofBytes then tryCatch (doubled v) fun _ => faulty .wrongKind else doubled v
    return l.fillNumber false (doubleChars l c x)
  | 'c' => return l.fillText (← characterOf ofBytes v)
  | 'a' => return l.fillText (l.cut (escapedChars (← quotedText v)))
  | 'r' =>
    let s ← quotedText v
    return l.fillText (l.cut (if ofBytes then escapedChars s else s.toList))
  | 's' =>
    if ofBytes then
      match v with
      | .bytes b => return l.fillText (l.cut (charsOfBytes b))
      | _ => faulty .wrongKind
    else return l.fillText (l.cut (← printed v).toList)
  | 'b' =>
    match v, ofBytes with
    | .bytes b, true => return l.fillText (l.cut (charsOfBytes b))
    | _, true => faulty .wrongKind
    | _, false => faulty .badValue
  | _ => faulty .badValue

/-! ## Reading directives -/

/-- The key of a directive after its opening bracket, brackets inside of it
    being balanced; and the rest. -/
def takeKey? (open_ : Nat) : List Char → Option (List Char × List Char)
  | [] => none
  | c :: cs =>
    if c = ')' ∧ open_ = 0 then some ([], cs)
    else
      let open_ := if c = '(' then open_ + 1 else if c = ')' then open_ - 1 else open_
      (takeKey? open_ cs).map fun (key, rest) => (c :: key, rest)

/-- The item under the key of a directive. -/
def keyedItem (ofBytes : Bool) (v : Value) (key : List Char) : Outcome Value := do
  match v with
  | .absent why _ => notThere why
  | .dict entries =>
    let key := if ofBytes then .bytes (bytesOfChars key) else .text (String.ofList key)
    match Value.lookup? entries key with
    | some x => return x
    | none => faulty .noKey
  | _ => faulty .wrongKind

/-- Sets what a flag stands for. -/
def Layout.flagged? (l : Layout) : Char → Option Layout
  | '-' => some { l with left := true }
  | '+' => some { l with plus := true }
  | ' ' => some { l with space := true }
  | '#' => some { l with alternate := true }
  | '0' => some { l with zero := true }
  | _ => none

/-- The flags at the front. -/
def takeFlags (l : Layout) : List Char → Layout × List Char
  | [] => (l, [])
  | c :: cs =>
    match l.flagged? c with
    | some l => takeFlags l cs
    | none => (l, c :: cs)

/-- The number at the front, which may not exceed `limit`. -/
def takeLimited (limit : Nat) (cs : List Char) : Outcome (Nat × List Char) :=
  let (n, _, rest) := Double.takeDigits cs
  if limit < n then faulty .badValue else return (n, rest)

/-- A number that is given by an argument. -/
def givenNumber (limit : Nat) (s : Supplies) : Outcome (Int × Supplies) := do
  let (v, s) ← s.take
  match v.int? with
  | none => faulty .wrongKind
  | some n => if limit < n ∨ n < -(limit : Int) - 1 then faulty .overflow else return (n, s)

/-- The largest precision. -/
def maxPrecision : Nat := 2147483647

/-- The width at the front. -/
def takeWidth (l : Layout) (s : Supplies) (cs : List Char) : Outcome (Layout × Supplies × List Char) := do
  match cs with
  | '*' :: cs =>
    let (n, s) ← givenNumber maxLength s
    return ({ l with width := n.natAbs, left := l.left || n < 0 }, s, cs)
  | cs =>
    let (n, rest) ← takeLimited maxLength cs
    return ({ l with width := n }, s, rest)

/-- The precision at the front. -/
def takePrecision (l : Layout) (s : Supplies) (cs : List Char) :
    Outcome (Layout × Supplies × List Char) := do
  match cs with
  | '.' :: '*' :: cs =>
    let (n, s) ← givenNumber maxPrecision s
    return ({ l with precision := some n.toNat }, s, cs)
  | '.' :: cs =>
    let (n, rest) ← takeLimited maxPrecision cs
    return ({ l with precision := some n }, s, rest)
  | cs => return (l, s, cs)

/-- Drops a mark of size, which means nothing. -/
def dropSize : List Char → List Char
  | 'h' :: cs | 'l' :: cs | 'L' :: cs => cs
  | cs => cs

/-- Replaces the directive whose characters after the `%` are at the front. -/
def replaceDirective (ofBytes : Bool) (s : Supplies) (cs : List Char) :
    Outcome (List Char × Supplies × List Char) := do
  let (s, cs) ← match cs with
    | '(' :: cs =>
      match s.keyed with
      | none => faulty .wrongKind
      | some v =>
        match takeKey? 0 cs with
        | none => faulty .badValue
        | some (key, rest) => pure ({ s with pending := [← keyedItem ofBytes v key] }, rest)
    | cs => pure (s, cs)
  let (l, cs) := takeFlags .plain cs
  let (l, s, cs) ← takeWidth l s cs
  let (l, s, cs) ← takePrecision l s cs
  match dropSize cs with
  | [] => faulty .badValue
  | c :: cs =>
    let (v, s) ← s.take
    return (← directed ofBytes l c v, s, cs)

/-- Replaces the directives of a pattern, no more than `fuel` characters and
    directives.  Two percent signs stand for one. -/
def replaceDirectives (ofBytes : Bool) : Nat → Supplies → List Char → Outcome (List Char)
  | 0, _, _ => return []
  | _, s, [] => do
    if s.keyed.isNone && !s.pending.isEmpty then faulty .wrongKind
    return []
  | fuel + 1, s, '%' :: '%' :: cs => return '%' :: (← replaceDirectives ofBytes fuel s cs)
  | fuel + 1, s, '%' :: cs => do
    let (found, s, rest) ← replaceDirective ofBytes s cs
    return found ++ (← replaceDirectives ofBytes fuel s rest)
  | fuel + 1, s, c :: cs => return c :: (← replaceDirectives ofBytes fuel s cs)

/-- A text pattern with its arguments. -/
def formatText (pattern : String) (v : Value) : Outcome String := do
  let cs := pattern.toList
  return String.ofList (← replaceDirectives false (cs.length + 1) (.ofValue false v) cs)

/-- A pattern of bytes with its arguments. -/
def formatBytes (pattern : ByteArray) (v : Value) : Outcome ByteArray := do
  let cs := charsOfBytes pattern
  return bytesOfChars (← replaceDirectives true (cs.length + 1) (.ofValue true v) cs)

/-! ## Patterns in parts -/

/-- A number of at most two digits at the front. -/
def takeShort? (cs : List Char) : Option (List Char) :=
  let digits := cs.takeWhile Char.isDigit
  if digits.length ≤ 2 then some (cs.drop digits.length) else none

/-- What follows a directive that any value will do for, whose characters
    after the `%` are at the front. -/
def afterPlain? (cs : List Char) : Option (List Char) := do
  let rest ← takeShort? (takeFlags .plain cs).2
  let rest ← match rest with
    | '.' :: rest => takeShort? rest
    | rest => some rest
  match rest with
  | c :: rest => if c = 's' ∨ c = 'r' ∨ c = 'a' then some rest else none
  | [] => none

/-- A pattern all of whose directives will do for any value, cut after each of
    them: `found` is what comes before the rest, after the last cut.  No more
    than `fuel` characters and directives. -/
def plainParts? : Nat → List Char → List Char → Option (List String × String)
  | 0, _, _ => none
  | _, found, [] => some ([], String.ofList found)
  | fuel + 1, found, '%' :: '%' :: cs => plainParts? fuel (found ++ ['%', '%']) cs
  | fuel + 1, found, '%' :: cs => do
    let rest ← afterPlain? cs
    let part := found ++ '%' :: cs.take (cs.length - rest.length)
    let (parts, last) ← plainParts? fuel [] rest
    return (String.ofList part :: parts, last)
  | fuel + 1, found, c :: cs => plainParts? fuel (found ++ [c]) cs

/-- The parts of a pattern, if all of its directives will do for any value and
    there are as many of them as told; and what follows the last of them. -/
def partsFor? (count : Nat) (pattern : String) : Option (List String × String) :=
  let cs := pattern.toList
  (plainParts? (cs.length + 1) [] cs).filter (·.1.length = count)

/-- An operator on two values. -/
def applyOperator (op : Operator) (a b : Value) : Outcome Value := do
  match op, a with
  | .mod, .text pattern => return .text (← formatText pattern b)
  | .mod, .bytes pattern => return .bytes (← formatBytes pattern b)
  | op, a => binaryOp op a b

end CxxWriter.Template
