/-
  Reading a command line.

  Every argument is first looked at on its own: it is an operand, an option,
  or the mark `--`, after which all arguments are operands.  Then options take
  their values and the first operand is the template.

  * An option may be shortened as long as no other one starts like it.
  * A value is joined to an option by `=`, follows the letter of a short one,
    or is the next operand.  The mark `--`, joined to an option, is no value.
  * Short options without values may be joined, as in `-vc file` or `-v=h`.
-/
import CxxWriter.CommandLine.Option
import CxxWriter.Text.Digit
import CxxWriter.Text.Quoted

namespace CxxWriter.CommandLine

/-- An option in a command line, with the text joined to it. -/
structure OptionUse where
  flag : Flag
  name : String
  joined : Option (List Char)
deriving DecidableEq, Repr

/-- An argument, looked at on its own. -/
inductive Item where
  | operand (s : String)
  /-- The mark `--`. -/
  | terminator
  | option (use : OptionUse)
  | unknown (s : String)
deriving DecidableEq, Repr

/-! ## Arguments on their own -/

/-- Splits a text at the first `=`. -/
def splitEquals (cs : List Char) : List Char × Option (List Char) :=
  match cs.dropWhile (· != '=') with
  | _ :: value => (cs.takeWhile (· != '='), some value)
  | [] => (cs, none)

/-- Digits, at least one. -/
def areDigits (cs : List Char) : Bool :=
  !cs.isEmpty && cs.all fun c => (Text.digitValue? c).isSome

/-- Does an argument look like a negative number?  A line feed may end it. -/
def isNegative : List Char → Bool
  | '-' :: cs =>
    let cs := if cs.getLast? = some '\n' then cs.dropLast else cs
    let whole := cs.takeWhile (· != '.')
    match cs.dropWhile (· != '.') with
    | [] => areDigits whole
    | _ :: decimals => (whole.isEmpty || areDigits whole) && areDigits decimals
  | _ => false

/-- Is the name of an option a dash and a letter? -/
def isShort (name : String) : Bool := !name.startsWith "--"

/-- The options that an argument may be short for. -/
def candidates (cs : List Char) : List OptionUse :=
  match cs with
  | '-' :: '-' :: _ =>
    let (start, joined) := splitEquals cs
    (Flag.table.filter fun e => start.isPrefixOf e.1.toList).map fun e => ⟨e.2, e.1, joined⟩
  | '-' :: c :: value =>
    (Flag.table.filter fun e => e.1.toList = ['-', c]).map fun e => ⟨e.2, e.1, some value⟩
  | _ => []

/-- An option whose full name is given, perhaps with a value after `=`. -/
def named? (cs : List Char) : Option OptionUse :=
  let exact (name : List Char) (joined : Option (List Char)) : Option OptionUse :=
    (Flag.ofName? (String.ofList name)).map fun f => ⟨f, String.ofList name, joined⟩
  let (name, joined) := splitEquals cs
  exact cs none <|> exact name joined

/-- What an argument is on its own. -/
def item (s : String) : Except UsageFault Item :=
  let cs := s.toList
  if cs.head? != some '-' || cs.length == 1 then .ok (.operand s)
  else match named? cs with
    | some use => .ok (.option use)
    | none =>
      match candidates cs with
      | [use] => .ok (.option use)
      | [] => .ok (if isNegative cs || cs.contains ' ' then .operand s else .unknown s)
      | uses => .error (.ambiguous s (uses.map (·.name)))

/-- What the arguments are on their own. -/
def items : List String → Except UsageFault (List Item)
  | [] => .ok []
  | s :: rest =>
    if s = "--" then .ok (.terminator :: rest.map .operand)
    else do return (← item s) :: (← items rest)

/-! ## Options that are joined -/

/-- The options in one argument. -/
structure Bundle where
  /-- Options and their values, in order. -/
  settled : List (Flag × Option String)
  /-- The last option, if its value is the next operand. -/
  awaiting : Option Flag

/-- An option with nothing joined to it. -/
def Bundle.ofFlag (f : Flag) : Bundle :=
  if f.takesValue then ⟨[], some f⟩ else ⟨[(f, none)], none⟩

/-- The value that is joined to an option. -/
def joinedValue (cs : List Char) : String := if cs = ['-', '-'] then "" else String.ofList cs

/-- The options in an argument, from an option and the text joined to it. -/
def Bundle.ofJoined (f : Flag) (short : Bool) (joined : List Char) : Except UsageFault Bundle :=
  if f.takesValue then .ok ⟨[(f, some (joinedValue joined))], none⟩
  else
    let ignored := Except.error (.valueIgnored f (String.ofList joined))
    match joined with
    | [] => ignored
    | c :: rest =>
      match (if short then Flag.ofName? (String.ofList ['-', c]) else none) with
      | none => ignored
      | some next => do
        let more ← match rest with
          | [] => pure (ofFlag next)
          | rest => ofJoined next true rest
        return { more with settled := (f, none) :: more.settled }

/-- The options in an argument. -/
def OptionUse.bundle (use : OptionUse) : Except UsageFault Bundle :=
  match use.joined with
  | none => .ok (Bundle.ofFlag use.flag)
  | some joined => Bundle.ofJoined use.flag (isShort use.name) joined

/-! ## The whole command line -/

/-- Arguments. -/
structure Arguments where
  template : String
  context : Option String
  output : Option String
  config : Option String
  indent : Option String
  guard : Option String
  autoGuard : Bool
  verbose : Bool
deriving DecidableEq, Repr

/-- What has been read of a command line. -/
structure Reading where
  template : Option String
  /-- Options and their values, the latest first. -/
  given : List (Flag × Option String)
  /-- Arguments without a use. -/
  extras : List String

/-- Why a command line gives no arguments. -/
inductive Halt where
  | help
  | version
  | fault (f : UsageFault)
deriving DecidableEq, Repr

namespace Reading

/-- Before the first argument. -/
def start : Reading := ⟨none, [], []⟩

/-- Has an option been given? -/
def has (r : Reading) (f : Flag) : Bool := r.given.any (·.1 == f)

/-- The value of an option, the latest if there are several. -/
def value? (r : Reading) (f : Flag) : Option String := (r.given.find? (·.1 == f)).bind (·.2)

/-- Keeps an argument without a use. -/
def addExtra (r : Reading) (s : String) : Reading := { r with extras := r.extras ++ [s] }

/-- An operand is the template, if there is none yet. -/
def addOperand (r : Reading) (s : String) : Reading :=
  if r.template.isNone then { r with template := some s } else r.addExtra s

/-- Takes an option and its value. -/
def take (r : Reading) (f : Flag) (value : Option String) : Except Halt Reading :=
  match f.rival?.filter r.has with
  | some earlier => .error (.fault (.conflict f earlier))
  | none =>
    match f with
    | .help => .error .help
    | .version => .error .version
    | f => .ok { r with given := (f, value) :: r.given }

/-- Takes options and their values. -/
def takeAll (r : Reading) : List (Flag × Option String) → Except Halt Reading
  | [] => .ok r
  | e :: es => do (← r.take e.1 e.2).takeAll es

/-- Reads the options in one argument, and the value that is awaited. -/
def takeBundle (r : Reading) (b : Bundle) (value : Option String) : Except Halt Reading := do
  match b.awaiting, value with
  | none, _ => r.takeAll b.settled
  | some f, some v => r.takeAll (b.settled ++ [(f, some v)])
  | some f, none => .error (.fault (.valueMissing f))

/-- Reads the arguments that follow.  The mark `--` in front of the template
    or right after it is dropped. -/
def readItems : List Item → Reading → Except Halt Reading
  | [], r => .ok r
  | .operand s :: .terminator :: rest, r =>
    readItems rest (if r.template.isNone then r.addOperand s else (r.addExtra s).addExtra "--")
  | .operand s :: rest, r => readItems rest (r.addOperand s)
  | .terminator :: .operand s :: rest, r =>
    readItems rest (if r.template.isNone then r.addOperand s else (r.addExtra "--").addExtra s)
  | .terminator :: rest, r => readItems rest (r.addExtra "--")
  | .unknown s :: rest, r => readItems rest (r.addExtra s)
  | .option use :: .operand v :: rest, r => do
    let b ← use.bundle.mapError .fault
    if b.awaiting.isSome then readItems rest (← r.takeBundle b (some v))
    else readItems (.operand v :: rest) (← r.takeBundle b none)
  | .option use :: rest, r => do
    let b ← use.bundle.mapError .fault
    readItems rest (← r.takeBundle b none)

/-- The arguments, once all have been read. -/
def finish (r : Reading) : Except Halt Arguments :=
  match r.template with
  | none => .error (.fault .templateMissing)
  | some template =>
    if r.extras.isEmpty then
      .ok { template
            context := r.value? .context
            output := r.value? .output
            config := r.value? .config
            indent := r.value? .indent
            guard := r.value? .guard
            autoGuard := r.has .autoGuard
            verbose := r.has .verbose }
    else .error (.fault (.unrecognized r.extras))

end Reading

/-- Reads a command line. -/
def Arguments.ofList (arguments : List String) : Except Halt Arguments := do
  let all ← (items arguments).mapError .fault
  (← Reading.readItems all Reading.start).finish

/-- The words for a fault. -/
def UsageFault.message : UsageFault → String
  | .templateMissing => "the following arguments are required: TEMPLATE"
  | .unrecognized arguments => "unrecognized arguments: " ++ String.intercalate " " arguments
  | .valueMissing f => aboutFlag f "expected one argument"
  | .valueIgnored f value => aboutFlag f ("ignored explicit argument " ++ Text.quote value)
  | .conflict f earlier => aboutFlag f ("not allowed with argument " ++ earlier.title)
  | .ambiguous argument names =>
    "ambiguous option: " ++ argument ++ " could match " ++ String.intercalate ", " names

end CxxWriter.CommandLine
