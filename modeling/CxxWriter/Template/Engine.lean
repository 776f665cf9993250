/-
  A collection of named templates.

  Templates have been added to the engine, or are files below its directory;
  an added template hides a file of its name.  Templates that have been looked
  up may be kept by the library, which uses them again as long as the place that
  they come from holds the same text.  A kept file would go on hiding a template
  that is added later, so none is kept once a template is added.

  * `add` adds a template, `contains` tells whether a template of a name is
    listed;
  * `load` is the template of a name as it is read, `isCurrent` tells whether one that
    was read before is still up to date;
  * `renderNamed` and `renderText` render a template.
-/
import CxxWriter.Template.Library

namespace CxxWriter.Engine

open Template (Failure Bindings)

/-- An engine with a directory, which has to exist to be used. -/
def create (files : Files) (directory : Option Path) : Except FileError Engine := do
  match directory with
  | none => return ⟨none, [], []⟩
  | some d => return ⟨if ← files.isDirectory d then some d else none, [], []⟩

/-- Adds a template, in place of one of the same name. -/
def add (e : Engine) (name source : String) : Engine :=
  { e with added := (name, source) :: e.added.filter (·.1 != name), kept := [] }

/-- The text of an added template. -/
def addedText? (e : Engine) (name : String) : Option String :=
  (e.added.find? (·.1 == name)).map (·.2)

/-- Sets the states of kept templates. -/
def leave (e : Engine) (left : List (String × Value)) : Engine :=
  { e with kept := e.kept.map fun k => { k with state := (left.lookup k.name).getD k.state } }

/-! ## Templates as they are read -/

section

variable (l : TemplateLibrary) (files : Files) (e : Engine) (name : String)

/-- The text of a template, and where it comes from. -/
def source : Except Failure (TemplatePlace × String) :=
  match e.addedText? name, e.directory with
  | some s, _ => .ok (.added, s)
  | none, some d => (l.fileText files d name).map (.file, ·)
  | none, none => .error (.notFound name)

/-- The template of a name as it is read, with nothing left in it. -/
def load : Except Failure KeptTemplate := do
  let (place, s) ← e.source l files name
  match (l.read (some name) s).1 with
  | some f => throw f
  | none => return ⟨name, place, s, .null⟩

/-- Does the place that a template was read from still hold its text? -/
def isCurrent (k : KeptTemplate) : Bool :=
  match k.place, e.directory with
  | .added, _ => e.addedText? k.name == some k.source
  | .file, some d =>
    match l.fileText files d k.name with
    | .ok s => s == k.source
    | .error _ => false
  | .file, none => false

end

/-! ## Rendering -/

/-- What rendering comes to. -/
structure Rendering where
  outcome : Except Failure String
  /-- The values on record that are not fragments. -/
  rejected : List Value
  /-- The names of the templates that have been looked up, in order. -/
  lookedUp : List String
  /-- The engine with the templates that are kept. -/
  engine : Engine

section

variable (l : TemplateLibrary) (files : Files)

/-- Is a template of the name listed? -/
def contains (e : Engine) (name : String) : Bool := (l.names files e).contains name

/-- Looks up what an inquiry asks for. -/
def answer : Inquiry Rendered → Engine → Rendering
  | .done r, e => ⟨r.outcome, [], [], e.leave r.left⟩
  | .lookUp name next, e =>
    let found := l.lookUp files e name
    let r := answer (next (found.outcome.map KeptTemplate.loaded)) { e with kept := found.kept }
    { r with rejected := found.rejected ++ r.rejected, lookedUp := name :: r.lookedUp }

/-- Renders a template, unless a variable cannot be given by its name. -/
def inquire (hasFiles : Bool) (t : LoadedTemplate) (given : Bindings) : Inquiry Rendered :=
  if given.any (·.1 == "self") then .done ⟨.error (.value .wrongKind), []⟩
  else l.render hasFiles t given

/-- Goes on with a template that has been found. -/
def rendering (render : LoadedTemplate → Inquiry Rendered) :
    Except Failure LoadedTemplate → Inquiry Rendered
  | .ok t => render t
  | .error f => .done ⟨.error f, []⟩

/-- Renders the template of a name. -/
def renderNamed (e : Engine) (name : String) (given : Bindings) : Rendering :=
  e.answer l files (.lookUp name (rendering fun t => inquire l e.directory.isSome t given))

/-- Renders a text as a template. -/
def renderText (e : Engine) (source : String) (given : Bindings) : Rendering :=
  let (failure, rejected) := l.read none source
  match failure with
  | some f => ⟨.error f, rejected, [], e⟩
  | none =>
    let r := e.answer l files (inquire l e.directory.isSome ⟨none, source, .null⟩ given)
    { r with rejected := rejected ++ r.rejected }

end

end CxxWriter.Engine
