/-
  Template libraries.

  What a text means as a template, where template files are found and which
  templates are held in store is up to a `TemplateLibrary`.  It is given here as
  a collection of functions, of which an `Engine` makes use:

  * what a library does is a function of what it is told.  A library that
    renders at random is none;
  * rendering is an `Inquiry`: on the way to its result it may look templates
    up, and what it does next hangs on the answers;
  * rendering may leave a state in the templates that it has looked up, which
    is handed to later renderings as long as the templates are kept.
-/
import CxxWriter.Files.Basic
import CxxWriter.Template.Failure

namespace CxxWriter

/-- Names with values; the first of a name counts. -/
abbrev Template.Bindings := List (String × Value)

namespace Template.Bindings

def get? (b : Bindings) (name : String) : Option Value := (b.find? (·.1 == name)).map (·.2)

end Template.Bindings

open Template (Failure Bindings)

/-! ## Templates -/

/-- Where the text of a template comes from. -/
inductive TemplatePlace where
  /-- It has been added. -/
  | added
  /-- It is a file below the directory. -/
  | file
deriving DecidableEq, Repr

/-- A template that can be rendered. -/
structure LoadedTemplate where
  /-- The name, unless the template is just a text. -/
  name : Option String
  source : String
  /-- What earlier renderings have left in it. -/
  state : Value

/-- A template that has been looked up. -/
structure KeptTemplate where
  name : String
  place : TemplatePlace
  /-- The text that it was read from. -/
  source : String
  /-- What renderings have left in it; `null` if that is nothing. -/
  state : Value

/-- A kept template as it is rendered. -/
def KeptTemplate.loaded (k : KeptTemplate) : LoadedTemplate := ⟨some k.name, k.source, k.state⟩

/-- A collection of templates. -/
structure Engine where
  /-- The directory of template files, if it was there at the start. -/
  directory : Option Path
  /-- The added templates and their texts. -/
  added : List (String × String)
  /-- The templates that have been looked up and are held in store. -/
  kept : List KeptTemplate

/-! ## Rendering -/

/-- A computation that looks templates up on the way to its result. -/
inductive Inquiry (α : Type) where
  | done (result : α)
  /-- Looks up the template of a name and goes on with what was found. -/
  | lookUp (name : String) (next : Except Failure LoadedTemplate → Inquiry α)

/-- One inquiry after another. -/
def Inquiry.bind {α β : Type} : Inquiry α → (α → Inquiry β) → Inquiry β
  | .done a, f => f a
  | .lookUp name next, f => .lookUp name fun found => (next found).bind f

instance : Monad Inquiry where
  pure := .done
  bind := Inquiry.bind

/-- What rendering a template comes to. -/
structure Rendered where
  outcome : Except Failure String
  /-- What it leaves in templates that it has looked up, by their names. -/
  left : List (String × Value)

/-- What looking a template up comes to. -/
structure LookedUp where
  outcome : Except Failure KeptTemplate
  /-- The values on record that are not fragments. -/
  rejected : List Value
  /-- The templates that are kept afterwards. -/
  kept : List KeptTemplate

/-- What is known of templates. -/
structure TemplateLibrary where
  /-- The text of the template of a name among the files below a directory. -/
  fileText : Files → Path → String → Except Failure String
  /-- Reads a text as a template.  Gives the failure if it is none, and the
      values on record that are not fragments. -/
  read : Option String → String → Option Failure × List Value
  /-- The names of all templates of an engine. -/
  names : Files → Engine → List String
  /-- Looks up the template of a name. -/
  lookUp : Files → Engine → String → LookedUp
  /-- Renders a template with variables, told whether there are template
      files. -/
  render : Bool → LoadedTemplate → Bindings → Inquiry Rendered

/-- A library without templates. -/
def TemplateLibrary.empty : TemplateLibrary where
  fileText _ _ name := .error (.notFound name)
  read _ _ := (none, [])
  names _ _ := []
  lookUp _ e name := ⟨.error (.notFound name), [], e.kept⟩
  render _ _ _ := .done ⟨.ok "", []⟩

end CxxWriter
