/-
  What rendering comes to.

  A `Rendition` is an outcome on the way to which templates are looked up.
  Whatever is done with values is an outcome, which looks nothing up.
-/
import CxxWriter.Template.Library
import CxxWriter.Template.Outcome

namespace CxxWriter.Template

/-- A value or a failure, with what is remembered. -/
abbrev Rendition := ExceptT Failure (StateT Memory Inquiry)

namespace Rendition

variable {α : Type}

/-- An outcome, which looks no template up. -/
def ofOutcome (o : Outcome α) : Rendition α :=
  ExceptT.mk (m := StateT Memory Inquiry) fun m => .done (o.run.run m)

instance : MonadLift Outcome Rendition := ⟨ofOutcome⟩

/-- Looks up the template of a name. -/
def lookUp (name : String) : Rendition LoadedTemplate :=
  ExceptT.mk (m := StateT Memory Inquiry) fun m => .lookUp name fun found => .done (found, m)

end Rendition

end CxxWriter.Template
