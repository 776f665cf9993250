/-
  Reading templates.
-/
import CxxWriter.Template.Preparation
import CxxWriter.Template.Reader.Statement

namespace CxxWriter.Template

/-- Reads a template and prepares it.  Also gives the values on record, whether
    that ends with a template or with a failure. -/
def read (name : Option String) (source : String) : Except Failure Template × List Value :=
  let prepared : Outcome Template := do
    match readStatements source with
    | .error f => throw f
    | .ok body => return (← (prepareTemplate name body).run ⟨false, false, none⟩).1
  let (t, m) := prepared.run.run Memory.start
  (t, m.rejected)

end CxxWriter.Template
