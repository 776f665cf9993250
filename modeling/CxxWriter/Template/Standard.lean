/-
  The library of the program.

  Template files are found by the parts of their names, which only go down from the
  directory.  A template that has been looked up is kept, and used again as long as
  its place holds the text that it was read from.
-/
import CxxWriter.Template.Engine
import CxxWriter.Template.Render

namespace CxxWriter

open Template (Failure Bindings)

/-! ## Template files -/

namespace Template

/-- The parts of a template name; a part of two points is not allowed. -/
def nameParts? (name : String) : Option (List String) :=
  let parts := Text.splitString '/' name
  if parts.contains ".." then none else some (parts.filter fun p => !p.isEmpty && p != ".")

/-- The path of the template file of a name below a directory. -/
def filePath? (d : Path) (name : String) : Option Path := (nameParts? name).map d.append

/-- The bytes of a template file. -/
def fileBytes? (files : Files) (d : Path) (name : String) : Option ByteArray := do
  match files.read (← filePath? d name) with
  | .ok bytes => some bytes
  | .error _ => none

/-- The text of a template file. -/
def fileText (files : Files) (d : Path) (name : String) : Except Failure String :=
  match fileBytes? files d name with
  | none => .error (.notFound name)
  | some bytes =>
    match readableText? bytes with
    | some s => .ok s
    | none => .error (.value .notUtf8)

/-- The names of the template files below a directory.  A directory is listed if its
    path is not too long. -/
def fileNames (files : Files) (d : Path) : List String :=
  match files.locate d with
  | .ok dir =>
    let listed := (files.filesBelow dir).filter fun parts =>
      (d.append parts.dropLast).toString.utf8ByteSize ≤ Files.maxPath
    listed.map (String.intercalate "/")
  | _ => []

/-! ## Looking up -/

/-- A library for looking up only: files are found, and texts are read. -/
def reading : TemplateLibrary :=
  { TemplateLibrary.empty with
    fileText := fileText
    read := fun name s =>
      match read name s with
      | (.ok _, rejected) => (none, rejected)
      | (.error f, rejected) => (some f, rejected)
    names := fun files e => e.added.map (·.1) ++ e.directory.toList.flatMap (fileNames files) }

/-- Uses a template that is kept and up to date, or else reads it and keeps it. -/
def lookUp (files : Files) (e : Engine) (name : String) : LookedUp :=
  match e.kept.find? fun k => k.name == name && e.isCurrent reading files k with
  | some k => ⟨.ok k, [], e.kept⟩
  | none =>
    let rejected :=
      match e.source reading files name with
      | .ok (_, s) => (reading.read (some name) s).2
      | .error _ => []
    match e.load reading files name with
    | .ok k => ⟨.ok k, rejected, k :: e.kept.filter (·.name != name)⟩
    | .error f => ⟨.error f, rejected, e.kept⟩

/-- Renders a template, and leaves the modules of those that it imports in them. -/
def renderLoaded (hasFiles : Bool) (t : LoadedTemplate) (given : Bindings) : Inquiry Rendered :=
  match (read t.name t.source).1 with
  | .error f => .done ⟨.error f, []⟩
  | .ok template => do
    let (outcome, m) ← (renderTemplate hasFiles template given).run.run Memory.start
    return ⟨outcome, m.left⟩

/-- The library of the program. -/
def library : TemplateLibrary := { reading with lookUp := lookUp, render := renderLoaded }

end Template

end CxxWriter
