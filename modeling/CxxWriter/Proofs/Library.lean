/-
  What is relied on of a template library.

  * `LooksUp l`: looking up gives a template that is kept and up to date, or else the
    one that is read now, and keeps no others than these;
  * `FindsFiles l`: the text of a template file is that of the file at the path of the
    name, and hangs on nothing else;
  * `looksUp_library`, `findsFiles_library`: the library of the program is of this kind.
-/
import CxxWriter.Template.Standard

namespace CxxWriter

/-- A kept template without what renderings have left in it. -/
def KeptTemplate.asRead (k : KeptTemplate) : KeptTemplate := { k with state := .null }

theorem KeptTemplate.asRead_of_null {k : KeptTemplate} (h : k.state = .null) : k.asRead = k := by
  rw [KeptTemplate.asRead, ← h]

namespace TemplateLibrary

/-- Does a library look templates up, and keep them as long as they are up to date? -/
structure LooksUp (l : TemplateLibrary) : Prop where
  found (files : Files) (e : Engine) (name : String) :
    (∃ k ∈ e.kept, k.name = name ∧ e.isCurrent l files k = true ∧
      (l.lookUp files e name).outcome = .ok k) ∨
    (l.lookUp files e name).outcome = e.load l files name
  kept (files : Files) (e : Engine) (name : String) : ∀ k ∈ (l.lookUp files e name).kept,
    k ∈ e.kept ∨ e.load l files name = .ok k

/-- Does a library find template files by the parts of their names? -/
structure FindsFiles (l : TemplateLibrary) : Prop where
  /-- There is no text exactly if there is no file. -/
  missing_iff (files : Files) (d : Path) (name : String) :
    l.fileText files d name = .error (.notFound name) ↔ Template.fileBytes? files d name = none
  /-- The text is told by the bytes of the file. -/
  same {files g : Files} {d : Path} {name : String}
    (h : Template.fileBytes? g d name = Template.fileBytes? files d name) :
    l.fileText g d name = l.fileText files d name

end TemplateLibrary

namespace Template

/-! ## Paths of template files -/

/-- The parts of a name only go down. -/
theorem nameParts?_up {name : String} {parts : List String} (h : nameParts? name = some parts) :
    ".." ∉ parts := by
  unfold nameParts? at h
  dsimp only at h
  split at h
  · cases h
  · next hup =>
    cases h
    rw [List.contains_iff_mem] at hup
    exact fun hmem => hup (List.mem_filter.1 hmem).1

theorem filePath?_eq_some {d p : Path} {name : String} : filePath? d name = some p ↔
    ∃ parts, nameParts? name = some parts ∧ d.append parts = p :=
  Option.map_eq_some_iff

theorem fileBytes?_eq_some_iff {files : Files} {d : Path} {name : String} {bytes : ByteArray} :
    fileBytes? files d name = some bytes ↔
      ∃ parts, nameParts? name = some parts ∧ files.read (d.append parts) = .ok bytes := by
  rw [fileBytes?, filePath?]
  cases nameParts? name with
  | none => simp
  | some parts =>
    dsimp only [Option.map_some, bind, Option.bind]
    cases h : files.read (d.append parts) <;> simp [h]

/-! ## The library of the program -/

theorem looksUp_library : library.LooksUp where
  found files e name := by
    show (∃ k ∈ e.kept, k.name = name ∧ e.isCurrent reading files k = true ∧
      (lookUp files e name).outcome = .ok k) ∨ (lookUp files e name).outcome = e.load reading files name
    unfold lookUp
    split
    · next k hk =>
      have hfound := List.find?_some hk
      obtain ⟨hname, hcurrent⟩ := Bool.and_eq_true_iff.1 hfound
      exact .inl ⟨k, List.mem_of_find?_eq_some hk, beq_iff_eq.1 hname, hcurrent, rfl⟩
    · refine .inr ?_
      dsimp only
      split
      · next h => exact h.symm
      · next h => exact h.symm
  kept files e name := by
    show ∀ k ∈ (lookUp files e name).kept, k ∈ e.kept ∨ e.load reading files name = .ok k
    unfold lookUp
    split
    · exact fun k hk => .inl hk
    · dsimp only
      split
      · next k hload =>
        intro k' hk'
        rcases List.mem_cons.1 hk' with rfl | hk'
        · exact .inr hload
        · exact .inl (List.mem_filter.1 hk').1
      · exact fun k hk => .inl hk

theorem findsFiles_library : library.FindsFiles where
  missing_iff files d name := by
    show fileText files d name = _ ↔ _
    unfold fileText
    cases fileBytes? files d name with
    | none => simp
    | some bytes =>
      dsimp only
      cases readableText? bytes <;> simp
  same h := by
    show fileText _ _ _ = fileText _ _ _
    rw [fileText, fileText, h]

end Template

end CxxWriter
