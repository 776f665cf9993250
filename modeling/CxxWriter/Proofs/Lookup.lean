/-
  Which templates are listed and which are found.

  Whether a template is there is asked of the list of all names; to render it, its
  name is followed part by part from the directory.

  * `IsSound f`: the places of `f` are those of a directory tree;
  * `TemplateLibrary.ListsFiles l`: the names that are listed are those that were added
    and the spelled places of the files below the directory;
  * `IsListed`, `fileBytes?_iff`: what is listed and what is found is told by the same
    condition on a place, but for the spelling of the name and the length of the path;
  * `listed_and_found`: so the two agree on the names in normal form whose paths are
    not too long, and on no other names of files.
-/
import Mathlib.Data.List.Basic
import CxxWriter.Proofs.Engine
import CxxWriter.Proofs.Entries
import CxxWriter.Proofs.Paths
import CxxWriter.Proofs.Places

namespace CxxWriter

namespace Files

/-! ## Directory trees -/

/-- Can a file or a directory have this name? -/
structure IsName (part : String) : Prop where
  filled : part ≠ ""
  notHere : part ≠ "."
  notUp : part ≠ ".."
  noSlash : '/' ∉ part.toList
  noNull : '\x00' ∉ part.toList
  short : part.utf8ByteSize ≤ maxPart

theorem isName_iff {part : String} : IsName part ↔ part ≠ "" ∧ part ≠ "." ∧ part ≠ ".." ∧
    '/' ∉ part.toList ∧ '\x00' ∉ part.toList ∧ part.utf8ByteSize ≤ maxPart :=
  ⟨fun ⟨h₁, h₂, h₃, h₄, h₅, h₆⟩ => ⟨h₁, h₂, h₃, h₄, h₅, h₆⟩,
    fun ⟨h₁, h₂, h₃, h₄, h₅, h₆⟩ => ⟨h₁, h₂, h₃, h₄, h₅, h₆⟩⟩

instance (part : String) : Decidable (IsName part) := decidable_of_iff _ isName_iff.symm

/-- Do the entries make up a directory tree, with the working directory in it? -/
structure IsSound (f : Files) : Prop where
  distinct : (f.entries.map (·.1)).Nodup
  tree : f.IsTree
  named : ∀ e ∈ f.entries, ∀ part ∈ e.1, IsName part
  hereNamed : ∀ part ∈ f.here, IsName part
  /-- No file is on the way to the working directory. -/
  onWay : ∀ e ∈ f.entries, e.1 <+: f.here → e.2 = .directory

namespace IsSound

variable {f : Files} (hf : f.IsSound)

include hf

theorem get?_of_mem {e : List String × FileEntry} (he : e ∈ f.entries) : f.get? e.1 = some e.2 := by
  by_cases hway : e.1 <+: f.here
  · rw [get?_of_above hway, hf.onWay e he hway]
  · rw [get?_of_not_above hway, find?_of_mem hf.distinct he]
    rfl

omit hf in
theorem mem_of_get? {place : List String} {e : FileEntry} (hway : ¬ place <+: f.here)
    (h : f.get? place = some e) : (place, e) ∈ f.entries := by
  rw [get?_of_not_above hway, Option.map_eq_some_iff] at h
  obtain ⟨⟨key, e'⟩, hfind, rfl⟩ := h
  have hkey := List.find?_some hfind
  rw [beq_iff_eq] at hkey
  rw [← hkey]
  exact List.mem_of_find?_eq_some hfind

theorem isName {place : List String} (h : (f.get? place).isSome) : ∀ part ∈ place, IsName part := by
  intro part hpart
  by_cases hway : place <+: f.here
  · exact hf.hereNamed part (hway.subset hpart)
  · obtain ⟨e, he⟩ := Option.isSome_iff_exists.1 h
    exact hf.named _ (mem_of_get? hway he) part hpart

/-- The files below a directory are those at places below its own. -/
theorem mem_filesBelow {dir rest : List String} :
    rest ∈ f.filesBelow dir ↔ rest ≠ [] ∧ ∃ content, f.get? (dir ++ rest) = some (.file content) := by
  unfold filesBelow
  rw [List.mem_filterMap]
  constructor
  · rintro ⟨⟨place, e⟩, he, hbelow⟩
    cases e with
    | directory => cases hbelow
    | file content =>
      have hbelow : below? dir place = some rest := hbelow
      unfold below? at hbelow
      split at hbelow
      · next hc =>
        cases hbelow
        obtain ⟨hlength, htake⟩ := hc
        have hrest : place.drop dir.length ≠ [] := by
          rw [ne_eq, List.drop_eq_nil_iff]
          omega
        have hplace : dir ++ place.drop dir.length = place := by
          rw [← htake, List.length_take, Nat.min_eq_left hlength.le, List.take_append_drop]
        rw [hplace]
        exact ⟨hrest, content, hf.get?_of_mem he⟩
      · cases hbelow
  · rintro ⟨hne, content, h⟩
    have hlength : dir.length < (dir ++ rest).length := by
      rw [List.length_append]
      have := List.length_pos_iff.2 hne
      omega
    have hway : ¬ dir ++ rest <+: f.here := not_above_of_get? (by rw [h]; nofun)
    refine ⟨(dir ++ rest, .file content), mem_of_get? hway h, ?_⟩
    show below? dir (dir ++ rest) = some rest
    rw [below?, if_pos ⟨hlength, List.take_left⟩, List.drop_left]

/-- Names can be followed down to a place that is there. -/
theorem foldlM_down {x parts : List String} (h : (f.get? (x ++ parts)).isSome) :
    parts.foldlM f.stepInto x = .ok (x ++ parts) := by
  induction parts generalizing x with
  | nil =>
    rw [List.append_nil]
    rfl
  | cons part parts ih =>
    have hname := hf.isName h part (by simp)
    have hstep : f.stepInto x part = .ok (x ++ [part]) := by
      rw [stepInto, hf.tree.directory (List.cons_ne_nil part parts) h]
      dsimp only
      rw [if_neg hname.notUp, if_neg (Nat.not_lt.2 hname.short)]
    rw [List.foldlM_cons, hstep]
    rw [List.append_cons x part parts] at h ⊢
    exact ih h

/-- What can be read below a directory. -/
theorem read_append_iff {d : Path} {dir parts : List String} (hd : f.locate d = .ok dir)
    (hparts : ".." ∉ parts) {content : ByteArray} : f.read (d.append parts) = .ok content ↔
      (d.append parts).toString.utf8ByteSize ≤ maxPath ∧
        f.get? (dir ++ parts) = some (.file content) := by
  obtain ⟨hnull, _, _⟩ := locate_eq_ok.1 hd
  constructor
  · intro h
    obtain ⟨q, hq, hcontent⟩ := place_of_read h
    obtain ⟨_, hsize, hdown⟩ := locate_eq_ok.1 hq
    rw [foldlM_append_of_locate hd] at hdown
    rw [← place_of_foldlM hparts hdown]
    exact ⟨hsize, hcontent⟩
  · rintro ⟨hsize, hcontent⟩
    have hsome : (f.get? (dir ++ parts)).isSome := by rw [hcontent]; rfl
    -- the names of a file that is there have no null in them, and can be followed
    have hlocate : f.locate (d.append parts) = .ok (dir ++ parts) := by
      refine locate_eq_ok.2 ⟨fun hmem => ?_, hsize, ?_⟩
      · rw [Path.mem_toString (by decide) (by decide)] at hmem hnull
        obtain hmem | ⟨part, hpart, hmem⟩ := hmem
        · exact hnull (.inl hmem)
        · rcases List.mem_append.1 hpart with hpart | hpart
          · exact hnull (.inr ⟨part, hpart, hmem⟩)
          · exact (hf.isName hsome part (List.mem_append_right _ hpart)).noNull hmem
      · rw [foldlM_append_of_locate hd]
        exact hf.foldlM_down hsome
    rw [Files.read, Files.lookup, hlocate]
    dsimp only
    rw [hcontent]

end IsSound

/-- A file in a directory. -/
theorem isSound_pair {d name : String} (hd : IsName d) (hname : IsName name) (content : ByteArray) :
    IsSound ⟨[], [([d], .directory), ([d, name], .file content)]⟩ where
  distinct := by simp
  tree := by
    refine isTree_of_entries fun e he => ?_
    simp only [List.mem_cons, List.not_mem_nil, or_false] at he
    rcases he with rfl | rfl
    · rfl
    · simp [get?]
  named := by
    intro e he part hpart
    simp only [List.mem_cons, List.not_mem_nil, or_false] at he
    rcases he with rfl | rfl
    · rwa [List.mem_singleton.1 hpart]
    · rcases List.mem_pair.1 hpart with rfl | rfl
      · exact hd
      · exact hname
  hereNamed := nofun
  onWay := by
    intro e he hway
    simp only [List.mem_cons, List.not_mem_nil, or_false] at he
    rcases he with rfl | rfl
    · rfl
    · cases List.prefix_nil.1 hway

end Files

/-! ## Names -/

namespace Template

/-- Is the name made up of its parts, joined by slashes? -/
def IsNormal (name : String) : Prop := (nameParts? name).map "/".intercalate = some name

instance (name : String) : Decidable (IsNormal name) := inferInstanceAs (Decidable (_ = _))

theorem nameParts?_intercalate {parts : List String} (hne : parts ≠ [])
    (h : ∀ part ∈ parts, Files.IsName part) : nameParts? ("/".intercalate parts) = some parts := by
  have hup : parts.contains ".." = false := by
    rw [← Bool.not_eq_true, List.contains_iff_mem]
    exact fun hmem => (h _ hmem).notUp rfl
  unfold nameParts?
  dsimp only
  rw [Text.splitString_intercalate hne fun part hpart => (h part hpart).noSlash, hup,
    if_neg Bool.false_ne_true, List.filter_eq_self.2]
  intro part hpart
  have hname := h part hpart
  simp [hname.filled, hname.notHere]

/-! ## Files of templates -/

/-- Is a file below a directory spelled by a name, its parts joined by slashes?  The path
    of the directory that it is in must not be too long. -/
def IsListed (files : Files) (d : Path) (name : String) : Prop :=
  ∃ dir parts content, files.locate d = .ok dir ∧ parts ≠ [] ∧
    files.get? (dir ++ parts) = some (.file content) ∧
    (d.append parts).parent.toString.utf8ByteSize ≤ Files.maxPath ∧ "/".intercalate parts = name

/-- Is the path of the template file of a name short enough to be followed? -/
def IsShort (d : Path) (name : String) : Prop :=
  ∀ p, filePath? d name = some p → p.toString.utf8ByteSize ≤ Files.maxPath

section

variable {files : Files} {d : Path} {name : String}

/-- The names that the library of the program lists files by. -/
theorem mem_fileNames (hf : files.IsSound) : name ∈ fileNames files d ↔ IsListed files d name := by
  have hparent {parts : List String} (hne : parts ≠ []) :
      (d.append parts).parent = d.append parts.dropLast := by
    rw [Path.append, Path.parent, List.dropLast_append_of_ne_nil hne]
    rfl
  unfold fileNames IsListed
  cases hd : files.locate d with
  | error e =>
    constructor
    · intro h
      cases h
    · rintro ⟨_, _, _, ⟨⟩, _⟩
  | ok dir =>
    dsimp only
    rw [List.mem_map]
    constructor
    · rintro ⟨parts, hlisted, hname⟩
      obtain ⟨hbelow, hsize⟩ := List.mem_filter.1 hlisted
      obtain ⟨hne, content, hcontent⟩ := hf.mem_filesBelow.1 hbelow
      exact ⟨dir, parts, content, rfl, hne, hcontent,
        by rw [hparent hne]; exact of_decide_eq_true hsize, hname⟩
    · rintro ⟨_, parts, content, ⟨⟩, hne, hcontent, hsize, hname⟩
      rw [hparent hne] at hsize
      exact ⟨parts, List.mem_filter.2 ⟨hf.mem_filesBelow.2 ⟨hne, content, hcontent⟩,
        decide_eq_true hsize⟩, hname⟩

/-- The files that are found by names. -/
theorem fileBytes?_iff (hf : files.IsSound) {dir : List String} (hd : files.locate d = .ok dir)
    {bytes : ByteArray} : fileBytes? files d name = some bytes ↔
      ∃ parts, nameParts? name = some parts ∧ files.get? (dir ++ parts) = some (.file bytes) ∧
        (d.append parts).toString.utf8ByteSize ≤ Files.maxPath := by
  rw [fileBytes?_eq_some_iff]
  refine exists_congr fun parts => and_congr_right fun hparts => ?_
  rw [hf.read_append_iff hd (nameParts?_up hparts), and_comm]

/-- The name that a file is listed by is read as the parts of its place. -/
theorem nameParts?_listed (hf : files.IsSound) {dir parts : List String} {content : ByteArray}
    (hne : parts ≠ []) (hcontent : files.get? (dir ++ parts) = some (.file content)) :
    nameParts? ("/".intercalate parts) = some parts :=
  nameParts?_intercalate hne fun part hpart =>
    hf.isName (by rw [hcontent]; rfl) part (List.mem_append_right _ hpart)

/-- The file of a template is listed by the name in normal form only. -/
theorem listed_iff_normal (hf : files.IsSound) (hdir : files.isDirectory d = .ok true)
    (h : (fileBytes? files d name).isSome) : IsListed files d name ↔ IsNormal name := by
  obtain ⟨dir, hd, hentry⟩ := Files.isDirectory_iff.1 hdir
  obtain ⟨bytes, hbytes⟩ := Option.isSome_iff_exists.1 h
  obtain ⟨parts, hparts, hcontent, hsize⟩ := (fileBytes?_iff hf hd).1 hbytes
  rw [IsNormal, hparts]
  constructor
  · rintro ⟨_, listed, content, _, hne, hlisted, _, rfl⟩
    rw [nameParts?_listed hf hne hlisted] at hparts
    rw [Option.some.inj hparts]
    rfl
  · intro hname
    have hparent := Nat.le_trans (Path.size_parent_le (d.append parts))
      (Nat.max_le.2 ⟨by decide, hsize⟩)
    have hne : parts ≠ [] := by
      rintro rfl
      rw [List.append_nil, hentry] at hcontent
      cases hcontent
    exact ⟨dir, parts, bytes, hd, hne, hcontent, hparent, Option.some.inj hname⟩

/-- A listed template is found exactly if its path is not too long. -/
theorem found_iff_short (hf : files.IsSound) (h : IsListed files d name) :
    (fileBytes? files d name).isSome ↔ IsShort d name := by
  obtain ⟨dir, parts, content, hd, hne, hcontent, _, rfl⟩ := h
  have hparts := nameParts?_listed hf hne hcontent
  rw [Option.isSome_iff_exists]
  constructor
  · rintro ⟨bytes, hbytes⟩ p hp
    obtain ⟨parts', hparts', _, hsize⟩ := (fileBytes?_iff hf hd).1 hbytes
    obtain ⟨parts'', hparts'', rfl⟩ := filePath?_eq_some.1 hp
    rwa [Option.some.inj (hparts''.symm.trans hparts')]
  · intro hshort
    exact ⟨content, (fileBytes?_iff hf hd).2 ⟨parts, hparts, hcontent,
      hshort _ (filePath?_eq_some.2 ⟨parts, hparts, rfl⟩)⟩⟩

end

end Template

/-! ## Libraries that list files -/

/-- Does a library list the templates that were added, and the files below the directory by
    the spelling of their places? -/
structure TemplateLibrary.ListsFiles (l : TemplateLibrary) : Prop where
  mem_names_iff {files : Files} (hf : files.IsSound) (e : Engine) (name : String) :
    name ∈ l.names files e ↔ (e.addedText? name).isSome ∨
      ∃ d, e.directory = some d ∧ Template.IsListed files d name

theorem Template.listsFiles_library : library.ListsFiles where
  mem_names_iff {files} hf e name := by
    show name ∈ e.added.map (·.1) ++ e.directory.toList.flatMap (fileNames files) ↔ _
    rw [List.mem_append]
    refine or_congr ?_ ?_
    · rw [Engine.addedText?, Option.isSome_map, List.find?_isSome, List.mem_map]
      simp
    · simp only [List.mem_flatMap, Option.mem_toList, mem_fileNames hf]

namespace Engine

open Template (Bindings IsNormal)

section

variable {l : TemplateLibrary} {files : Files} {e : Engine} {name : String}

/-- Is the path of the template file of a name short enough to be followed? -/
def IsShort (e : Engine) (name : String) : Prop := ∀ d, e.directory = some d → Template.IsShort d name

/-- Is there a text for the template of a name? -/
def Finds (e : Engine) (l : TemplateLibrary) (files : Files) (name : String) : Prop :=
  e.source l files name ≠ .error (.notFound name)

theorem finds_iff (hl : l.FindsFiles) : e.Finds l files name ↔ (e.addedText? name).isSome ∨
    ∃ d, e.directory = some d ∧ (Template.fileBytes? files d name).isSome := by
  unfold Finds source
  cases e.addedText? name with
  | some s => simp
  | none =>
    cases hd : e.directory with
    | none => simp
    | some d =>
      have hmap : (l.fileText files d name).map (TemplatePlace.file, ·) = .error (.notFound name) ↔
          l.fileText files d name = .error (.notFound name) := by
        cases l.fileText files d name <;> simp [Except.map]
      simp [hmap, hl.missing_iff, Option.isSome_iff_ne_none]

/-- Rendering by a name fails for want of the template if there is none. -/
theorem renderNamed_missing (h : (l.lookUp files e name).outcome = .error (.notFound name))
    (given : Bindings) : (e.renderNamed l files name given).outcome = .error (.notFound name) := by
  rw [renderNamed, answer, h]
  rfl

end

/-! ## Listing and looking up -/

/-- **A template of a file is listed by one name only, but found by others too.**
    Whatever an engine has been used for: a template that is found is listed exactly
    if it was added or its name is in normal form, and a listed one is found exactly
    if it was added or the path of its file is not too long.  What is found is read,
    and for want of it rendering fails. -/
theorem listed_and_found {l : TemplateLibrary} (hlooks : l.LooksUp) (hfinds : l.FindsFiles)
    (hlists : l.ListsFiles) {files : Files} (hf : files.IsSound) {directory : Value} {e₀ : Engine}
    (h : (start files directory).outcome.1 = .ok e₀) (uses : List Use) (name : String) :
    let e := e₀.afterUses l files uses
    let isAdded := ((latest uses).lookup name).isSome
    (e.Finds l files name → (e.contains l files name = true ↔ isAdded ∨ IsNormal name)) ∧
    (e.contains l files name = true → (e.Finds l files name ↔ isAdded ∨ e.IsShort name)) ∧
    (l.lookUp files e name).outcome.map KeptTemplate.asRead = (match e.source l files name with
      | .ok (place, s) =>
        match (l.read (some name) s).1 with
        | some f => .error f
        | none => .ok ⟨name, place, s, .null⟩
      | .error f => .error f) ∧
    (¬ e.Finds l files name → ∀ given,
      (e.renderNamed l files name given).outcome = .error (.notFound name)) := by
  intro e isAdded
  obtain ⟨hkept, hadded⟩ := start_new h
  obtain ⟨hd, hc, ht⟩ := afterUses_eq hlooks uses e₀ (.of_kept_nil hkept)
  have hisAdded : (e.addedText? name).isSome = isAdded := by
    rw [ht, addedText?_of_new hadded, Option.or_none]
  have hdirectory : ∀ d, e.directory = some d → files.isDirectory d = .ok true := by
    intro d hdir
    rw [hd] at hdir
    rcases start_cases h with rfl | ⟨s, _, hs, rfl⟩
    · cases hdir
    · cases hdir
      exact hs
  have hcontains : e.contains l files name = true ↔ isAdded ∨
      ∃ d, e.directory = some d ∧ Template.IsListed files d name := by
    rw [contains, List.contains_iff_mem, hlists.mem_names_iff hf, hisAdded]
  have hfinds' : e.Finds l files name ↔ isAdded ∨
      ∃ d, e.directory = some d ∧ (Template.fileBytes? files d name).isSome := by
    rw [finds_iff hfinds, hisAdded]
  have hload := lookUp_asRead hlooks hc name
  refine ⟨fun hfound => ?_, fun hlisted => ?_, ?_, fun hmissing given => ?_⟩
  · rw [hcontains]
    rcases hfinds'.1 hfound with hb | ⟨d, hdir, hbytes⟩
    · exact iff_of_true (.inl hb) (.inl hb)
    · rw [← Template.listed_iff_normal hf (hdirectory d hdir) hbytes]
      simp [hdir]
  · rw [hfinds']
    rcases hcontains.1 hlisted with hb | ⟨d, hdir, hlisted⟩
    · exact iff_of_true (.inl hb) (.inl hb)
    · simp [IsShort, hdir, Template.found_iff_short hf hlisted]
  · rw [hload, load]
    cases e.source l files name <;> rfl
  · rw [Finds, not_not] at hmissing
    rw [load, hmissing] at hload
    refine renderNamed_missing ?_ given
    cases hfound : (l.lookUp files e name).outcome with
    | error f => rwa [hfound] at hload
    | ok k =>
      rw [hfound] at hload
      cases hload

/-- A template below a directory, and one that was added with a name that no file is
    listed by. -/
theorem listed_and_found_added :
    let l := Template.library
    let files : Files := ⟨[], [(["t"], .directory), (["t", "a.j2"], .file (bytesOfText "x"))]⟩
    let e : Engine := ⟨some ⟨"", ["t"]⟩, [], []⟩
    let uses : List Use := [.renderNamed "a.j2" [], .add "./b.j2" "y"]
    let used := e.afterUses l files uses
    files.IsSound ∧ (start files (.text "t")).outcome.1 = .ok e ∧
      used.contains l files "a.j2" = true ∧ used.Finds l files "a.j2" ∧
      used.contains l files "./b.j2" = true ∧ used.Finds l files "./b.j2" ∧
      (used.renderNamed l files "b.j2" []).outcome = .error (.notFound "b.j2") := by
  intro l files e uses used
  have hf : files.IsSound := Files.isSound_pair (by decide) (by decide) _
  have h : (start files (.text "t")).outcome.1 = .ok e := by rfl
  have hcontains : used.contains l files "a.j2" = true ∧ used.contains l files "./b.j2" = true ∧
      used.contains l files "b.j2" = false := by decide +kernel
  have hshort : used.IsShort "a.j2" := by
    rintro _ ⟨⟩ p hp
    have hpath : Template.filePath? ⟨"", ["t"]⟩ "a.j2" = some ⟨"", ["t", "a.j2"]⟩ := by decide +kernel
    rw [hpath] at hp
    cases hp
    decide +kernel
  have hboth (name : String) := listed_and_found Template.looksUp_library Template.findsFiles_library
    Template.listsFiles_library hf h uses name
  refine ⟨hf, h, hcontains.1, ?_, hcontains.2.1, ?_, ?_⟩
  · exact ((hboth "a.j2").2.1 hcontains.1).2 (.inr hshort)
  · exact ((hboth "./b.j2").2.1 hcontains.2.1).2 (.inl rfl)
  · refine (hboth "b.j2").2.2.2 (fun hfound => ?_) []
    have hlisted := ((hboth "b.j2").1 hfound).2 (.inr (by decide +kernel))
    exact absurd (hlisted.symm.trans hcontains.2.2) (by decide)

/-- A template is found by names that it is not listed by. -/
theorem found_not_listed :
    let l := Template.library
    let files : Files := ⟨[], [(["t"], .directory), (["t", "a.j2"], .file (bytesOfText "x"))]⟩
    let e : Engine := ⟨some ⟨"", ["t"]⟩, [], []⟩
    files.IsSound ∧ (start files (.text "t")).outcome.1 = .ok e ∧
      e.contains l files "./a.j2" = false ∧ e.Finds l files "./a.j2" ∧
      (e.renderNamed l files "./a.j2" []).outcome = .ok "x" := by
  intro l files e
  have hf : files.IsSound := Files.isSound_pair (by decide) (by decide) _
  have hbytes : (Template.fileBytes? files ⟨"", ["t"]⟩ "./a.j2").isSome = true := by decide +kernel
  refine ⟨hf, by rfl, by decide +kernel, ?_, by decide +kernel⟩
  exact (finds_iff Template.findsFiles_library).2 (.inr ⟨_, rfl, hbytes⟩)

end Engine

end CxxWriter
