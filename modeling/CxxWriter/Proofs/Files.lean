/-
  What has been written to a file can be read from it.

  * `locate_of_directories`: a path leads to the same place as long as all
    directories stay, the working directory among them;
  * `isDirectory_iff`, `isWritable_iff`: where a path leads that leads to a directory,
    or at which files can be written;
  * `read_write`: a file that has been written holds what was written.
-/
import CxxWriter.Proofs.Paths

namespace CxxWriter.Files

/-! ## Entries -/

theorem find?_replace_self {entries : List (List String × FileEntry)} {parts : List String}
    (e : FileEntry) (h : entries.any (·.1 == parts) = true) :
    (entries.map fun x => if x.1 == parts then (parts, e) else x).find? (·.1 == parts) =
      some (parts, e) := by
  induction entries with
  | nil => cases h
  | cons x xs ih =>
    rw [List.map_cons, List.find?_cons]
    cases hx : x.1 == parts with
    | true => simp
    | false =>
      rw [if_neg Bool.false_ne_true, hx]
      refine ih ?_
      rw [List.any_cons, hx] at h
      exact h

theorem find?_replace_of_ne {parts q : List String} (h : parts ≠ q) (e : FileEntry)
    (entries : List (List String × FileEntry)) :
    (entries.map fun x => if x.1 == parts then (parts, e) else x).find? (·.1 == q) =
      entries.find? (·.1 == q) := by
  induction entries with
  | nil => rfl
  | cons x xs ih =>
    rw [List.map_cons, List.find?_cons, List.find?_cons, ih]
    cases hx : x.1 == parts with
    | true =>
      have hq : (parts == q) = false := by simpa using h
      rw [if_pos rfl, beq_iff_eq.1 hx, hq]
    | false => rfl

theorem get?_of_above {f : Files} {place : List String} (h : place <+: f.here) :
    f.get? place = some .directory := by
  rw [get?, if_pos (List.isPrefixOf_iff_prefix.2 h)]

theorem get?_of_not_above {f : Files} {place : List String} (h : ¬ place <+: f.here) :
    f.get? place = (f.entries.find? (·.1 == place)).map (·.2) := by
  rw [get?, if_neg (by rwa [List.isPrefixOf_iff_prefix])]

/-- Where no directory stands is not on the way to the working directory. -/
theorem not_above_of_get? {f : Files} {place : List String} (h : f.get? place ≠ some .directory) :
    ¬ place <+: f.here :=
  fun hprefix => h (get?_of_above hprefix)

/-- A path starts from a directory. -/
theorem get?_origin (f : Files) (p : Path) : f.get? (f.origin p) = some .directory := by
  refine get?_of_above ?_
  unfold origin
  split
  · exact List.prefix_rfl
  · exact List.nil_prefix

@[simp]
theorem set_here (f : Files) (place : List String) (e : FileEntry) :
    (f.set place e).here = f.here := by
  unfold set
  split <;> rfl

/-- What stands at a place after an entry has been put somewhere. -/
theorem get?_set (f : Files) {place : List String} (e : FileEntry) (hplace : ¬ place <+: f.here)
    (q : List String) : (f.set place e).get? q = if place = q then some e else f.get? q := by
  have hfind : ((f.set place e).entries.find? (·.1 == q)).map (·.2) =
      if place = q then some e else (f.entries.find? (·.1 == q)).map (·.2) := by
    unfold set
    split
    · next ha =>
      split
      · next h => rw [← h, find?_replace_self e ha]; rfl
      · next h => rw [find?_replace_of_ne h]
    · next ha =>
      have hn : f.entries.find? (·.1 == place) = none := by
        rw [List.find?_eq_none]
        intro x hx hx'
        exact ha (List.any_eq_true.2 ⟨x, hx, hx'⟩)
      rw [List.find?_append]
      split
      · next h => rw [← h, hn]; simp
      · next h => simp [h]
  by_cases hq : q <+: f.here
  · rw [get?_of_above (by rwa [set_here]), get?_of_above hq, if_neg (by rintro rfl; exact hplace hq)]
  · rw [get?_of_not_above (by rwa [set_here]), hfind, get?_of_not_above hq]

/-! ## Paths -/

/-- Has `g` the working directory of `f`, and all its directories? -/
structure HasDirectories (f g : Files) : Prop where
  here : g.here = f.here
  directory : ∀ q, f.get? q = some .directory → g.get? q = some .directory

/-- Nothing happens to directories where a file is put. -/
theorem hasDirectories_set (f : Files) {place : List String} (hfree : f.get? place ≠ some .directory)
    (content : ByteArray) : HasDirectories f (f.set place (.file content)) where
  here := set_here f place _
  directory q hq := by
    rw [get?_set f _ (not_above_of_get? hfree), if_neg (by rintro rfl; exact hfree hq), hq]

section

variable {f g : Files} (h : HasDirectories f g)

include h

/-- A directory that a step goes into has to be there only. -/
theorem stepInto_of_directories {here place : List String} {part : String}
    (hs : f.stepInto here part = .ok place) : g.stepInto here part = .ok place := by
  unfold stepInto at hs ⊢
  cases hd : f.get? here with
  | none => rw [hd] at hs; cases hs
  | some d =>
    rw [hd] at hs
    cases d with
    | file => cases hs
    | directory =>
      rw [h.directory here hd]
      exact hs

theorem foldlM_of_directories {parts here place : List String}
    (hs : parts.foldlM f.stepInto here = .ok place) : parts.foldlM g.stepInto here = .ok place := by
  induction parts generalizing here with
  | nil => exact hs
  | cons part parts ih =>
    rw [List.foldlM_cons] at hs ⊢
    cases hstep : f.stepInto here part with
    | error e => rw [hstep] at hs; cases hs
    | ok next =>
      rw [hstep] at hs
      rw [stepInto_of_directories h hstep]
      exact ih hs

theorem origin_of_directories (p : Path) : g.origin p = f.origin p := by
  rw [origin, origin, h.here]

theorem locate_of_directories {p : Path} {place : List String} (hl : f.locate p = .ok place) :
    g.locate p = .ok place := by
  obtain ⟨hnull, hshort, hfold⟩ := locate_eq_ok.1 hl
  refine locate_eq_ok.2 ⟨hnull, hshort, ?_⟩
  rw [origin_of_directories h]
  exact foldlM_of_directories h hfold

end

/-! ## Directories -/

theorem isDirectory_iff {f : Files} {path : Path} : f.isDirectory path = .ok true ↔
    ∃ place, f.locate path = .ok place ∧ f.get? place = some .directory := by
  unfold isDirectory leadsTo lookup
  cases hl : f.locate path with
  | error e => cases e <;> exact ⟨nofun, nofun⟩
  | ok place =>
    dsimp only
    rcases hentry : f.get? place with _ | _ | _
    · refine ⟨nofun, ?_⟩
      rintro ⟨_, ⟨⟩, hdir⟩
      cases hentry.symm.trans hdir
    · refine ⟨nofun, ?_⟩
      rintro ⟨_, ⟨⟩, hdir⟩
      cases hentry.symm.trans hdir
    · exact ⟨fun _ => ⟨_, rfl, hentry⟩, fun _ => rfl⟩

/-! ## Reading and writing -/

/-- Can files be written at a path? -/
def IsWritable (f : Files) (path : Path) : Prop := ∀ content, ∃ g, f.write path content = .ok g

/-- A file is written at the place that the path leads to, unless a directory stands
    there. -/
theorem write_eq_ok {f g : Files} {path : Path} {content : ByteArray} :
    f.write path content = .ok g ↔ ∃ place, f.locate path = .ok place ∧
      f.get? place ≠ some .directory ∧ g = f.set place (.file content) := by
  unfold write
  cases f.locate path with
  | error e => exact ⟨nofun, fun ⟨_, h, _⟩ => nomatch h⟩
  | ok place =>
    dsimp only
    split
    · next hdir =>
      refine ⟨nofun, ?_⟩
      rintro ⟨_, ⟨⟩, hfree, _⟩
      exact absurd hdir hfree
    · next hfree =>
      constructor
      · rintro ⟨⟩
        exact ⟨place, rfl, hfree, rfl⟩
      · rintro ⟨_, ⟨⟩, _, rfl⟩
        rfl

/-- Where a path leads at which files can be written. -/
theorem isWritable_iff {f : Files} {path : Path} : f.IsWritable path ↔
    ∃ place, f.locate path = .ok place ∧ f.get? place ≠ some .directory := by
  constructor
  · intro h
    obtain ⟨g, hg⟩ := h ByteArray.empty
    obtain ⟨place, hl, hfree, -⟩ := write_eq_ok.1 hg
    exact ⟨place, hl, hfree⟩
  · rintro ⟨place, hl, hfree⟩ content
    exact ⟨_, write_eq_ok.2 ⟨place, hl, hfree, rfl⟩⟩

theorem isWritable_of_write {f g : Files} {path : Path} {content : ByteArray}
    (h : f.write path content = .ok g) : f.IsWritable path := by
  obtain ⟨place, hl, hfree, -⟩ := write_eq_ok.1 h
  exact isWritable_iff.2 ⟨place, hl, hfree⟩

/-- Where files cannot be written, writing one fails, whatever it would hold. -/
theorem write_error {f : Files} {path : Path} (h : ¬ f.IsWritable path) (content : ByteArray) :
    ∃ e, f.write path content = .error e := by
  cases hw : f.write path content with
  | error e => exact ⟨e, rfl⟩
  | ok g => exact absurd (isWritable_of_write hw) h

theorem lookup_write {f g : Files} {path : Path} {content : ByteArray}
    (h : f.write path content = .ok g) : g.lookup path = .ok (.file content) := by
  obtain ⟨place, hl, hfree, rfl⟩ := write_eq_ok.1 h
  rw [lookup, locate_of_directories (hasDirectories_set f hfree content) hl]
  dsimp only
  rw [get?_set f _ (not_above_of_get? hfree), if_pos rfl]

/-- What has been written is there and can be read. -/
theorem read_write {f g : Files} {path : Path} {content : ByteArray}
    (h : f.write path content = .ok g) :
    g.read path = .ok content ∧ g.pathExists path = .ok true := by
  rw [read, pathExists, leadsTo, lookup_write h]
  exact ⟨rfl, rfl⟩

end CxxWriter.Files
