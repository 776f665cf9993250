/-
  What can be found at a path before and after a file is written.

  * `IsTree f`: whatever stands in `f` stands in a directory;
  * `WritesTo f g place content`: to give `g`, a file has been written in `f`, and
    directories have been made;
  * `WritesTo.lookup`: what a path leads to, it leads to afterwards, if that is
    not the file that is written;
  * `read_below`: below a directory that was there no other file can be read
    afterwards.
-/
import CxxWriter.Proofs.Source

namespace CxxWriter.Files

variable {f g : Files}

/-! ## Trees -/

/-- Does whatever stands in the files stand in a directory? -/
def IsTree (f : Files) : Prop :=
  ∀ parts part, (f.get? (parts ++ [part])).isSome → f.get? parts = some .directory

/-- All places on the way to an entry are directories. -/
theorem IsTree.directory (hf : f.IsTree) {x rest : List String} (hrest : rest ≠ [])
    (h : (f.get? (x ++ rest)).isSome) : f.get? x = some .directory := by
  induction rest generalizing x with
  | nil => exact absurd rfl hrest
  | cons part rest ih =>
    cases rest with
    | nil => exact hf x part h
    | cons next rest =>
      rw [List.append_cons] at h
      exact hf x part (by rw [ih nofun h]; rfl)

theorem isTree_of_entries (h : ∀ e ∈ f.entries, f.get? e.1.dropLast = some .directory) :
    f.IsTree := by
  intro parts part hsome
  by_cases hhere : parts ++ [part] <+: f.here
  · exact get?_of_above ((List.prefix_append parts [part]).trans hhere)
  · rw [get?_of_not_above hhere, Option.isSome_map] at hsome
    obtain ⟨e, he⟩ := Option.isSome_iff_exists.1 hsome
    have hkey := List.find?_some he
    rw [beq_iff_eq] at hkey
    have hdir := h e (List.mem_of_find?_eq_some he)
    rwa [hkey, List.dropLast_concat] at hdir

/-! ## What a write changes -/

/-- Has a file been written, and have directories been made, and nothing else? -/
structure WritesTo (f g : Files) (place : List String) (content : ByteArray) : Prop where
  here : g.here = f.here
  entry : g.get? place = some (.file content)
  other : ∀ q, q ≠ place → g.get? q = f.get? q ∨ f.get? q = none ∧ g.get? q = some .directory
  free : f.get? place ≠ some .directory

theorem writesTo_of_write {between : Files} {path : Path} {content : ByteArray}
    (hadds : AddsDirectories f between) (hwrite : between.write path content = .ok g) :
    ∃ place, g.locate path = .ok place ∧ WritesTo f g place content := by
  obtain ⟨place, hl, hfree, rfl⟩ := write_eq_ok.1 hwrite
  have hset := get?_set between (.file content) (not_above_of_get? hfree)
  refine ⟨place, locate_of_directories (hasDirectories_set between hfree content) hl, ?_, ?_,
    fun q hq => ?_, ?_⟩
  · rw [set_here, hadds.here]
  · rw [hset, if_pos rfl]
  · rw [hset, if_neg (Ne.symm hq)]
    exact hadds.entry q
  · exact fun h => hfree (hadds.get? h)

namespace WritesTo

variable {place : List String} {content : ByteArray}

/-- What stood somewhere else stands there afterwards. -/
theorem get?_other (h : WritesTo f g place content) {q : List String} {e : FileEntry}
    (hne : q ≠ place) (he : f.get? q = some e) : g.get? q = some e := by
  rcases h.other q hne with hsame | ⟨hnone, _⟩
  · rw [hsame, he]
  · rw [hnone] at he
    cases he

theorem hasDirectories (h : WritesTo f g place content) : HasDirectories f g where
  here := h.here
  directory q hq := h.get?_other (by rintro rfl; exact h.free hq) hq

/-- What a path leads to, it leads to afterwards, if that is not the file that is
    written. -/
theorem lookup (h : WritesTo f g place content) {p : Path} {e : FileEntry}
    (hp : g.locate p ≠ .ok place) (he : f.lookup p = .ok e) : g.lookup p = .ok e := by
  unfold Files.lookup at he ⊢
  split at he
  · cases he
  · next q hl =>
    have hl' := locate_of_directories h.hasDirectories hl
    rw [hl']
    dsimp only
    split at he
    · next e' hq =>
      cases he
      rw [h.get?_other (by rintro rfl; exact hp hl') hq]
    · cases he

/-- A file can be read as before, if it is not the one that is written. -/
theorem read (h : WritesTo f g place content) {p : Path} {bytes : ByteArray}
    (hp : g.locate p ≠ .ok place) (hread : f.read p = .ok bytes) :
    g.read p = .ok bytes := by
  unfold Files.read at hread ⊢
  split at hread
  · next hl =>
    cases hread
    rw [h.lookup hp hl]
  · cases hread
  · cases hread

theorem leadsTo (h : WritesTo f g place content) {p : Path} {test : FileEntry → Bool}
    (hp : g.locate p ≠ .ok place) (htest : f.leadsTo test p = .ok true) :
    g.leadsTo test p = .ok true := by
  unfold Files.leadsTo at htest ⊢
  split at htest
  · next hl =>
    rw [h.lookup hp hl]
    exact htest
  · cases htest
  · cases htest

/-- A directory stays one. -/
theorem isDirectory (h : WritesTo f g place content) {p : Path}
    (hp : f.isDirectory p = .ok true) : g.isDirectory p = .ok true := by
  obtain ⟨q, hl, hdir⟩ := isDirectory_iff.1 hp
  exact isDirectory_iff.2 ⟨q, locate_of_directories h.hasDirectories hl,
    h.hasDirectories.directory q hdir⟩

end WritesTo

/-! ## Files below a directory -/

/-- Where the parts of a path lead that only go down. -/
theorem place_of_foldlM {parts x q : List String} (hparts : ".." ∉ parts)
    (h : parts.foldlM g.stepInto x = .ok q) : q = x ++ parts := by
  induction parts generalizing x with
  | nil =>
    cases h
    rw [List.append_nil]
  | cons part parts ih =>
    have hpart : part ≠ ".." := fun he => hparts (he ▸ List.mem_cons_self)
    rw [List.foldlM_cons] at h
    unfold stepInto at h
    rw [if_neg hpart] at h
    split at h
    · cases h
    · cases h
    · split at h
      · cases h
      · rw [ih (fun hm => hparts (List.mem_cons_of_mem _ hm)) h, List.append_assoc]
        rfl

/-- From a directory that is in both trees, a path is followed alike. -/
theorem stepInto_congr {place : List String} (hf : f.get? place = some .directory)
    (hg : g.get? place = some .directory) (part : String) :
    f.stepInto place part = g.stepInto place part := by
  unfold stepInto
  rw [hf, hg]

/-- Only from a directory can a path be followed further. -/
theorem directory_of_stepInto {place next : List String} {part : String}
    (h : f.stepInto place part = .ok next) : f.get? place = some .directory := by
  unfold stepInto at h
  split at h
  · cases h
  · cases h
  · assumption

/-- Parts that only go down, to a place where something stands, can be followed
    without the directories that have been made since. -/
theorem foldlM_below (hf : f.IsTree) {parts x q : List String} (hparts : ".." ∉ parts)
    (hq : (f.get? q).isSome) (h : parts.foldlM g.stepInto x = .ok q) :
    parts.foldlM f.stepInto x = .ok q := by
  induction parts generalizing x with
  | nil => exact h
  | cons part parts ih =>
    have hrest : ".." ∉ parts := fun hm => hparts (List.mem_cons_of_mem _ hm)
    -- something stands below the directory that is left, so it was there before
    have hdir : f.get? x = some .directory := by
      rw [place_of_foldlM hparts h] at hq
      exact hf.directory (List.cons_ne_nil part parts) hq
    rw [List.foldlM_cons] at h ⊢
    cases hstep : g.stepInto x part with
    | error => rw [hstep] at h; cases h
    | ok next =>
      rw [hstep] at h
      rw [stepInto_congr hdir (directory_of_stepInto hstep), hstep]
      exact ih hrest h

theorem place_of_read {p : Path} {bytes : ByteArray} (h : g.read p = .ok bytes) :
    ∃ q, g.locate p = .ok q ∧ g.get? q = some (.file bytes) := by
  unfold Files.read Files.lookup at h
  cases hl : g.locate p with
  | error => rw [hl] at h; cases h
  | ok q =>
    rw [hl] at h
    dsimp only at h
    cases hq : g.get? q with
    | none => rw [hq] at h; cases h
    | some e =>
      rw [hq] at h
      cases e with
      | directory => cases h
      | file content =>
        cases h
        exact ⟨q, rfl, hq⟩

/-- A path that goes down from a directory is followed from there. -/
theorem foldlM_append_of_locate {d : Path} {dir : List String} (hd : f.locate d = .ok dir)
    (parts : List String) : (d.append parts).parts.foldlM f.stepInto (f.origin (d.append parts)) =
      parts.foldlM f.stepInto dir := by
  obtain ⟨_, _, hfold⟩ := locate_eq_ok.1 hd
  have horigin : f.origin (d.append parts) = f.origin d := rfl
  rw [Path.append, List.foldlM_append, ← Path.append, horigin, hfold]
  rfl

/-- A path that goes down from a directory, to a place where something stands, leads
    there without the directories that have been made since. -/
theorem locate_below (hf : f.IsTree) (hdirs : HasDirectories f g) {d : Path}
    {parts q : List String} (hd : f.isDirectory d = .ok true) (hparts : ".." ∉ parts)
    (h : g.locate (d.append parts) = .ok q) (hq : (f.get? q).isSome) :
    f.locate (d.append parts) = .ok q := by
  obtain ⟨dir, hbefore, -⟩ := isDirectory_iff.1 hd
  obtain ⟨hnull, hshort, hall⟩ := locate_eq_ok.1 h
  rw [foldlM_append_of_locate (locate_of_directories hdirs hbefore)] at hall
  refine locate_eq_ok.2 ⟨hnull, hshort, ?_⟩
  rw [foldlM_append_of_locate hbefore]
  exact foldlM_below hf hparts hq hall

/-- Below a directory that was there, no other file can be read afterwards than
    before, but for the one that is written. -/
theorem read_below (hf : f.IsTree) {place : List String} {content : ByteArray}
    (h : WritesTo f g place content) {d : Path} {parts : List String}
    (hd : f.isDirectory d = .ok true) (hparts : ".." ∉ parts)
    (hp : g.locate (d.append parts) ≠ .ok place) {bytes : ByteArray} :
    g.read (d.append parts) = .ok bytes ↔ f.read (d.append parts) = .ok bytes := by
  refine ⟨fun hread => ?_, h.read hp⟩
  obtain ⟨q, hq, hentry⟩ := place_of_read hread
  have hne : q ≠ place := by
    rintro rfl
    exact hp hq
  have hold : f.get? q = some (.file bytes) := by
    rcases h.other q hne with hsame | ⟨_, hdir⟩
    · rw [← hsame, hentry]
    · rw [hentry] at hdir
      cases hdir
  have hlocate := locate_below hf h.hasDirectories hd hparts hq (by rw [hold]; rfl)
  rw [Files.read, Files.lookup, hlocate]
  dsimp only
  rw [hold]

end CxxWriter.Files
