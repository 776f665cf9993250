/-
  Directories that are made on the way to a file.

  * `AddsDirectories.locate_error`: what keeps a path from being followed, keeps it
    from being followed when there are more directories, unless a directory is
    missing;
  * `makes_makeDirectoriesFrom`: a directory is made whenever more directories are all
    that it takes to have it, and nothing else is made than these;
  * `isWritable_made`: so files can be written at a path after its directory has been
    made, if they can be at all.
-/
import CxxWriter.Proofs.Places

namespace CxxWriter.Files

variable {f g : Files} {path : Path}

/-! ## Following a path among more directories -/

namespace AddsDirectories

variable {e : FileFault}

theorem stepInto_error (hadds : AddsDirectories f g) (he : e ≠ .notFound) {place : List String}
    {part : String} (h : f.stepInto place part = .error e) : g.stepInto place part = .error e := by
  unfold stepInto at h ⊢
  cases hentry : f.get? place with
  | none =>
    rw [hentry] at h
    exact absurd (Except.error.inj h).symm he
  | some entry =>
    rw [hadds.get? hentry]
    rwa [hentry] at h

theorem foldlM_error (hadds : AddsDirectories f g) (he : e ≠ .notFound) {parts : List String}
    {place : List String} (h : parts.foldlM f.stepInto place = .error e) :
    parts.foldlM g.stepInto place = .error e := by
  induction parts generalizing place with
  | nil => cases h
  | cons part parts ih =>
    rw [List.foldlM_cons] at h ⊢
    cases hstep : f.stepInto place part with
    | error e' =>
      rw [hstep] at h
      cases h
      rw [hadds.stepInto_error he hstep]
      rfl
    | ok next =>
      rw [hstep] at h
      rw [stepInto_of_directories hadds.hasDirectories hstep]
      exact ih h

/-- A path that cannot be followed although no directory is missing cannot be followed
    when there are more directories either. -/
theorem locate_error (hadds : AddsDirectories f g) (he : e ≠ .notFound)
    (h : f.locate path = .error e) : g.locate path = .error e := by
  unfold locate at h ⊢
  dsimp only at h ⊢
  split
  · next hc => rwa [if_pos hc] at h
  · next hc =>
    rw [if_neg hc] at h
    split
    · next hc => rwa [if_pos hc] at h
    · next hc =>
      rw [if_neg hc] at h
      rw [origin_of_directories hadds.hasDirectories]
      exact hadds.foldlM_error he h

end AddsDirectories

/-! ## Directories -/

/-- The last of the parts is followed from where the others lead. -/
theorem foldlM_getLast (f : Files) (place : List String) {parts : List String}
    (hne : parts ≠ []) : parts.foldlM f.stepInto place =
      parts.dropLast.foldlM f.stepInto place >>= (f.stepInto · (parts.getLast hne)) := by
  conv_lhs => rw [← List.dropLast_append_getLast hne, List.foldlM_append]
  simp only [List.foldlM_cons, List.foldlM_nil, bind_pure]

/-- A path is followed from the directory that it leads into. -/
theorem locate_parent (hne : path.parts ≠ []) {place : List String}
    (h : f.locate path = .ok place) : ∃ dir, f.locate path.parent = .ok dir ∧
      f.stepInto dir (path.parts.getLast hne) = .ok place := by
  obtain ⟨hnull, hshort, hfold⟩ := locate_eq_ok.1 h
  rw [foldlM_getLast f _ hne] at hfold
  cases hdir : path.parts.dropLast.foldlM f.stepInto (f.origin path) with
  | error => rw [hdir] at hfold; cases hfold
  | ok dir =>
    rw [hdir] at hfold
    have hnullParent : '\x00' ∉ path.parent.toString.toList := by
      rw [Path.mem_toString (by decide) (by decide)] at hnull ⊢
      exact fun hmem => hnull (hmem.imp_right fun ⟨part, hpart, hc⟩ =>
        ⟨part, List.dropLast_subset _ hpart, hc⟩)
    have hshortParent : path.parent.toString.utf8ByteSize ≤ maxPath :=
      Nat.le_trans (Path.size_parent_le path) (Nat.max_le.2 ⟨by decide, hshort⟩)
    exact ⟨dir, locate_eq_ok.2 ⟨hnullParent, hshortParent, hdir⟩, hfold⟩

/-- The directory that a path leads into is there. -/
theorem isDirectory_parent (hne : path.parts ≠ []) {place : List String}
    (h : f.locate path = .ok place) : f.isDirectory path.parent = .ok true := by
  obtain ⟨dir, hdir, hstep⟩ := locate_parent hne h
  exact isDirectory_iff.2 ⟨dir, hdir, directory_of_stepInto hstep⟩

/-- A path is followed as among more directories, once the directory that it leads into
    is there. -/
theorem locate_of_parent (hadds : AddsDirectories f g) (hne : path.parts ≠ [])
    (hdir : f.isDirectory path.parent = .ok true) {place : List String}
    (h : g.locate path = .ok place) : f.locate path = .ok place := by
  obtain ⟨dir, hlater, hstep⟩ := locate_parent hne h
  obtain ⟨dir', hparent, hentry⟩ := isDirectory_iff.1 hdir
  have hsame : dir' = dir :=
    Except.ok.inj ((locate_of_directories hadds.hasDirectories hparent).symm.trans hlater)
  subst hsame
  obtain ⟨hnull, hshort, -⟩ := locate_eq_ok.1 h
  obtain ⟨-, -, hfold⟩ := locate_eq_ok.1 hparent
  refine locate_eq_ok.2 ⟨hnull, hshort, ?_⟩
  have hfolded : path.parts.dropLast.foldlM f.stepInto (f.origin path) = .ok dir' := hfold
  rw [foldlM_getLast f _ hne, hfolded]
  exact (stepInto_congr hentry (directory_of_stepInto hstep) _).trans hstep

/-! ## Making directories -/

/-- Has a directory been made, and nothing but directories of `g`? -/
structure Makes (g : Files) (path : Path) (c : Changed) : Prop where
  error : c.error = none
  adds : AddsDirectories c.files g
  directory : c.files.isDirectory path = .ok true

section

variable (hadds : AddsDirectories f g) (hdir : g.isDirectory path = .ok true)

include hadds hdir

/-- A directory whose path can be followed is made, or is there already. -/
theorem makeDirectory_cases {place : List String} (hl : f.locate path = .ok place) :
    (∃ h, f.makeDirectory path = .ok h ∧ Makes g path ⟨h, none⟩) ∨
      f.makeDirectory path = .error ⟨.alreadyExists, path⟩ ∧ f.isDirectory path = .ok true := by
  obtain ⟨place', hl', hdir⟩ := isDirectory_iff.1 hdir
  have hsame : place' = place :=
    Except.ok.inj (hl'.symm.trans (locate_of_directories hadds.hasDirectories hl))
  subst hsame
  unfold makeDirectory
  rw [hl]
  dsimp only
  cases hentry : f.get? place' with
  | some entry =>
    -- the entry stays what it is, and in the end it is the directory
    have hsame := (hadds.get? hentry).symm.trans hdir
    exact .inr ⟨rfl, isDirectory_iff.2 ⟨_, hl, hentry.trans hsame⟩⟩
  | none =>
    have hmade := addsDirectories_set f hentry
    have hset := get?_set f .directory (not_above_of_get? (by rw [hentry]; nofun))
    refine .inl ⟨_, rfl, rfl, ⟨hadds.here.trans hmade.here.symm, fun q => ?_⟩, ?_⟩
    · rw [hset]
      split
      · next hq => exact .inl (hq ▸ hdir)
      · exact hadds.entry q
    · refine isDirectory_iff.2 ⟨_, locate_of_directories hmade.hasDirectories hl, ?_⟩
      rw [hset, if_pos rfl]

/-- A directory whose path can be followed is there afterwards, whatever number of
    directories may be missing. -/
theorem makes_of_locate {place : List String} (hl : f.locate path = .ok place) (levels : Nat) :
    Makes g path (f.makeDirectoriesFrom path levels) := by
  rcases makeDirectory_cases hadds hdir hl with ⟨h, hmade, hmakes⟩ | ⟨hthere, hdirectory⟩
  · cases levels <;>
    · unfold makeDirectoriesFrom
      rw [hmade]
      exact hmakes
  · have hallowed : f.allowExisting path ⟨.alreadyExists, path⟩ = ⟨f, none⟩ := by
      dsimp only [allowExisting]
      rw [hdirectory]
    cases levels <;>
    · unfold makeDirectoriesFrom
      rw [hthere]
      dsimp only
      rw [hallowed]
      exact ⟨rfl, hadds, hdirectory⟩

/-- If a path cannot be followed, a directory on the way is missing. -/
theorem missing_of_locate_error {e : FileFault} (hl : f.locate path = .error e) :
    e = .notFound ∧ path.parts ≠ [] := by
  obtain ⟨place, hl', -⟩ := isDirectory_iff.1 hdir
  refine ⟨?_, fun hparts => ?_⟩
  · by_contra he
    cases (hadds.locate_error he hl).symm.trans hl'
  · obtain ⟨hnull, hshort, -⟩ := locate_eq_ok.1 hl'
    have horigin : path.parts.foldlM f.stepInto (f.origin path) = .ok (f.origin path) := by
      rw [hparts]
      rfl
    cases hl.symm.trans (locate_eq_ok.2 ⟨hnull, hshort, horigin⟩)

/-- Making a directory and those on the way to it succeeds whenever more directories
    are all that it takes. -/
theorem makes_makeDirectoriesFrom {levels : Nat} (hlevels : path.parts.length ≤ levels) :
    Makes g path (f.makeDirectoriesFrom path levels) := by
  induction levels generalizing path with
  | zero =>
    cases hl : f.locate path with
    | ok l => exact makes_of_locate hadds hdir hl 0
    | error e =>
      obtain ⟨-, hne⟩ := missing_of_locate_error hadds hdir hl
      exact absurd (List.eq_nil_of_length_eq_zero (Nat.le_zero.1 hlevels)) hne
  | succ levels ih =>
    cases hl : f.locate path with
    | ok l => exact makes_of_locate hadds hdir hl (levels + 1)
    | error e =>
      obtain ⟨rfl, hne⟩ := missing_of_locate_error hadds hdir hl
      obtain ⟨place, hl', -⟩ := isDirectory_iff.1 hdir
      -- the parent is made first, for which a level less is enough
      have hfewer : path.parent.parts.length ≤ levels := by
        rw [Path.parent, List.length_dropLast]
        omega
      obtain ⟨herror, hadds', hdirectory⟩ := ih (isDirectory_parent hne hl') hfewer
      have hmissing : f.makeDirectory path = .error ⟨.notFound, path⟩ := by
        rw [makeDirectory, hl]
      have hisEmpty : path.parts.isEmpty = false := by simpa using hne
      unfold makeDirectoriesFrom
      rw [hmissing]
      dsimp only
      rw [hisEmpty, if_neg Bool.false_ne_true, herror]
      -- With its parent there, the path can be followed.
      exact makes_of_locate hadds' hdir (locate_of_parent hadds' hne hdirectory hl') 0

end

/-! ## Files that can be written -/

/-- If files can be written at a path among more directories, making the directory that
    it leads into is enough for it. -/
theorem isWritable_made (hadds : AddsDirectories f g) (hw : g.IsWritable path) :
    (f.makeDirectories path.parent).error = none ∧
      (f.makeDirectories path.parent).files.IsWritable path := by
  obtain ⟨place, hl, hfree⟩ := isWritable_iff.1 hw
  have hne : path.parts ≠ [] := by
    intro hparts
    obtain ⟨-, -, hfold⟩ := locate_eq_ok.1 hl
    rw [hparts] at hfold
    cases hfold
    exact hfree (get?_origin g path)
  obtain ⟨herror, hadds', hdirectory⟩ :=
    makes_makeDirectoriesFrom hadds (isDirectory_parent hne hl) (Nat.le_refl _)
  have hl' := locate_of_parent hadds' hne hdirectory hl
  exact ⟨herror, isWritable_iff.2 ⟨place, hl', fun hdir => hfree (hadds'.get? hdir)⟩⟩

end CxxWriter.Files
