/-
  What writing a source file changes.

  * `AddsDirectories f g`: files `g` are those of `f` with more directories;
    all that is ever done on the way to a file is of this kind;
  * `writeBytes_cases`: what a write comes to.  It fails and changes no file, it
    finds the file up to date and changes nothing, or it writes the file.
-/
import CxxWriter.Proofs.Files
import CxxWriter.Source

namespace CxxWriter

/-! ## Outcomes can be decided -/

instance Except.decidableEqOk {ε α : Type} [DecidableEq α] (r : Except ε α) (x : α) :
    Decidable (r = .ok x) :=
  match r with
  | .ok y => decidable_of_iff (y = x) (by rw [Except.ok.injEq])
  | .error _ => isFalse nofun

namespace Files

/-! ## More directories -/

/-- Have directories been made in `f`, and nothing else, to give `g`? -/
structure AddsDirectories (f g : Files) : Prop where
  here : g.here = f.here
  entry : ∀ q, g.get? q = f.get? q ∨ f.get? q = none ∧ g.get? q = some .directory

namespace AddsDirectories

variable {f g h : Files}

theorem refl (f : Files) : AddsDirectories f f := ⟨rfl, fun _ => .inl rfl⟩

theorem trans (hfg : AddsDirectories f g) (hgh : AddsDirectories g h) : AddsDirectories f h := by
  refine ⟨hgh.here.trans hfg.here, fun q => ?_⟩
  rcases hgh.entry q with hq | ⟨hnone, hq⟩
  · rw [hq]
    exact hfg.entry q
  · rcases hfg.entry q with hq' | ⟨_, hq'⟩
    · exact .inr ⟨hq' ▸ hnone, hq⟩
    · rw [hq'] at hnone
      cases hnone

/-- What is there stays as it is. -/
theorem get? (hfg : AddsDirectories f g) {q : List String} {e : FileEntry}
    (he : f.get? q = some e) : g.get? q = some e := by
  rcases hfg.entry q with hq | ⟨hnone, _⟩
  · rw [hq, he]
  · rw [hnone] at he
    cases he

theorem hasDirectories (hfg : AddsDirectories f g) : HasDirectories f g :=
  ⟨hfg.here, fun _ => hfg.get?⟩

end AddsDirectories

/-- A directory has been made where nothing stood. -/
theorem addsDirectories_set (f : Files) {place : List String} (hnone : f.get? place = none) :
    AddsDirectories f (f.set place .directory) := by
  have hplace : ¬ place <+: f.here := not_above_of_get? (by rw [hnone]; nofun)
  refine ⟨set_here f place _, fun q => ?_⟩
  rw [get?_set f _ hplace]
  split
  · next hq => exact .inr ⟨hq ▸ hnone, rfl⟩
  · exact .inl rfl

theorem makeDirectory_adds {f g : Files} {path : Path} (h : f.makeDirectory path = .ok g) :
    AddsDirectories f g := by
  unfold makeDirectory at h
  split at h
  · cases h
  · split at h
    · cases h
    · next hnone =>
      cases h
      exact addsDirectories_set f hnone

theorem allowExisting_files (f : Files) (path : Path) (e : FileError) :
    (f.allowExisting path e).files = f := by
  unfold allowExisting
  split
  · rfl
  · split <;> rfl

/-- The directories on the way to a directory are all that is made. -/
theorem makeDirectoriesFrom_adds (levels : Nat) (f : Files) (path : Path) :
    AddsDirectories f (f.makeDirectoriesFrom path levels).files := by
  induction levels generalizing path with
  | zero =>
    unfold makeDirectoriesFrom
    split
    · next h => exact makeDirectory_adds h
    · rw [allowExisting_files]
      exact .refl f
  | succ levels ih =>
    unfold makeDirectoriesFrom
    split
    · next h => exact makeDirectory_adds h
    · split
      · exact .refl f
      · have hup := ih path.parent
        dsimp only
        split
        · exact hup
        · split
          · next h => exact hup.trans (makeDirectory_adds h)
          · rw [allowExisting_files]
            exact hup
    · rw [allowExisting_files]
      exact .refl f

end Files

namespace Source

/-! ## What a write comes to -/

theorem bytes_beq (a b : ByteArray) : (a == b) = true ↔ a = b := by
  obtain ⟨a⟩ := a
  obtain ⟨b⟩ := b
  show (a == b) = true ↔ _
  rw [beq_iff_eq, ByteArray.mk.injEq]

/-- A write fails and leaves all files as they are, finds the file up to date, or
    writes it once the directories on the way are there. -/
theorem writeBytes_cases (files : Files) (path : Path) (content : ByteArray) :
    (∃ g e, writeBytes files path content = ⟨g, .error e⟩ ∧ Files.AddsDirectories files g) ∨
    (writeBytes files path content = ⟨files, .ok false⟩ ∧ files.read path = .ok content) ∨
    ∃ g h, Files.AddsDirectories files g ∧ g.write path content = .ok h ∧
      writeBytes files path content = ⟨h, .ok true⟩ := by
  unfold writeBytes
  split
  · exact .inl ⟨_, _, rfl, .refl files⟩
  · next hsame =>
    refine .inr (.inl ⟨rfl, ?_⟩)
    unfold isUpToDate at hsame
    rcases hex : files.pathExists path with _ | _ | _
    · rw [hex] at hsame; cases hsame
    · rw [hex] at hsame; cases hsame
    · rw [hex] at hsame
      rcases hread : files.read path with _ | found
      · rw [hread] at hsame; cases hsame
      · rw [hread] at hsame
        rw [(bytes_beq found content).1 (Except.ok.inj hsame)]
  · have hmade := Files.makeDirectoriesFrom_adds path.parent.parts.length files path.parent
    dsimp only
    split
    · exact .inl ⟨_, _, rfl, hmade⟩
    · split
      · next hw => exact .inr (.inr ⟨_, _, hmade, hw, rfl⟩)
      · exact .inl ⟨_, _, rfl, hmade⟩

/-- A report ends well exactly if what it reports did. -/
theorem report_outcome (path : Path) (outcome : Except FileError Bool) :
    (∃ written, outcome = .ok written ∧ (report path outcome).outcome.1 = .ok written) ∨
    ∃ e error, outcome = .error e ∧ (report path outcome).outcome.1 = .error error := by
  rcases outcome with e | _ | _
  · refine .inr ⟨e, ?_⟩
    unfold report
    dsimp only
    split <;> exact ⟨_, rfl, rfl⟩
  · exact .inl ⟨false, rfl, rfl⟩
  · exact .inl ⟨true, rfl, rfl⟩

end Source

end CxxWriter
