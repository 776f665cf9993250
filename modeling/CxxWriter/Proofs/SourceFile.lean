/-
  A source file is written only if it changes.

  * `bytes_eq`: what is written are the lines of the text with the line ending
    between them;
  * `returns_iff`: a write fails only where no directories could be made with which
    it would succeed;
  * `HasSettled`: what a write leaves behind that returns;
  * `only_changes_written`: every write that returns has settled, a second one finds
    the file up to date, and one that fails leaves all files alone.
-/
import CxxWriter.Proofs.Directories

namespace CxxWriter.Source

open Files (AddsDirectories)

variable {files : Files} {path : Path} {content : ByteArray} {written : Bool}

/-! ## The content of a source file -/

theorem intercalate_splitOn (ending l : List Char) : ending.intercalate (Text.splitOn '\n' l) =
    l.flatMap fun c => if c = '\n' then ending else [c] := by
  induction l with
  | nil => rfl
  | cons c l ih =>
    obtain ⟨p, ps, hsplit⟩ := List.exists_cons_of_ne_nil (Text.splitOn_ne_nil '\n' l)
    rw [List.flatMap_cons, ← ih, Text.splitOn, hsplit]
    split
    · rw [List.intercalate_cons_cons, List.nil_append]
    · cases ps with
      | nil => simp
      | cons q qs => simp [List.intercalate_cons_cons]

/-- Source files hold the lines of a text, with the line ending between them. -/
theorem bytes_eq (text lineEnding : String) :
    bytes text lineEnding = bytesOfText (lineEnding.intercalate (Text.splitString '\n' text)) := by
  have hlines : lineEnding.intercalate (Text.splitString '\n' text) = String.ofList
      (text.toList.flatMap fun c => if c = '\n' then lineEnding.toList else [c]) := by
    rw [← String.toList_inj, String.toList_intercalate, String.toList_ofList, ← intercalate_splitOn,
      Text.splitString, List.map_map]
    refine congrArg _ ((List.map_congr_left fun l _ => ?_).trans (List.map_id _))
    exact String.toList_ofList
  rw [hlines, bytes]

/-! ## Writes that return -/

theorem report_eq_ok {outcome : Except FileError Bool} :
    (report path outcome).outcome.1 = .ok written ↔ outcome = .ok written := by
  rcases report_outcome path outcome with ⟨written', rfl, hr⟩ | ⟨e, error, rfl, hr⟩
  · rw [hr]
    exact ⟨fun h => congrArg _ (Except.ok.inj h), fun h => congrArg _ (Except.ok.inj h)⟩
  · rw [hr]
    exact ⟨nofun, nofun⟩

/-- A file that holds the content is left alone. -/
theorem writeBytes_of_read (hread : files.read path = .ok content) :
    writeBytes files path content = ⟨files, .ok false⟩ := by
  have hexists : files.pathExists path = .ok true := by
    obtain ⟨place, hl, hentry⟩ := Files.place_of_read hread
    rw [Files.pathExists, Files.leadsTo, Files.lookup, hl]
    dsimp only
    rw [hentry]
  have hcurrent : isUpToDate files path content = .ok true := by
    unfold isUpToDate
    rw [hexists, hread]
    exact congrArg Except.ok ((bytes_beq content content).2 rfl)
  rw [writeBytes, hcurrent]

/-- If files can be written among more directories, it can be told whether the file is up
    to date. -/
theorem exists_isUpToDate {g : Files} (hadds : AddsDirectories files g) (hw : g.IsWritable path)
    (content : ByteArray) : ∃ current, isUpToDate files path content = .ok current := by
  obtain ⟨place, hl, hfree⟩ := Files.isWritable_iff.1 hw
  unfold isUpToDate Files.pathExists Files.leadsTo Files.read Files.lookup
  cases hl' : files.locate path with
  | error e =>
    have he : e = .notFound := by
      by_contra he
      cases (hadds.locate_error he hl').symm.trans hl
    subst he
    exact ⟨false, rfl⟩
  | ok l =>
    cases (Files.locate_of_directories hadds.hasDirectories hl').symm.trans hl
    dsimp only
    rcases hentry : files.get? place with _ | found | _
    · exact ⟨false, rfl⟩
    · exact ⟨found == content, rfl⟩
    · exact absurd (hadds.get? hentry) hfree

/-- A write returns exactly if there are directories with which files can be written at
    the path. -/
theorem returns_iff (content : ByteArray) :
    (∃ written, (writeBytes files path content).outcome = .ok written) ↔
      ∃ g, AddsDirectories files g ∧ g.IsWritable path := by
  constructor
  · rintro ⟨written, hwritten⟩
    rcases writeBytes_cases files path content with
      ⟨g, e, hw, -⟩ | ⟨-, hread⟩ | ⟨g, h, hadds, hwrite, -⟩
    · rw [hw] at hwritten
      cases hwritten
    · obtain ⟨place, hl, hentry⟩ := Files.place_of_read hread
      refine ⟨files, .refl files, Files.isWritable_iff.2 ⟨place, hl, ?_⟩⟩
      rw [hentry]
      nofun
    · exact ⟨g, hadds, Files.isWritable_of_write hwrite⟩
  · rintro ⟨g, hadds, hw⟩
    obtain ⟨current, hcurrent⟩ := exists_isUpToDate hadds hw content
    obtain ⟨herror, hwritable⟩ := Files.isWritable_made hadds hw
    obtain ⟨h, hwrite⟩ := hwritable content
    unfold writeBytes
    rw [hcurrent]
    cases current with
    | true => exact ⟨false, rfl⟩
    | false =>
      dsimp only
      rw [herror]
      dsimp only
      rw [hwrite]
      exact ⟨true, rfl⟩

/-! ## What a write leaves behind -/

/-- What a write leaves behind that returns.  The file at the path holds the content.  It
    has been written unless it held the content before, and if it has not been, nothing
    has changed.  The working directory is where it was, the path leads where it led
    before, if it could be followed, and at all other places nothing but directories is
    new. -/
structure HasSettled (files : Files) (path : Path) (content : ByteArray) (after : Files)
    (written : Bool) : Prop where
  held : after.read path = .ok content
  written_iff : written = false ↔ files.read path = .ok content
  untouched : written = false → after = files
  here : after.here = files.here
  same : ∀ place, files.locate path = .ok place → after.locate path = .ok place
  other : ∃ place, after.locate path = .ok place ∧ ∀ q, q ≠ place →
    after.get? q = files.get? q ∨ files.get? q = none ∧ after.get? q = some .directory

theorem hasSettled_of_ok (h : (writeBytes files path content).outcome = .ok written) :
    HasSettled files path content (writeBytes files path content).files written := by
  rcases writeBytes_cases files path content with
    ⟨g, e, hw, -⟩ | ⟨hw, hread⟩ | ⟨g, after, hadds, hwrite, hw⟩
  · rw [hw] at h
    cases h
  · rw [hw] at h ⊢
    cases h
    obtain ⟨place, hl, -⟩ := Files.place_of_read hread
    exact ⟨hread, iff_of_true rfl hread, fun _ => rfl, rfl, fun _ => id, place, hl,
      fun q _ => .inl rfl⟩
  · have hchanged : files.read path ≠ .ok content := by
      intro hread
      rw [writeBytes_of_read hread] at hw
      cases hw
    rw [hw] at h ⊢
    cases h
    obtain ⟨place, hl, hwrites⟩ := Files.writesTo_of_write hadds hwrite
    exact ⟨(Files.read_write hwrite).1, iff_of_false nofun hchanged, nofun, hwrites.here,
      fun _ => Files.locate_of_directories hwrites.hasDirectories, place, hl, hwrites.other⟩

theorem addsDirectories_of_error {e : FileError}
    (h : (writeBytes files path content).outcome = .error e) :
    AddsDirectories files (writeBytes files path content).files := by
  rcases writeBytes_cases files path content with
    ⟨g, e', hw, hadds⟩ | ⟨hw, -⟩ | ⟨g, after, -, -, hw⟩
  · rw [hw]
    exact hadds
  · rw [hw] at h
    cases h
  · rw [hw] at h
    cases h

/-- **A source file is written exactly if it changes, and nothing else is.**  A write
    returns exactly if there are directories with which files can be written at the path.
    Then the file there holds the lines of the text with the line ending between them,
    the write has told whether it held them before, no other file has changed, and the
    same write once more changes nothing.  A write that fails may have made directories,
    but all files are as they were. -/
theorem only_changes_written (files : Files) (path : Path) (text lineEnding : String) :
    let content := bytesOfText (lineEnding.intercalate (Text.splitString '\n' text))
    let after := (write files path text lineEnding).1
    let result := (write files path text lineEnding).2.outcome.1
    ((∃ written, result = .ok written) ↔ ∃ g, AddsDirectories files g ∧ g.IsWritable path) ∧
    (∀ written, result = .ok written → HasSettled files path content after written ∧
      (write after path text lineEnding).1 = after ∧
      (write after path text lineEnding).2.outcome.1 = .ok false) ∧
    ∀ e, result = .error e → AddsDirectories files after := by
  intro content after result
  have hcontent : bytes text lineEnding = content := bytes_eq text lineEnding
  have hfiles (files : Files) :
      (write files path text lineEnding).1 = (writeBytes files path content).files := hcontent ▸ rfl
  have hresult (files : Files) {written : Bool} :
      (write files path text lineEnding).2.outcome.1 = .ok written ↔
        (writeBytes files path content).outcome = .ok written := hcontent ▸ report_eq_ok
  refine ⟨?_, fun written h => ?_, fun e h => ?_⟩
  · rw [← returns_iff content]
    exact exists_congr fun written => hresult files
  · have hsettled := hasSettled_of_ok ((hresult files).1 h)
    rw [← hfiles] at hsettled
    have hagain := writeBytes_of_read hsettled.held
    refine ⟨hsettled, ?_, ?_⟩
    · rw [hfiles, hagain]
    · rw [hresult, hagain]
  · cases hw : (writeBytes files path content).outcome with
    | error e' =>
      have hadds := addsDirectories_of_error hw
      rwa [← hfiles] at hadds
    | ok written => cases h.symm.trans ((hresult files).2 hw)

/-- A file in a directory that is made for it, and a path that comes to a directory which
    the write itself makes. -/
theorem only_changes_written_lines :
    let path := Path.ofString "gen/out.c"
    let after := (write .empty path "a;\nb;\n" "\r\n").1
    (write .empty path "a;\nb;\n" "\r\n").2.outcome.1 = .ok true ∧
      after.read path = .ok (bytesOfText "a;\r\nb;\r\n") ∧
      (write after path "a;\nb;\n" "\r\n").2.outcome.1 = .ok false ∧
      ∃ e, (write .empty (Path.ofString "new/..") "x" "\n").2.outcome.1 = .error e ∧
        AddsDirectories .empty (write .empty (Path.ofString "new/..") "x" "\n").1 := by
  intro path after
  obtain ⟨-, hreturned, -⟩ := only_changes_written .empty path "a;\nb;\n" "\r\n"
  obtain ⟨-, -, hfailed⟩ := only_changes_written .empty (Path.ofString "new/..") "x" "\n"
  have hok : (write .empty path "a;\nb;\n" "\r\n").2.outcome.1 = .ok true := by decide +kernel
  have hbytes : bytesOfText ("\r\n".intercalate (Text.splitString '\n' "a;\nb;\n")) =
      bytesOfText "a;\r\nb;\r\n" := congrArg bytesOfText (by decide +kernel)
  obtain ⟨hsettled, -, hagain⟩ := hreturned true hok
  refine ⟨hok, hbytes ▸ hsettled.held, hagain, ?_⟩
  cases hresult : (write .empty (Path.ofString "new/..") "x" "\n").2.outcome.1 with
  | error e => exact ⟨e, rfl, hfailed e hresult⟩
  | ok written => exact absurd hresult (by cases written <;> decide +kernel)

end CxxWriter.Source
