/-
  JSON objects in files of any content.

  * `objectOf`: what the bytes of a file come to, and `read_eq`: reading the file
    comes to this;
  * `IsReadable`: the bytes are those of a text in UTF-8 which does not nest too deep
    and has no integer with too many digits;
  * `documented_iff`: loading variables or settings from a file ends with the error
    that is meant for it, if with any, exactly if its bytes are readable, and for
    settings also unless custom ones are in the way.
-/
import CxxWriter.Proofs.Delivery
import CxxWriter.Proofs.Merge
import CxxWriter.Proofs.Reader

namespace CxxWriter

open Reporting (record_bind run_bind run_ofExcept_bind)

/-- A record that is kept of a result does not change it. -/
theorem Reporting.run_then_record {α : Type} (r : Reporting α) (level : Level)
    (component : Component) (message : String) (log : Log) :
    ((do let x ← r; record level component message; return x : Reporting α).run.run log).1 =
      (r.run.run log).1 := by
  rw [run_bind]
  rcases r.run.run log with ⟨_ | _, _⟩ <;> rfl

namespace Document

/-! ## What bytes come to -/

/-- The entries of the object that bytes are the text of; `error` words what is wrong
    with the text. -/
def objectOf (error : DocumentFault → Error) (bytes : ByteArray) :
    Except Error (List (String × Value)) :=
  match readableText? bytes with
  | none => .error (.value .notUtf8)
  | some text =>
    match Json.read text with
    | .ok (.dict entries) => .ok (Value.textEntries entries)
    | .ok _ => .error (error .notObject)
    | .error (.fault f line column position) => .error (error (.malformed f line column position))
    | .error .tooManyDigits => .error (.value .badValue)
    | .error .tooDeep => .error (.value .tooDeep)

/-- Are bytes the text of an object with these entries? -/
def Holds (bytes : ByteArray) (given : List (String × Value)) : Prop :=
  ∃ text, readableText? bytes = some text ∧ Json.read text = .ok (.dict (textKeyed given))

/-- Are bytes those of a text in UTF-8 that does not nest too deep and has no integer
    with too many digits? -/
def IsReadable (bytes : ByteArray) : Prop :=
  ∃ text, readableText? bytes = some text ∧ Json.read text ≠ .error .tooManyDigits ∧
    Json.read text ≠ .error .tooDeep

/-- The faults of bytes that are not readable. -/
def unreadableFaults : List ValueFault := [.notUtf8, .badValue, .tooDeep]

variable {bytes : ByteArray} (error : DocumentFault → Error)

theorem objectOf_ok {given : List (String × Value)} :
    objectOf error bytes = .ok given ↔ Holds bytes given := by
  unfold objectOf Holds
  cases readableText? bytes with
  | none => exact ⟨nofun, nofun⟩
  | some text =>
    dsimp only
    constructor
    · intro h
      split at h
      · next entries hr =>
        obtain ⟨l, rfl, -⟩ := Json.read_dict hr
        rw [textEntries_textKeyed] at h
        cases h
        exact ⟨text, rfl, hr⟩
      all_goals cases h
    · rintro ⟨_, ⟨⟩, hr⟩
      rw [hr]
      dsimp only
      rw [textEntries_textKeyed]

/-- What readable bytes come to: an object, or the error of a fault. -/
theorem objectOf_readable (h : IsReadable bytes) :
    (∃ l, objectOf error bytes = .ok l) ∨ ∃ fault, objectOf error bytes = .error (error fault) := by
  obtain ⟨text, htext, hdigits, hdeep⟩ := h
  rw [objectOf, htext]
  dsimp only
  split
  · exact .inl ⟨_, rfl⟩
  · exact .inr ⟨_, rfl⟩
  · exact .inr ⟨_, rfl⟩
  · next hr => exact absurd hr hdigits
  · next hr => exact absurd hr hdeep

/-- All other bytes come to an error of an operation on values, however errors of
    documents are worded. -/
theorem objectOf_unreadable (h : ¬ IsReadable bytes) :
    ∃ fault ∈ unreadableFaults, ∀ error, objectOf error bytes = .error (.value fault) := by
  unfold objectOf
  cases htext : readableText? bytes with
  | none => exact ⟨.notUtf8, by decide, fun _ => rfl⟩
  | some text =>
    dsimp only
    by_cases hdigits : Json.read text = .error .tooManyDigits
    · exact ⟨.badValue, by decide, fun _ => by rw [hdigits]⟩
    · by_cases hdeep : Json.read text = .error .tooDeep
      · exact ⟨.tooDeep, by decide, fun _ => by rw [hdeep]⟩
      · exact absurd ⟨text, htext, hdigits, hdeep⟩ h

/-- Among the errors of bytes are only those that are meant for a document, exactly if
    the bytes are readable. -/
theorem objectOf_documented_iff {IsMeant : Error → Prop} (hmeant : ∀ fault, IsMeant (error fault))
    (hvalue : ∀ fault, ¬ IsMeant (.value fault)) :
    (∀ e, objectOf error bytes = .error e → IsMeant e) ↔ IsReadable bytes := by
  constructor
  · intro h
    by_contra hr
    obtain ⟨fault, -, hf⟩ := objectOf_unreadable hr
    exact hvalue fault (h _ (hf error))
  · intro hr e he
    rcases objectOf_readable error hr with ⟨l, hl⟩ | ⟨fault, hf⟩
    · rw [hl] at he
      cases he
    · rw [hf] at he
      cases he
      exact hmeant fault

/-- The bytes of a tame text are readable. -/
theorem isReadable_tame {text : String} (htext : readableText? bytes = some text)
    (h : Json.IsTame Json.maxDepth text.toList) : IsReadable bytes :=
  ⟨text, htext, Json.read_tame h⟩

variable {words : DocumentWords} {files : Files} {path : Path}

/-- A file that can be read is there. -/
theorem pathExists_of_read (h : files.read path = .ok bytes) :
    files.pathExists path = .ok true := by
  unfold Files.read at h
  rw [Files.pathExists, Files.leadsTo]
  cases hl : files.lookup path with
  | ok e => rfl
  | error e => rw [hl] at h; cases h

/-- A file that can be read, and whose name has the suffix that it should have, comes
    to what its bytes are parsed as, if that is an object. -/
theorem read_eq_parse (hread : files.read path = .ok bytes)
    (hsuffix : ∀ s, words.suffix = some s → path.suffix.toLower = s) :
    Document.read words files path = parse words path bytes >>= fun v =>
      match v with
      | .dict entries => pure (Value.textEntries entries)
      | _ => fail words path .notObject := by
  have hw : (words.suffix.any fun s => path.suffix.toLower != s) = false := by
    cases hs : words.suffix with
    | none => rfl
    | some s =>
      show (path.suffix.toLower != s) = false
      rw [hsuffix s hs]
      exact bne_self_eq_false s
  unfold Document.read
  rw [pathExists_of_read hread, hread, hw]
  rfl

theorem read_eq (hread : files.read path = .ok bytes)
    (hsuffix : ∀ s, words.suffix = some s → path.suffix.toLower = s) (log : Log) :
    ((Document.read words files path).run.run log).1 = objectOf (words.error path) bytes := by
  rw [read_eq_parse hread hsuffix]
  unfold parse objectOf
  cases readableText? bytes with
  | none => rfl
  | some text =>
    dsimp only
    cases Json.read text with
    | ok v => cases v <;> rfl
    | error e => cases e <;> rfl

/-- The bytes of a text without other line ends than line feeds. -/
theorem holds_of_text {text : String} {given : List (String × Value)} (hn : Text.NoReturn text)
    (hr : Json.read text = .ok (.dict (textKeyed given))) : Holds (bytesOfText text) given :=
  ⟨text, hn.readableText?, hr⟩

theorem Holds.isReadable {given : List (String × Value)} (h : Holds bytes given) :
    IsReadable bytes := by
  obtain ⟨text, htext, hr⟩ := h
  exact ⟨text, htext, by rw [hr]; nofun, by rw [hr]; nofun⟩

theorem Holds.unique {given given' : List (String × Value)} (h : Holds bytes given)
    (h' : Holds bytes given') : given = given' := by
  rw [← objectOf_ok (.context default)] at h h'
  exact Except.ok.inj (h.symm.trans h')

theorem Holds.distinctKeys {given : List (String × Value)} (h : Holds bytes given) :
    DistinctKeys given := by
  obtain ⟨text, -, hr⟩ := h
  obtain ⟨l, hl, hd⟩ := Json.read_dict hr
  have heq : given = l := by rw [← textEntries_textKeyed given, hl, textEntries_textKeyed]
  rwa [heq]

/-- The values of a document can be written out. -/
theorem Holds.isWritable {given : List (String × Value)} (h : Holds bytes given)
    {e : String × Value} (he : e ∈ given) : e.2.isWritable = true := by
  obtain ⟨text, -, hr⟩ := h
  have hw := Json.read_isWritable hr
  rw [Value.isWritable, Json.areEntriesWritable_iff] at hw
  exact (hw (.text e.1, e.2) (List.mem_map.2 ⟨e, he, rfl⟩)).2

end Document

namespace Context

variable {files : Files} {path : Path} {bytes : ByteArray}

theorem load_eq (hread : files.read path = .ok bytes) :
    (load files path).outcome.1 = Document.objectOf (.context path) bytes := by
  have hsuffix : ∀ s, words.suffix = some s → path.suffix.toLower = s := nofun
  unfold load Reporting.outcome
  rw [record_bind, Reporting.run_then_record]
  exact Document.read_eq hread hsuffix _

end Context

namespace Config

variable {files : Files} {path : Path} {bytes : ByteArray} {given : List (String × Value)}

/-- The error of a fault of a file of settings. -/
def documentError (path : Path) (fault : DocumentFault) : Error := .config (.document path fault)

theorem readFile_eq (hread : files.read path = .ok bytes) (hs : path.suffix.toLower = ".json") :
    (readFile files path).outcome.1 = Document.objectOf (documentError path) bytes := by
  unfold readFile Reporting.outcome
  rw [Reporting.run_then_record]
  exact Document.read_eq hread (by rintro s ⟨⟩; exact hs) _

/-- Settings with values that can be written out are refused as settings. -/
theorem checked_error {value : Setting → Value}
    (h : ∀ s : Setting, s.hasKind (value s) = true ∨ (value s).isWritable = true) {e : Error}
    (he : checked value = .error e) : ∃ fault, e = .config fault := by
  unfold checked at he
  split at he
  · cases he
  · next s hs =>
    cases he
    refine kindError_eq_config.2 ((h s).resolve_left ?_)
    rw [hasKind_firstWrong? hs]
    exact Bool.false_ne_true

/-- A value of a setting is one that is given, or the default. -/
theorem valueOf_nil (given : List (String × Value)) (s : Setting) :
    valueOf given [] s = s.default ∨ (s.key, valueOf given [] s) ∈ given := by
  rw [valueOf]
  cases hv : valueAt s.key given with
  | none => exact .inl rfl
  | some v => exact .inr (mem_of_valueAt hv)

/-- What entries without overrides come to is refused as settings, if at all, exactly
    if the custom ones are not in the way of those that are no settings. -/
theorem settled_documented_iff (hg : DistinctKeys given)
    (hw : ∀ e ∈ given, e.2.isWritable = true) :
    (∀ e, settled (merge given []) = .error e → ∃ fault, e = .config fault) ↔
      unknownEntries given = [] ∨ IsExtensible (valueOf given [] .custom) := by
  have ho : DistinctKeys [] := List.nodup_nil
  have hwritable (s : Setting) : (valueOf given [] s).isWritable = true := by
    rcases valueOf_nil given s with h | h
    · rw [h]
      cases s <;> decide +kernel
    · exact hw _ h
  have hchecked {custom : Value}
      (hc : Setting.custom.hasKind custom = true ∨ custom.isWritable = true) {e : Error}
      (he : checked (settingsOf (merge given []) custom) = .error e) :
      ∃ fault, e = .config fault := by
    refine checked_error (fun s => ?_) he
    rw [settingsOf_merge hg ho]
    dsimp only
    split
    · next h => exact h ▸ hc
    · exact .inr (hwritable s)
  have hunknown : setKeys (unknownEntries given) (unknownEntries []) = unknownEntries given := rfl
  rw [settled, customOf_merge hg ho, hunknown]
  by_cases hu : unknownEntries given = []
  · rw [if_pos (List.isEmpty_iff.2 hu)]
    exact ⟨fun _ => .inl hu, fun _ e he => hchecked (.inr (hwritable .custom)) he⟩
  · rw [if_neg fun h => hu (List.isEmpty_iff.1 h), or_iff_right hu]
    by_cases hx : IsExtensible (valueOf given [] .custom)
    · obtain ⟨es, hes⟩ := extendCustom_extensible hx (unknownEntries given)
      rw [hes]
      exact ⟨fun _ => hx, fun _ e he => hchecked (.inl rfl) he⟩
    · obtain ⟨fault, hf⟩ := extendCustom_not_extensible hx (unknownEntries given)
      rw [hf]
      refine ⟨fun h => ?_, fun h => absurd h hx⟩
      obtain ⟨_, he⟩ := h _ rfl
      cases he

/-- What loading settings from a file comes to. -/
theorem load_file_eq (hread : files.read path = .ok bytes) (hs : path.suffix.toLower = ".json") :
    (load files [] (some path)).outcome.1 =
      Document.objectOf (documentError path) bytes >>= fun given => settled (merge given []) := by
  have hfile := readFile_eq hread hs
  cases h : Document.objectOf (documentError path) bytes with
  | ok given =>
    rw [h] at hfile
    exact load_eq (show Provides files (some path) given from hfile) []
  | error e =>
    rw [h] at hfile
    unfold load Reporting.outcome at *
    rw [run_bind]
    rcases hrun : (readFile files path).run.run [] with ⟨o, log⟩
    rw [hrun] at hfile
    cases hfile
    rfl

/-- What bytes come to as settings is refused as settings, if at all, exactly if they
    are readable and custom settings are not in the way. -/
theorem loaded_documented_iff :
    (∀ e, (Document.objectOf (documentError path) bytes >>= fun given =>
        settled (merge given [])) = .error e → ∃ fault, e = .config fault) ↔
      Document.IsReadable bytes ∧ ∀ given, Document.Holds bytes given →
        unknownEntries given = [] ∨ IsExtensible (valueOf given [] .custom) := by
  have hdocument : (∀ e, Document.objectOf (documentError path) bytes = .error e →
      ∃ fault, e = .config fault) ↔ Document.IsReadable bytes :=
    Document.objectOf_documented_iff _ (fun _ => ⟨_, rfl⟩) (fun _ => by rintro ⟨_, ⟨⟩⟩)
  rw [← hdocument]
  cases h : Document.objectOf (documentError path) bytes with
  | error e =>
    have hnone (given : List (String × Value)) : ¬ Document.Holds bytes given := by
      rw [← Document.objectOf_ok (documentError path), h]
      nofun
    refine ⟨fun hall => ⟨?_, fun given hgiven => absurd hgiven (hnone given)⟩, fun hall => ?_⟩
    · rintro _ ⟨⟩
      exact hall e rfl
    · rintro _ ⟨⟩
      exact hall.1 e rfl
  | ok given =>
    have hgiven : Document.Holds bytes given := (Document.objectOf_ok _).1 h
    show (∀ e, settled (merge given []) = .error e → _) ↔ _
    rw [settled_documented_iff hgiven.distinctKeys fun e he => hgiven.isWritable he]
    exact ⟨fun hc => ⟨nofun, fun l hl => hgiven.unique hl ▸ hc⟩, fun hall => hall.2 given hgiven⟩

end Config

/-- **What loading a file of any bytes ends with.**  Variables are loaded from it, or
    the error is one of the file, exactly if the bytes are readable; they are loaded
    if the bytes are the text of an object, and are its entries.  The same holds for
    settings, unless their custom ones cannot be extended by entries that are no
    settings.  With bytes that are not readable both end with an error of an operation
    on values.  The bytes of tame texts are readable. -/
theorem documented_iff {files : Files} {path : Path} {bytes : ByteArray}
    (hread : files.read path = .ok bytes) :
    ((∀ e, (Context.load files path).outcome.1 = .error e → ∃ fault, e = .context path fault) ↔
      Document.IsReadable bytes) ∧
    (∀ given, (Context.load files path).outcome.1 = .ok given ↔ Document.Holds bytes given) ∧
    (path.suffix.toLower = ".json" →
      ((∀ e, (Config.load files [] (some path)).outcome.1 = .error e → ∃ fault, e = .config fault) ↔
        Document.IsReadable bytes ∧ ∀ given, Document.Holds bytes given →
          Config.unknownEntries given = [] ∨
            Config.IsExtensible (Config.valueOf given [] .custom))) ∧
    (¬ Document.IsReadable bytes → ∃ fault ∈ Document.unreadableFaults,
      (Context.load files path).outcome.1 = .error (.value fault) ∧
      (path.suffix.toLower = ".json" →
        (Config.load files [] (some path)).outcome.1 = .error (.value fault))) ∧
    (∀ text, readableText? bytes = some text → Json.IsTame Json.maxDepth text.toList →
      Document.IsReadable bytes) := by
  rw [Context.load_eq hread]
  refine ⟨Document.objectOf_documented_iff _ (fun _ => ⟨_, rfl⟩) (fun _ => by rintro ⟨_, ⟨⟩⟩),
    fun given => Document.objectOf_ok _, fun hs => ?_, fun h => ?_,
    fun text => Document.isReadable_tame⟩
  · rw [Config.load_file_eq hread hs]
    exact Config.loaded_documented_iff
  · obtain ⟨fault, hmem, hf⟩ := Document.objectOf_unreadable h
    refine ⟨fault, hmem, hf _, fun hs => ?_⟩
    rw [Config.load_file_eq hread hs, hf]
    rfl

/-- A file with a text: loaded as variables, and as settings with a custom one. -/
theorem documented_owner :
    let path := Path.ofString "builder.json"
    let text := "\x7b\"owner\": \"tools\"\x7d"
    let files : Files := ⟨[], [(["builder.json"], .file (bytesOfText text))]⟩
    files.read path = .ok (bytesOfText text) ∧
      (Context.load files path).outcome.1 = .ok [("owner", .text "tools")] ∧
      ∀ e, (Config.load files [] (some path)).outcome.1 = .error e → ∃ fault, e = .config fault := by
  intro path text files
  have hread : files.read path = .ok (bytesOfText text) :=
    (Files.read_write (Config.write_builder (bytesOfText text))).1
  have hs : path.suffix.toLower = ".json" := by decide +kernel
  have hholds : Document.Holds (bytesOfText text) [("owner", .text "tools")] :=
    Document.holds_of_text (by decide) (Json.read_of_readsAs (by decide +kernel))
  obtain ⟨-, hgives, hsettings, -, -⟩ := documented_iff hread
  refine ⟨hread, (hgives _).2 hholds, (hsettings hs).2 ⟨hholds.isReadable, fun given hgiven => ?_⟩⟩
  rw [hgiven.unique hholds]
  exact .inr (.inl rfl)

/-- Not every error of a file of variables is one that is meant for it: a byte that is
    no text in UTF-8 is an error of its own. -/
theorem not_documented :
    ¬ ∀ (files : Files) (path : Path) (bytes : ByteArray), files.read path = .ok bytes →
      ∀ e, (Context.load files path).outcome.1 = .error e → ∃ fault, e = .context path fault := by
  intro h
  let files : Files := ⟨[], [(["builder.json"], .file ⟨#[0xff]⟩)]⟩
  have hread : files.read (Path.ofString "builder.json") = .ok ⟨#[0xff]⟩ :=
    (Files.read_write (Config.write_builder ⟨#[0xff]⟩)).1
  have htext : readableText? ⟨#[0xff]⟩ = none := Option.isNone_iff_eq_none.1 (by decide +kernel)
  obtain ⟨fault, hf⟩ := h files _ _ hread (.value .notUtf8)
    (by rw [Context.load_eq hread, Document.objectOf, htext])
  cases hf

end CxxWriter
