/-
  Saving settings, whatever they hold.

  * `Files.get?_write`, `Files.write_unchanged_iff`: what a write to a file changes;
  * `Value.mem_updateEntries_iff`: what stands in a dictionary after it has been
    updated by another;
  * `Value.eq_of_keyName`: the text of a key tells settings from all else;
  * `HoldsSettings`, `holdsSettings_saved`: the settings are found in the document
    that a saved file holds;
  * `saved_or_unchanged_iff`: saving is all or nothing exactly if all that is saved
    can be written, or the file held already what is written up to the first value
    that cannot.
-/
import Mathlib.Data.List.Nodup
import CxxWriter.Proofs.Documents
import CxxWriter.Proofs.Form
import CxxWriter.Proofs.Places

namespace CxxWriter

/-! ## Writing a file -/

namespace Files

variable {f g : Files} {path : Path} {content : ByteArray}

/-- Only the place that the path leads to is changed. -/
theorem get?_write (h : f.write path content = .ok g) : ∃ place,
    f.locate path = .ok place ∧
      ∀ q, g.get? q = if place = q then some (.file content) else f.get? q := by
  obtain ⟨place, hl, hfree, rfl⟩ := write_eq_ok.1 h
  exact ⟨place, hl, get?_set f _ (not_above_of_get? hfree)⟩

theorem read_iff {place : List String} (hl : f.locate path = .ok place) :
    f.read path = .ok content ↔ f.get? place = some (.file content) := by
  constructor
  · intro h
    obtain ⟨q, hq, hentry⟩ := place_of_read h
    rw [hl] at hq
    cases hq
    exact hentry
  · intro h
    rw [read, lookup, hl]
    dsimp only
    rw [h]

/-- A file that has been written can be written again. -/
theorem isWritable_write (h : f.write path content = .ok g) : g.IsWritable path := by
  obtain ⟨place, hl, hwrites⟩ := writesTo_of_write (.refl f) h
  have hfree : g.get? place ≠ some .directory := by
    rw [hwrites.entry]
    nofun
  exact isWritable_iff.2 ⟨place, hl, hfree⟩

/-- Writing a file changes nothing exactly if it held the same before. -/
theorem write_unchanged_iff (h : f.write path content = .ok g) :
    (∀ q, g.get? q = f.get? q) ↔ f.read path = .ok content := by
  obtain ⟨place, hl, hg⟩ := get?_write h
  rw [read_iff hl]
  constructor
  · intro hsame
    rw [← hsame place, hg, if_pos rfl]
  · intro hheld q
    rw [hg]
    split
    · next hq => rw [← hq, hheld]
    · rfl

end Files

/-! ## Dictionaries that are updated -/

namespace Value

variable {es fs : List (Value × Value)} {k v : Value} {x : Value × Value}

section Insert

variable (hes : DistinctEntries es) (hsame : ∀ e ∈ es, e.1.same k = true → e.1 = k)

include hes hsame

/-- What stands in a dictionary after a value has been set under a key: the new entry,
    and those with other keys. -/
theorem mem_insertEntry_iff :
    x ∈ insertEntry k v es ↔ x = (k, v) ∨ x ∈ es ∧ x.1.same k = false := by
  induction es with
  | nil => simp [insertEntry]
  | cons e es ih =>
    obtain ⟨hnew, hes⟩ := List.pairwise_cons.1 hes
    rw [insertEntry]
    by_cases he : e.1.same k = true
    · have hk : e.1 = k := hsame e List.mem_cons_self he
      -- a second entry with the key would not be distinct from `e`
      have hrest : ∀ y ∈ es, y.1.same k = false := by
        intro y hy
        by_contra h
        have hyk : y.1 = k := hsame y (List.mem_cons_of_mem e hy) (by simpa using h)
        have hne := hnew y hy
        rw [hyk, he] at hne
        cases hne
      rw [if_pos he, hk, List.mem_cons, List.mem_cons]
      refine or_congr_right ⟨fun hx => ⟨.inr hx, hrest x hx⟩, ?_⟩
      rintro ⟨rfl | hx, hn⟩
      · rw [he] at hn
        cases hn
      · exact hx
    · rw [if_neg he, List.mem_cons, List.mem_cons,
        ih hes fun y hy => hsame y (List.mem_cons_of_mem e hy)]
      constructor
      · rintro (rfl | hx | ⟨hx, hn⟩)
        · exact .inr ⟨.inl rfl, by simpa using he⟩
        · exact .inl hx
        · exact .inr ⟨.inr hx, hn⟩
      · rintro (hx | ⟨rfl | hx, hn⟩)
        · exact .inr (.inl hx)
        · exact .inl rfl
        · exact .inr (.inr ⟨hx, hn⟩)

theorem DistinctEntries.insertEntry (v : Value) : DistinctEntries (insertEntry k v es) := by
  induction es with
  | nil => exact List.pairwise_singleton _ _
  | cons e es ih =>
    obtain ⟨hnew, hrest⟩ := List.pairwise_cons.1 hes
    have hsame' : ∀ y ∈ es, y.1.same k = true → y.1 = k := fun y hy =>
      hsame y (List.mem_cons_of_mem e hy)
    rw [Value.insertEntry]
    split
    · exact List.pairwise_cons.2 ⟨hnew, hrest⟩
    · next he =>
      refine List.pairwise_cons.2 ⟨fun y hy => ?_, ih hrest hsame'⟩
      rcases (mem_insertEntry_iff hrest hsame').1 hy with rfl | ⟨hy, -⟩
      · simpa using he
      · exact hnew y hy

end Insert

/-- What stands in a dictionary that has been updated: the new entries, and those with
    other keys. -/
theorem mem_updateEntries_iff (hes : DistinctEntries es) (hfs : DistinctEntries fs)
    (hsame : ∀ e ∈ es, ∀ f ∈ fs, e.1.same f.1 = true → e.1 = f.1) :
    x ∈ updateEntries es fs ↔ x ∈ fs ∨ x ∈ es ∧ ∀ f ∈ fs, x.1.same f.1 = false := by
  induction fs generalizing es with
  | nil => simp [updateEntries]
  | cons f fs ih =>
    obtain ⟨hnew, hfs⟩ := List.pairwise_cons.1 hfs
    have hf : ∀ e ∈ es, e.1.same f.1 = true → e.1 = f.1 := fun e he =>
      hsame e he f List.mem_cons_self
    have hmem {y : Value × Value} := mem_insertEntry_iff (v := f.2) (x := y) hes hf
    have hsame' : ∀ e ∈ insertEntry f.1 f.2 es, ∀ g ∈ fs, e.1.same g.1 = true → e.1 = g.1 := by
      intro e he g hg h
      rcases hmem.1 he with rfl | ⟨he, -⟩
      · rw [hnew g hg] at h
        cases h
      · exact hsame e he g (List.mem_cons_of_mem f hg) h
    show x ∈ updateEntries (insertEntry f.1 f.2 es) fs ↔ _
    rw [ih (hes.insertEntry hf f.2) hfs hsame', hmem, List.mem_cons, List.forall_mem_cons]
    constructor
    · rintro (hx | ⟨rfl | ⟨hx, hn⟩, hall⟩)
      · exact .inl (.inr hx)
      · exact .inl (.inl rfl)
      · exact .inr ⟨hx, hn, hall⟩
    · rintro ((rfl | hx) | ⟨hx, hn, hall⟩)
      · exact .inr ⟨.inl rfl, hnew⟩
      · exact .inl hx
      · exact .inr ⟨.inr ⟨hx, hn⟩, hall⟩

/-- An entry stays while values are set under other keys. -/
theorem mem_insertEntry_of_ne (hx : x ∈ es) (h : x.1.same k = false) : x ∈ insertEntry k v es := by
  induction es with
  | nil => cases hx
  | cons e es ih =>
    rw [insertEntry]
    rcases List.mem_cons.1 hx with rfl | hx
    · rw [h]
      exact List.mem_cons_self
    · split
      · exact List.mem_cons_of_mem _ hx
      · exact List.mem_cons_of_mem e (ih hx)

theorem mem_updateEntries_of_ne (hx : x ∈ es) (h : ∀ f ∈ fs, x.1.same f.1 = false) :
    x ∈ updateEntries es fs := by
  induction fs generalizing es with
  | nil => exact hx
  | cons f fs ih =>
    obtain ⟨hf, hfs⟩ := List.forall_mem_cons.1 h
    exact ih (mem_insertEntry_of_ne hx hf) hfs

theorem distinctEntries_textKeyed {l : List (String × Value)} (h : DistinctKeys l) :
    DistinctEntries (textKeyed l) := by
  refine List.pairwise_map.2 ((List.pairwise_map.1 h).imp fun hne => ?_)
  rwa [same_text, beq_eq_false_iff_ne]

/-! ## The texts of keys -/

/-- The text of a number is not the key of a setting. -/
theorem number_ne_key {whole : List Char} (hw : AreDigits whole) (negative : Bool) (rest : List Char)
    (s : Setting) : Json.signText negative ++ (whole ++ rest) ≠ s.key.toList := by
  have hkey : s.key.toList.head?.any (fun c => c.isDigit || c == '-') = false := by
    cases s <;> decide
  intro h
  rw [← h] at hkey
  cases negative with
  | true => cases hkey
  | false =>
    obtain ⟨d, ds, rfl⟩ := List.exists_cons_of_ne_nil hw.nonempty
    have hd : (d.isDigit || d == '-') = false := hkey
    rw [hw.digits d List.mem_cons_self] at hd
    cases hd

/-- Only the key of a setting itself is written as that key. -/
theorem eq_of_keyName {s : Setting} (h : k.keyName = s.key) : k = .text s.key := by
  have hother {t : String} (ht : t ∈ ["", "null", "true", "false", "NaN", "Infinity", "-Infinity"]) :
      t ≠ s.key := by
    rintro rfl
    revert ht
    cases s <;> decide
  cases k with
  | text t => exact congrArg Value.text h
  | null => exact absurd h (hother (by decide))
  | bool b => cases b <;> exact absurd h (hother (by decide))
  | int n =>
    rw [keyName, Json.keyText] at h
    split at h
    · next t ht =>
      split at ht
      · cases ht
        refine absurd ?_ (number_ne_key (areDigits_toDigits n.natAbs) (decide (n < 0)) [] s)
        rw [← h, Json.toList_int, List.append_nil]
      · cases ht
    · exact absurd h (hother (by decide))
  | float x =>
    have htext : Json.floatText x = s.key := h
    rcases Json.floatText_starts x with hword | ⟨negative, whole, rest, hw, hcs⟩
    · exact absurd htext (hother (List.mem_append_right ["", "null", "true", "false"] hword))
    · rw [htext] at hcs
      exact absurd hcs.symm (number_ne_key hw negative rest s)
  | _ => exact absurd h (hother List.mem_cons_self)

theorem formEntries_eq_map (es : List (Value × Value)) :
    formEntries es = es.map fun e => (e.1.keyName, e.2.form) := by
  induction es with
  | nil => rfl
  | cons e es ih => rw [formEntries, ih, List.map_cons]

end Value

/-- A value that all entries with a key have is found under it. -/
theorem valueAt_setKeys_same {a b : List (String × Value)} {key : String} {v : Value}
    (h : ∀ e ∈ b, e.1 = key → e.2 = v) :
    valueAt key (setKeys a b) = if key ∈ b.map (·.1) then some v else valueAt key a := by
  induction b generalizing a with
  | nil => rfl
  | cons e b ih =>
    obtain ⟨he, hb⟩ := List.forall_mem_cons.1 h
    show valueAt key (setKeys (setKey e.1 e.2 a) b) = _
    rw [ih hb, valueAt_setKey, List.map_cons]
    by_cases hk : e.1 = key
    · rw [if_pos hk, he hk, ite_self, if_pos (List.mem_cons.2 (.inl hk.symm))]
    · simp only [if_neg hk, List.mem_cons, Ne.symm hk, false_or]

theorem Setting.key_injective {s t : Setting} (h : s.key = t.key) : s = t := by
  revert h
  cases s <;> cases t <;> decide

namespace Config

variable {c : Config} {files : Files} {path : Path} {entries more : List (Value × Value)}

/-! ## The document of settings -/

/-- The entries of the document that is read of saved entries. -/
def savedForm (entries : List (Value × Value)) : List (String × Value) :=
  setKeys [] (Value.formEntries entries)

/-- Are all settings found in a document?  A custom setting takes the place of one whose
    key it has.  Custom settings are told apart by the texts of their keys. -/
structure HoldsSettings (c : Config) (doc : List (String × Value)) : Prop where
  own : ∀ s, s ≠ .custom →
    (∀ more, entriesOf c.custom = .ok more → ∀ e ∈ more, e.1 ≠ .text s.key) →
    valueAt s.key doc = some (c.get s).form
  custom : ∀ more, entriesOf c.custom = .ok more → Value.DistinctEntries more →
    (more.map (·.1.keyName)).Nodup → ∀ e ∈ more, valueAt e.1.keyName doc = some e.2.form

theorem mem_ownEntries {x : Value × Value} : x ∈ textKeyed c.ownEntries ↔
    ∃ s, s ≠ .custom ∧ x = (.text s.key, c.get s) := by
  constructor
  · intro h
    obtain ⟨e, he, rfl⟩ := List.mem_map.1 h
    obtain ⟨s, hs, rfl⟩ := List.mem_map.1 he
    exact ⟨s, by simpa using (List.mem_filter.1 hs).2, rfl⟩
  · rintro ⟨s, hs, rfl⟩
    exact List.mem_map.2 ⟨(s.key, c.get s),
      List.mem_map.2 ⟨s, List.mem_filter.2 ⟨mem_all s, by simpa using hs⟩, rfl⟩, rfl⟩

theorem distinctEntries_own (c : Config) : Value.DistinctEntries (textKeyed c.ownEntries) :=
  Value.distinctEntries_textKeyed (distinctKeys_saved c [])

/-- What is found under a text in the document of saved entries: the value of all those
    whose keys have that text. -/
theorem valueAt_savedForm {x : Value × Value} (hx : x ∈ entries)
    (h : ∀ y ∈ entries, y.1.keyName = x.1.keyName → y.2 = x.2) :
    valueAt x.1.keyName (savedForm entries) = some x.2.form := by
  rw [savedForm, Value.formEntries_eq_map, valueAt_setKeys_same (v := x.2.form), if_pos]
  · rw [List.map_map]
    exact List.mem_map_of_mem hx
  · intro e he hkey
    obtain ⟨y, hy, rfl⟩ := List.mem_map.1 he
    exact congrArg Value.form (h y hy hkey)

/-- A setting is found in the document, unless a custom one has its key. -/
theorem own_saved {s : Setting} (hs : s ≠ .custom) (hfree : ∀ e ∈ more, e.1 ≠ .text s.key) :
    valueAt s.key (savedForm (Value.updateEntries (textKeyed c.ownEntries) more)) =
      some (c.get s).form := by
  have hne : ∀ e ∈ more, (Value.text s.key).same e.1 = false := by
    intro e he
    rw [Value.text_same]
    by_contra hsame
    exact hfree e he (Value.same_text_iff.1 (by simpa using hsame))
  have hown : (Value.text s.key, c.get s) ∈ textKeyed c.ownEntries := mem_ownEntries.2 ⟨s, hs, rfl⟩
  refine valueAt_savedForm (Value.mem_updateEntries_of_ne hown hne) fun y hy hkey => ?_
  obtain ⟨k, v⟩ := y
  cases Value.eq_of_keyName hkey
  rcases mem_updateEntries hy with hown | ⟨e, he, -, hk⟩
  · obtain ⟨t, -, ht⟩ := mem_ownEntries.1 hown
    obtain ⟨htext, rfl⟩ := Prod.mk.inj ht
    rw [Setting.key_injective (Value.text.inj htext)]
  · rcases hk with hk | hk
    · exact absurd hk.symm (hfree e he)
    · rw [hne e he] at hk
      cases hk

/-- A custom setting is found in the document, if no other one has a key with the same
    text. -/
theorem custom_saved (hd : Value.DistinctEntries more) (hnames : (more.map (·.1.keyName)).Nodup)
    {e : Value × Value} (he : e ∈ more) :
    valueAt e.1.keyName (savedForm (Value.updateEntries (textKeyed c.ownEntries) more)) =
      some e.2.form := by
  have hsame : ∀ x ∈ textKeyed c.ownEntries, ∀ f ∈ more, x.1.same f.1 = true → x.1 = f.1 := by
    intro x hx f _ h
    obtain ⟨s, -, rfl⟩ := mem_ownEntries.1 hx
    rw [Value.text_same] at h
    exact (Value.same_text_iff.1 h).symm
  have hmem {x : Value × Value} :=
    Value.mem_updateEntries_iff (x := x) (distinctEntries_own c) hd hsame
  refine valueAt_savedForm (hmem.2 (.inl he)) fun y hy hkey => ?_
  rcases hmem.1 hy with hy | ⟨hown, hne⟩
  · rw [List.inj_on_of_nodup_map hnames hy he hkey]
  · -- an entry of a setting with the text of a custom key has been replaced
    obtain ⟨s, -, rfl⟩ := mem_ownEntries.1 hown
    have hk : e.1 = .text s.key := Value.eq_of_keyName hkey.symm
    have h := hne e he
    rw [hk, same_text, beq_self_eq_true] at h
    cases h

theorem holdsSettings_saved (h : c.savedEntries = .ok entries) :
    HoldsSettings c (savedForm entries) := by
  obtain ⟨-, more, hmore, rfl⟩ := savedEntries_ok.1 h
  exact ⟨fun s hs hfree => own_saved hs (hfree more hmore), fun more' hmore' hd hnames e he => by
    cases hmore.symm.trans hmore'
    exact custom_saved hd hnames he⟩

/-! ## What saving comes to -/

/-- Has something been written to a file, up to the fault that writing has stopped at,
    and nothing else been changed? -/
structure HasWritten (files : Files) (path : Path) (w : Json.Written) (saved : Saved) : Prop where
  read : saved.files.read path = .ok (bytesOfText w.text)
  other : ∃ place, files.locate path = .ok place ∧
    ∀ q, q ≠ place → saved.files.get? q = files.get? q
  outcome : saved.outcome.outcome.1 =
    match w.fault with
    | none => .ok ()
    | some f => .error (.value f)

/-- Is a text a whole document that can be read again, in which all settings are found? -/
structure IsDocumentOf (c : Config) (entries : List (Value × Value)) (text : String) : Prop where
  document : Json.IsDocument text (.dict (textKeyed (savedForm entries)))
  readable : Document.Holds (bytesOfText text) (savedForm entries)
  settings : HoldsSettings c (savedForm entries)

/-- What is saved if it comes to a write. -/
theorem save_of_write (hentries : c.savedEntries = .ok entries) {g : Files}
    (hg : files.write path (bytesOfText (Json.write (.dict entries)).text) = .ok g) :
    (c.save files path).files = g ∧ (c.save files path).outcome.outcome.1 =
      match (Json.write (.dict entries)).fault with
      | none => .ok ()
      | some f => .error (.value f) := by
  rw [save, hentries]
  dsimp only
  rw [hg]
  dsimp only
  refine ⟨rfl, ?_⟩
  cases (Json.write (.dict entries)).fault <;> rfl

theorem hasWritten_save (hentries : c.savedEntries = .ok entries) (hw : files.IsWritable path) :
    HasWritten files path (Json.write (.dict entries)) (c.save files path) := by
  obtain ⟨g, hg⟩ := hw (bytesOfText (Json.write (.dict entries)).text)
  obtain ⟨hfiles, houtcome⟩ := save_of_write hentries hg
  obtain ⟨place, hl, hplace⟩ := Files.get?_write hg
  refine ⟨by rw [hfiles, (Files.read_write hg).1], ⟨place, hl, fun q hq => ?_⟩, houtcome⟩
  rw [hfiles, hplace, if_neg (Ne.symm hq)]

/-- Saving fails and changes nothing if it does not come to a write. -/
theorem save_unwritten (h : ∀ entries, c.savedEntries = .ok entries → ¬ files.IsWritable path) :
    (c.save files path).files = files ∧ ∃ e, (c.save files path).outcome.outcome.1 = .error e := by
  rw [save]
  cases hentries : c.savedEntries with
  | error e => exact ⟨rfl, e, rfl⟩
  | ok entries =>
    obtain ⟨e, he⟩ := Files.write_error (h entries hentries)
      (bytesOfText (Json.write (.dict entries)).text)
    dsimp only
    rw [he]
    dsimp only
    split <;> exact ⟨rfl, _, rfl⟩

/-- Saving returns exactly if all that is to be saved can be written, and files can be
    written at the path. -/
theorem returned_iff : (c.save files path).outcome.outcome.1 = .ok () ↔
    ∃ entries, c.savedEntries = .ok entries ∧ files.IsWritable path ∧
      (Value.dict entries).isSerializable = true := by
  by_cases hwritten : ∃ entries, c.savedEntries = .ok entries ∧ files.IsWritable path
  · obtain ⟨entries, hentries, hw⟩ := hwritten
    rw [(hasWritten_save hentries hw).outcome]
    constructor
    · intro h
      split at h
      · next hfault => exact ⟨entries, hentries, hw, (Json.write_complete_iff _).1 hfault⟩
      · cases h
    · rintro ⟨entries', hentries', -, hs⟩
      cases hentries.symm.trans hentries'
      rw [(Json.write_complete_iff _).2 hs]
  · obtain ⟨-, e, he⟩ := save_unwritten fun entries hentries hw => hwritten ⟨entries, hentries, hw⟩
    rw [he]
    exact ⟨nofun, fun ⟨entries, hentries, hw, _⟩ => absurd ⟨entries, hentries, hw⟩ hwritten⟩

/-- Saving that fails changes nothing exactly if it does not come to a write, or writes
    what the file holds already. -/
theorem unchanged_iff :
    (∀ e, (c.save files path).outcome.outcome.1 = .error e →
        ∀ place, (c.save files path).files.get? place = files.get? place) ↔
      ∀ entries, c.savedEntries = .ok entries → files.IsWritable path →
        (Value.dict entries).isSerializable = true ∨
          files.read path = .ok (bytesOfText (Json.write (.dict entries)).text) := by
  by_cases hwritten : ∃ entries, c.savedEntries = .ok entries ∧ files.IsWritable path
  · obtain ⟨entries, hentries, hw⟩ := hwritten
    obtain ⟨g, hg⟩ := hw (bytesOfText (Json.write (.dict entries)).text)
    obtain ⟨hfiles, houtcome⟩ := save_of_write hentries hg
    rw [hfiles, houtcome, Files.write_unchanged_iff hg]
    constructor
    · intro h entries' hentries' _
      cases hentries.symm.trans hentries'
      cases hfault : (Json.write (.dict entries)).fault with
      | none => exact .inl ((Json.write_complete_iff _).1 hfault)
      | some f => exact .inr (h (.value f) (by rw [hfault]))
    · intro h e he
      rcases h entries hentries hw with hs | hread
      · rw [(Json.write_complete_iff _).2 hs] at he
        cases he
      · exact hread
  · obtain ⟨hfiles, -⟩ := save_unwritten fun entries hentries hw => hwritten ⟨entries, hentries, hw⟩
    rw [hfiles]
    exact ⟨fun _ entries hentries hw => absurd ⟨entries, hentries, hw⟩ hwritten, fun _ _ _ _ => rfl⟩

theorem isDocumentOf_write (hentries : c.savedEntries = .ok entries)
    (hs : (Value.dict entries).isSerializable = true) :
    IsDocumentOf c entries (Json.write (.dict entries)).text where
  document := Json.isDocument_write hs
  readable := ⟨_, (Json.noReturn_write _).readableText?, Json.read_write hs (height_saved hentries)⟩
  settings := holdsSettings_saved hentries

/-- **When saving is all or nothing.**  If it fails, all files are as they were, exactly
    if it does not come to a write: the settings cannot be copied, the custom ones are no
    entries or files cannot be written at the path; or if all that is saved can be written; or if the file held
    already what is written up to the first value that cannot be.  It returns exactly
    if it comes to a write and all can be written.  What is written is what the file
    holds afterwards, and no other file is changed; if saving returns, that is a whole
    document, in which all settings are found. -/
theorem saved_or_unchanged_iff (c : Config) (files : Files) (path : Path) :
    ((∀ e, (c.save files path).outcome.outcome.1 = .error e →
        ∀ place, (c.save files path).files.get? place = files.get? place) ↔
      ∀ entries, c.savedEntries = .ok entries → files.IsWritable path →
        (Value.dict entries).isSerializable = true ∨
          files.read path = .ok (bytesOfText (Json.write (.dict entries)).text)) ∧
    ((c.save files path).outcome.outcome.1 = .ok () ↔
      ∃ entries, c.savedEntries = .ok entries ∧ files.IsWritable path ∧
        (Value.dict entries).isSerializable = true) ∧
    ∀ entries, c.savedEntries = .ok entries →
      (files.IsWritable path → HasWritten files path (Json.write (.dict entries)) (c.save files path)) ∧
      ((c.save files path).outcome.outcome.1 = .ok () →
        IsDocumentOf c entries (Json.write (.dict entries)).text) := by
  refine ⟨unchanged_iff, returned_iff, fun entries hentries => ⟨hasWritten_save hentries, fun h => ?_⟩⟩
  obtain ⟨entries', hentries', -, hs⟩ := returned_iff.1 h
  cases hentries.symm.trans hentries'
  exact isDocumentOf_write hentries hs

/-- Settings with a custom one are saved: the file holds a document with all of them. -/
theorem saved_or_unchanged_vendor :
    let c := { default with custom := .dict [(.text "vendor", .text "acme")] }
    let path := Path.ofString "saved.json"
    (c.save Files.empty path).outcome.outcome.1 = .ok () ∧
      ∃ bytes doc, (c.save Files.empty path).files.read path = .ok bytes ∧ Document.Holds bytes doc ∧
        valueAt "indent_size" doc = some (.int 4) ∧ valueAt "vendor" doc = some (.text "acme") := by
  intro c path
  obtain ⟨-, hreturned, hentries⟩ := saved_or_unchanged_iff c Files.empty path
  have hcustom : entriesOf c.custom = .ok [(.text "vendor", .text "acme")] := rfl
  obtain ⟨entries, hsaved⟩ : ∃ entries, c.savedEntries = .ok entries := ⟨_, rfl⟩
  have hs : (Value.dict entries).isSerializable = true := by
    cases hsaved
    decide +kernel
  have hok := hreturned.2 ⟨entries, hsaved, isWritable_saved, hs⟩
  obtain ⟨hwritten, hdocument⟩ := hentries entries hsaved
  refine ⟨hok, _, savedForm entries, (hwritten isWritable_saved).read,
    (hdocument hok).readable, ?_, ?_⟩
  · refine (hdocument hok).settings.own .indentSize nofun fun more hmore e he => ?_
    cases hcustom.symm.trans hmore
    cases List.mem_singleton.1 he
    exact fun h => absurd (Value.text.inj h) (by decide)
  · exact (hdocument hok).settings.custom _ hcustom (List.pairwise_singleton _ _)
      (List.nodup_singleton _) _ List.mem_cons_self

/-- Saving is not always all or nothing: a custom setting that cannot be written takes
    its place in the file of what stood there. -/
theorem saved_partly :
    ¬ ∀ (c : Config) (files : Files) (path : Path) (e : Error),
      (c.save files path).outcome.outcome.1 = .error e →
        ∀ place, (c.save files path).files.get? place = files.get? place := by
  intro h
  let c := { default with custom := .dict [(.text "key", .bytes ⟨#[0]⟩)] }
  let path := Path.ofString "builder.json"
  let text := "\x7b\"indent_size\": 2\x7d"
  let files : Files := ⟨[], [(["builder.json"], .file (bytesOfText text))]⟩
  obtain ⟨entries, hsaved⟩ : ∃ entries, c.savedEntries = .ok entries := ⟨_, rfl⟩
  have hwrite : Files.empty.write path (bytesOfText text) = .ok files := write_builder _
  have hheld : files.read path = .ok (bytesOfText text) := (Files.read_write hwrite).1
  rcases unchanged_iff.1 (h c files path) entries hsaved (Files.isWritable_write hwrite) with hs | hread
  · cases hsaved
    revert hs
    decide +kernel
  · have hbytes := Except.ok.inj (hheld.symm.trans hread)
    have htext : Text.NoReturn text := by decide
    have hsame := htext.readableText?
    rw [hbytes, (Json.noReturn_write _).readableText?] at hsame
    cases hsaved
    revert hsame
    decide +kernel

end Config

end CxxWriter
