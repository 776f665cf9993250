/-
  Settings that are saved and loaded again.

  * `isCopyable_iff`, `save_uncopied`: settings are copied at first, and not saved if they
    nest too deep for that;
  * `ofEntries_eq`: what settings entries come to;
  * `save_eq`: what saving settings comes to;
  * `reload_eq`: what loading a saved file comes to, whatever the custom
    settings are;
  * `saved_reloads_iff`: it gives the settings back exactly if no custom one has
    the key of a setting.
-/
import CxxWriter.Config.Save
import CxxWriter.Proofs.Action
import CxxWriter.Proofs.Entries
import CxxWriter.Proofs.Files
import CxxWriter.Proofs.Form

namespace CxxWriter

/-! ## How deep values nest -/

namespace Value

variable {es fs : List (Value × Value)} {vs : List Value} {k v : Value} {n : Nat}

theorem heights_le : heights vs ≤ n ↔ ∀ v ∈ vs, v.height ≤ n := by
  induction vs with
  | nil => simp [heights]
  | cons v vs ih => rw [heights, Nat.max_le, ih, List.forall_mem_cons]

theorem heightEntries_le : heightEntries es ≤ n ↔ ∀ e ∈ es, e.1.height ≤ n ∧ e.2.height ≤ n := by
  induction es with
  | nil => simp [heightEntries]
  | cons e es ih => rw [heightEntries, Nat.max_le, Nat.max_le, ih, List.forall_mem_cons]

theorem heightEntries_insertEntry (h : heightEntries es ≤ n) (hk : k.height ≤ n) (hv : v.height ≤ n) :
    heightEntries (insertEntry k v es) ≤ n := by
  induction es with
  | nil => exact heightEntries_le.2 (List.forall_mem_singleton.2 ⟨hk, hv⟩)
  | cons e es ih =>
    rw [heightEntries, Nat.max_le, Nat.max_le] at h
    rw [insertEntry]
    split
    · rw [heightEntries, Nat.max_le, Nat.max_le]
      exact ⟨⟨h.1.1, hv⟩, h.2⟩
    · rw [heightEntries, Nat.max_le, Nat.max_le]
      exact ⟨h.1, ih h.2⟩

theorem heightEntries_updateEntries (h : heightEntries es ≤ n) (hf : heightEntries fs ≤ n) :
    heightEntries (updateEntries es fs) ≤ n := by
  induction fs generalizing es with
  | nil => exact h
  | cons f fs ih =>
    rw [heightEntries, Nat.max_le, Nat.max_le] at hf
    exact ih (heightEntries_insertEntry h hf.1.1 hf.1.2) hf.2

theorem height_pairItems {items : List Value} (h : pairItems? v = some items) :
    ∀ x ∈ items, x.height ≤ v.height := by
  cases v with
  | list vs | tuple vs =>
    cases h
    rw [height]
    exact fun x hx => Nat.le_succ_of_le (heights_le.1 (Nat.le_refl _) x hx)
  | dict es =>
    cases h
    rw [height]
    intro x hx
    obtain ⟨e, he, rfl⟩ := List.mem_map.1 hx
    exact Nat.le_succ_of_le (heightEntries_le.1 (Nat.le_refl _) e he).1
  | text s =>
    cases h
    intro x hx
    obtain ⟨c, -, rfl⟩ := List.mem_map.1 hx
    exact Nat.zero_le _
  | bytes b =>
    cases h
    intro x hx
    obtain ⟨c, -, rfl⟩ := List.mem_map.1 hx
    exact Nat.zero_le _
  | _ => cases h

theorem height_entriesOfPairs (h : entriesOfPairs vs = .ok es) (hn : heights vs ≤ n) :
    heightEntries es ≤ n := by
  induction vs generalizing es with
  | nil =>
    cases h
    exact Nat.zero_le n
  | cons v vs ih =>
    rw [heights, Nat.max_le] at hn
    rw [entriesOfPairs] at h
    split at h
    · cases h
    · next k x hitems =>
      split at h
      · obtain ⟨rest, hrest, h⟩ := Json.exists_of_bind_ok h
        cases h
        have hpair := height_pairItems hitems
        rw [heightEntries, Nat.max_le, Nat.max_le]
        exact ⟨⟨(hpair k (by simp)).trans hn.1, (hpair x (by simp)).trans hn.1⟩, ih hrest hn.2⟩
      · cases h
    · cases h

/-- The entries of a value do not nest deeper than the value. -/
theorem height_entriesOf (h : entriesOf v = .ok es) : heightEntries es ≤ v.height := by
  unfold entriesOf at h
  split at h
  · cases h
    rw [height]
    exact Nat.le_succ _
  · split at h
    · next hitems => exact height_entriesOfPairs h (heights_le.2 (height_pairItems hitems))
    · cases h

end Value

namespace Config

open Reporting (bind_ok ofExcept_bind_ok run_bind record_bind run_ofExcept_bind)

/-! ## Settings from entries -/

/-- The first setting whose value is not of its kind. -/
def firstWrong? (value : Setting → Value) : Option Setting :=
  Setting.all.find? fun s => !s.hasKind (value s)

/-- The error for a setting of the wrong kind: a value without a text cannot be
    shown. -/
def kindError (s : Setting) (v : Value) : Error :=
  if v.isWritable then .config (.wrongKind s.key s.kindName v) else .value .badValue

/-- The settings with these values, if all are of their kinds. -/
def checked (value : Setting → Value) : Except Error Config :=
  match firstWrong? value with
  | none => .ok (ofFunction value)
  | some s => .error (kindError s (value s))

/-- The custom settings that entries come to: the given ones with those that
    are no settings. -/
def customOf (entries : List (String × Value)) : Except Error Value :=
  let given := (valueAt Setting.custom.key entries).getD Setting.custom.default
  if (unknownEntries entries).isEmpty then .ok given
  else extendCustom given (unknownEntries entries)

/-- The settings of entries. -/
def settingsOf (entries : List (String × Value)) (custom : Value) (s : Setting) : Value :=
  if s = .custom then custom else (valueAt s.key entries).getD s.default

/-- The settings that entries come to. -/
def settled (entries : List (String × Value)) : Except Error Config := do
  checked (settingsOf entries (← customOf entries))

theorem get_ofFunction (f : Setting → Value) (s : Setting) : (ofFunction f).get s = f s := by
  cases s <;> rfl

theorem mem_all (s : Setting) : s ∈ Setting.all := by
  cases s <;> decide

theorem firstWrong?_eq_none {value : Setting → Value} :
    firstWrong? value = none ↔ ∀ s : Setting, s.hasKind (value s) = true := by
  rw [firstWrong?, List.find?_eq_none]
  exact ⟨fun h s => by simpa using h s (mem_all s), fun h s _ => by simp [h s]⟩

theorem checkKinds_eq (value : Setting → Value) (settings : List Setting) (log : Log) :
    ((checkKinds value settings).run.run log).1 =
      match settings.find? fun s => !s.hasKind (value s) with
      | none => .ok ()
      | some s => .error (kindError s (value s)) := by
  induction settings with
  | nil => rfl
  | cons s settings ih =>
    rw [checkKinds, List.find?_cons]
    cases hk : s.hasKind (value s) with
    | true => exact ih
    | false =>
      rw [if_neg Bool.false_ne_true, Bool.not_false]
      dsimp only
      rw [kindError]
      split <;> rfl

theorem checked_eq (value : Setting → Value) (log : Log) :
    ((do checkKinds value Setting.all; return ofFunction value : Reporting Config).run.run log).1 =
      checked value := by
  have hk := checkKinds_eq value Setting.all log
  rw [run_bind, checked, firstWrong?]
  rcases hr : (checkKinds value Setting.all).run.run log with ⟨o, log'⟩
  rw [hr] at hk
  dsimp only at hk
  rw [hk]
  cases Setting.all.find? fun s => !s.hasKind (value s) <;> rfl

theorem checked_ok {value : Setting → Value} {c : Config} :
    checked value = .ok c ↔ c = ofFunction value ∧ c.HasKinds := by
  have hkinds : (ofFunction value).HasKinds ↔ firstWrong? value = none := by
    rw [firstWrong?_eq_none]
    exact forall_congr' fun s => by rw [get_ofFunction]
  unfold checked
  split
  · next h => exact ⟨by rintro ⟨⟩; exact ⟨rfl, hkinds.2 h⟩, fun hc => by rw [hc.1]⟩
  · next s h =>
    refine ⟨nofun, ?_⟩
    rintro ⟨rfl, hk⟩
    rw [hkinds.1 hk] at h
    cases h

theorem ofEntries_eq (entries : List (String × Value)) (log : Log) :
    ((ofEntries entries).run.run log).1 = settled entries := by
  unfold ofEntries settled customOf settingsOf valueAt
  dsimp only
  split
  · rw [pure_bind]
    exact checked_eq _ log
  · rw [record_bind, run_ofExcept_bind]
    generalize extendCustom _ (unknownEntries entries) = custom
    cases custom with
    | ok custom => exact checked_eq _ _
    | error e => rfl

theorem ofEntries_ok {entries : List (String × Value)} {log : Log} {c : Config} :
    ((ofEntries entries).run.run log).1 = .ok c ↔
      ∃ custom, customOf entries = .ok custom ∧ c = ofFunction (settingsOf entries custom) ∧
        c.HasKinds := by
  rw [ofEntries_eq, settled]
  cases customOf entries with
  | error e => exact ⟨nofun, by rintro ⟨_, ⟨⟩, _⟩⟩
  | ok custom => exact checked_ok.trans ⟨fun h => ⟨_, rfl, h⟩, by rintro ⟨_, ⟨⟩, h⟩; exact h⟩

theorem hasKinds_of_load {files : Files} {overrides : List (String × Value)} {file : Option Path}
    {log : Log} {c : Config} (h : ((load files overrides file).run.run log).1 = .ok c) :
    c.HasKinds := by
  unfold load at h
  have hk {entries : List (String × Value)} {log : Log}
      (h : ((ofEntries entries).run.run log).1 = .ok c) : c.HasKinds := by
    obtain ⟨custom, -, -, hk⟩ := ofEntries_ok.1 h
    exact hk
  cases file with
  | none => exact hk h
  | some path =>
    obtain ⟨given, log', -, h⟩ := bind_ok.1 h
    exact hk h

/-! ## The entries of a saved file -/

/-- The entries of the settings that are not custom. -/
def ownEntries (c : Config) : List (String × Value) :=
  (Setting.all.filter (· ≠ .custom)).map fun s => (s.key, c.get s)

/-- What is saved if the settings can be copied. -/
theorem savedEntries_ok {c : Config} {entries : List (Value × Value)} : c.savedEntries = .ok entries ↔
    c.isCopyable = true ∧ ∃ more, entriesOf c.custom = .ok more ∧
      entries = Value.updateEntries (textKeyed c.ownEntries) more := by
  have hown : textKeyed c.ownEntries =
      (Setting.all.filter (· ≠ .custom)).map fun s => (Value.text s.key, c.get s) :=
    List.map_map
  rw [savedEntries, hown]
  cases c.isCopyable with
  | false => exact ⟨nofun, fun h => nomatch h.1⟩
  | true =>
    cases entriesOf c.custom with
    | ok more =>
      exact ⟨fun h => ⟨rfl, more, rfl, (Except.ok.inj h).symm⟩, by rintro ⟨-, _, ⟨⟩, rfl⟩; rfl⟩
    | error e => exact ⟨nofun, by rintro ⟨-, _, ⟨⟩, -⟩⟩

/-- Settings that cannot be copied are not saved. -/
theorem save_uncopied {c : Config} {files : Files} {path : Path} (h : c.isCopyable = false) :
    c.save files path = ⟨files, throw (.value .tooDeep)⟩ := by
  rw [save, savedEntries, h]
  rfl

theorem savedEntries_eq {c : Config} {l : List (String × Value)} (hcopy : c.isCopyable = true)
    (h : c.custom = .dict (textKeyed l)) :
    c.savedEntries = .ok (textKeyed (setKeys c.ownEntries l)) := by
  rw [← updateEntries_textKeyed]
  exact savedEntries_ok.2 ⟨hcopy, _, by rw [h]; rfl, rfl⟩

theorem isCopyable_iff {c : Config} :
    c.isCopyable = true ↔ ∀ s, (c.get s).height ≤ maxCopied := by
  rw [isCopyable, List.all_eq_true]
  exact ⟨fun h s => of_decide_eq_true (h s (mem_all s)), fun h s _ => decide_eq_true (h s)⟩

/-- What can be copied is read again once it has been saved: it nests less deep than
    documents may. -/
theorem height_saved {c : Config} {entries : List (Value × Value)}
    (h : c.savedEntries = .ok entries) : (Value.dict entries).height ≤ Json.maxDepth := by
  obtain ⟨hcopy, more, hmore, rfl⟩ := savedEntries_ok.1 h
  have hheight := isCopyable_iff.1 hcopy
  have hown : Value.heightEntries (textKeyed c.ownEntries) ≤ maxCopied := by
    refine Value.heightEntries_le.2 fun x hx => ?_
    obtain ⟨e, he, rfl⟩ := List.mem_map.1 hx
    obtain ⟨s, -, rfl⟩ := List.mem_map.1 he
    exact ⟨Nat.zero_le _, hheight s⟩
  have hentries := Value.heightEntries_updateEntries hown
    ((Value.height_entriesOf hmore).trans (hheight .custom))
  rw [Value.height]
  exact (Nat.succ_le_succ hentries).trans (by decide)

/-- Reading a document that holds an object. -/
theorem read_document {files : Files} {path : Path} {text : String} {l : List (String × Value)}
    (hs : path.suffix.toLower = ".json") (he : files.pathExists path = .ok true)
    (hr : files.read path = .ok (bytesOfText text)) (hn : Text.NoReturn text)
    (hj : Json.read text = .ok (.dict (textKeyed l))) :
    Document.read words files path = pure l := by
  have hp : Document.parse words path (bytesOfText text) = pure (.dict (textKeyed l)) := by
    rw [Document.parse, hn.readableText?]
    dsimp only
    rw [hj]
  have hw : (words.suffix.any fun s => path.suffix.toLower != s) = false := by
    show (path.suffix.toLower != ".json") = false
    rw [hs]
    rfl
  unfold Document.read
  rw [he, hr, hw]
  show (Document.parse words path (bytesOfText text) >>= _) = _
  rw [hp, pure_bind]
  show pure (Value.textEntries (textKeyed l)) = _
  rw [textEntries_textKeyed]

/-- Settings are loaded from files with the suffix of JSON only. -/
theorem suffix_of_load {files : Files} {overrides : List (String × Value)} {path : Path} {log : Log}
    {c : Config} (h : ((load files overrides (some path)).run.run log).1 = .ok c) :
    path.suffix.toLower = ".json" := by
  obtain ⟨given, log₁, hf, -⟩ := bind_ok.1 h
  obtain ⟨entries, log₂, hr, -⟩ := bind_ok.1 (congrArg Prod.fst hf)
  obtain ⟨found, -, h⟩ := ofExcept_bind_ok.1 (congrArg Prod.fst hr)
  by_contra hs
  have hw : (words.suffix.any fun s => path.suffix.toLower != s) = true := by
    show (path.suffix.toLower != ".json") = true
    simpa using hs
  rw [hw] at h
  cases found with
  | false => cases h
  | true => cases h

section Saved

variable {c : Config} {l : List (String × Value)}

theorem distinctKeys_saved (c : Config) (l : List (String × Value)) :
    DistinctKeys (setKeys c.ownEntries l) := by
  refine DistinctKeys.setKeys ?_ l
  show (((Setting.all.filter (· ≠ .custom)).map fun s => (s.key, c.get s)).map (·.1)).Nodup
  rw [List.map_map]
  show ((Setting.all.filter (· ≠ .custom)).map Setting.key).Nodup
  decide

/-- What is found under the key of a setting once the file is loaded. -/
theorem valueAt_saved (hl : DistinctKeys l) (s : Setting) :
    valueAt s.key (setKeys defaultEntries (setKeys c.ownEntries l)) =
      some ((valueAt s.key l).getD (if s = .custom then .dict [] else c.get s)) := by
  have hdefault : valueAt s.key defaultEntries = some s.default := by cases s <;> rfl
  have hown : (valueAt s.key c.ownEntries).or (some s.default) =
      some (if s = .custom then .dict [] else c.get s) := by cases s <;> rfl
  rw [valueAt_setKeys (distinctKeys_saved c l), valueAt_setKeys hl, hdefault, Option.or_assoc, hown]
  cases valueAt s.key l <;> rfl

theorem unknownEntries_saved (hl : DistinctKeys l) :
    unknownEntries (setKeys defaultEntries (setKeys c.ownEntries l)) = unknownEntries l := by
  have hdefault : unknownEntries defaultEntries = [] := by decide
  have hown : unknownEntries c.ownEntries = [] := by rfl
  rw [unknownEntries_setKeys, unknownEntries_setKeys, hdefault, hown, setKeys_nil hl.unknownEntries,
    setKeys_nil hl.unknownEntries]

/-- Settings whose values have forms in JSON are saved, if they can be copied. -/
theorem save_eq {files : Files} {path : Path} (hcopy : c.isCopyable = true)
    (hc : c.custom = .dict (textKeyed l))
    (hj : (Value.dict (textKeyed (setKeys c.ownEntries l))).isJson = true)
    (hw : files.IsWritable path) :
    let text := (Json.write (.dict (textKeyed (setKeys c.ownEntries l)))).text
    ∃ g, files.write path (bytesOfText text) = .ok g ∧ c.save files path = ⟨g, pure ()⟩ ∧
      Text.NoReturn text := by
  intro text
  obtain ⟨g, hg⟩ := hw (bytesOfText text)
  have hcomplete : (Json.write (.dict (textKeyed (setKeys c.ownEntries l)))).fault = none :=
    (Json.write_complete_iff _).2 (Value.isSerializable_of_isJson _ hj)
  refine ⟨g, hg, ?_, Json.noReturn_write _⟩
  rw [save, savedEntries_eq hcopy hc]
  dsimp only
  rw [hg]
  dsimp only
  rw [hcomplete]

/-- What is saved of such settings has a form in JSON. -/
theorem isJson_saved (hj : ∀ s, (c.get s).isJson = true) (hl : ∀ e ∈ l, e.2.isJson = true) :
    (Value.dict (textKeyed (setKeys c.ownEntries l))).isJson = true := by
  rw [Value.isJson]
  refine areJsonEntries_textKeyed (distinctKeys_saved c l) fun e he => ?_
  rcases mem_setKeys he with he | he
  · obtain ⟨s, -, rfl⟩ := List.mem_map.1 he
    exact hj s
  · exact hl e he

theorem keepsFloats_saved (hf : ∀ s, (c.get s).KeepsFloats) (hl : ∀ e ∈ l, e.2.KeepsFloats) :
    (Value.dict (textKeyed (setKeys c.ownEntries l))).KeepsFloats := by
  rw [Value.KeepsFloats, Value.entriesKeepFloats_iff]
  intro x hx
  obtain ⟨e, he, rfl⟩ := List.mem_map.1 hx
  rcases mem_setKeys he with he | he
  · obtain ⟨s, -, rfl⟩ := List.mem_map.1 he
    exact hf s
  · exact hl e he

/-- What is saved is read as it was. -/
theorem read_saved (hcopy : c.isCopyable = true) (hc : c.custom = .dict (textKeyed l))
    (hj : (Value.dict (textKeyed (setKeys c.ownEntries l))).isJson = true)
    (hf : (Value.dict (textKeyed (setKeys c.ownEntries l))).KeepsFloats) :
    Json.read (Json.write (.dict (textKeyed (setKeys c.ownEntries l)))).text =
      .ok (.dict (textKeyed (setKeys c.ownEntries l))) := by
  rw [Json.read_write (Value.isSerializable_of_isJson _ hj) (height_saved (savedEntries_eq hcopy hc)),
    Value.form_eq_self _ hj hf]

/-- What a saved file is loaded as. -/
theorem reload_eq {files : Files} {path : Path} (hs : path.suffix.toLower = ".json")
    (hcopy : c.isCopyable = true) (hc : c.custom = .dict (textKeyed l))
    (hj : (Value.dict (textKeyed (setKeys c.ownEntries l))).isJson = true)
    (hf : (Value.dict (textKeyed (setKeys c.ownEntries l))).KeepsFloats)
    (hw : files.IsWritable path) {log : Log} {d : Config} :
    ((load (c.save files path).files [] (some path)).run.run log).1 = .ok d ↔
      ∃ custom, customOf (setKeys defaultEntries (setKeys c.ownEntries l)) = .ok custom ∧
        d = ofFunction (settingsOf (setKeys defaultEntries (setKeys c.ownEntries l)) custom) ∧
        d.HasKinds := by
  obtain ⟨g, hg, hsave, hn⟩ := save_eq hcopy hc hj hw
  obtain ⟨hr, he⟩ := Files.read_write hg
  have hread := read_document hs he hr hn (read_saved hcopy hc hj hf)
  rw [hsave, load]
  show ((readFile g path >>= fun given => ofEntries (setKeys defaultEntries given)).run.run log).1 =
    _ ↔ _
  rw [readFile, hread, pure_bind, bind_assoc, bind_ok]
  constructor
  · rintro ⟨_, log', -, h⟩
    exact ofEntries_ok.1 h
  · intro h
    exact ⟨(), _, rfl, ofEntries_ok.2 h⟩

/-! ## Custom settings with the key of a setting -/

theorem valueAt_of_unknown (h : ∀ e ∈ l, Setting.ofKey? e.1 = none) (s : Setting) :
    valueAt s.key l = none := by
  rw [valueAt_eq_none]
  intro hm
  obtain ⟨e, he, hk⟩ := List.mem_map.1 hm
  have ho := h e he
  rw [hk] at ho
  cases s <;> cases ho

/-- Custom settings that are no settings are found as they were. -/
theorem customOf_saved (hd : DistinctKeys l) (h : ∀ e ∈ l, Setting.ofKey? e.1 = none) :
    customOf (setKeys defaultEntries (setKeys c.ownEntries l)) = .ok (.dict (textKeyed l)) := by
  have hnone := valueAt_of_unknown h .custom
  have hall : unknownEntries l = l := List.filter_eq_self.2 fun e he => by rw [h e he]; rfl
  rw [customOf, valueAt_saved hd, hnone, unknownEntries_saved hd, hall]
  cases l with
  | nil => rfl
  | cons e l =>
    show extendCustom (.dict []) (e :: l) = _
    show Except.ok (Value.dict (Value.updateEntries [] (textKeyed (e :: l)))) = _
    rw [updateEntries_nil hd]

theorem mem_entriesOfPairs {vs : List Value} {es : List (Value × Value)}
    (h : entriesOfPairs vs = .ok es) : ∀ e ∈ es, ∃ v ∈ vs, pairItems? v = some [e.1, e.2] := by
  induction vs generalizing es with
  | nil => cases h; exact nofun
  | cons v vs ih =>
    rw [entriesOfPairs] at h
    split at h
    · cases h
    · next k x hp =>
      split at h
      · cases hr : entriesOfPairs vs with
        | error e => rw [hr] at h; cases h
        | ok rest =>
          rw [hr] at h
          cases h
          intro e he
          rcases List.mem_cons.1 he with rfl | he
          · exact ⟨v, List.mem_cons_self, hp⟩
          · obtain ⟨w, hw, hp⟩ := ih hr e he
            exact ⟨w, List.mem_cons_of_mem v hw, hp⟩
      · cases h
    · cases h

theorem sizeOf_lt_of_mem {e : Value × Value} {es : List (Value × Value)} (h : e ∈ es) :
    sizeOf e.1 < sizeOf es ∧ sizeOf e.2 < sizeOf es := by
  have he := List.sizeOf_lt_of_mem h
  obtain ⟨k, v⟩ := e
  rw [Prod.mk.sizeOf_spec] at he
  dsimp only
  omega

/-- The second item of a pair is smaller than the pair, if it holds others. -/
theorem sizeOf_pair {v k x : Value} (h : pairItems? v = some [k, x])
    (hx : (∃ es, x = .dict es) ∨ ∃ vs, x = .list vs) : sizeOf x < sizeOf v := by
  have hmem {items : List Value} (hi : items = [k, x]) : sizeOf x < sizeOf items :=
    List.sizeOf_lt_of_mem (hi ▸ List.mem_cons_of_mem k List.mem_cons_self)
  cases v with
  | list items =>
    have hlt := hmem (Option.some.inj h)
    rw [Value.list.sizeOf_spec]
    omega
  | tuple items =>
    have hlt := hmem (Option.some.inj h)
    rw [Value.tuple.sizeOf_spec]
    omega
  | dict es =>
    have hx : x ∈ es.map (·.1) := by
      rw [Option.some.inj h]
      exact List.mem_cons_of_mem k List.mem_cons_self
    obtain ⟨e, he, rfl⟩ := List.mem_map.1 hx
    have hlt := (sizeOf_lt_of_mem he).1
    rw [Value.dict.sizeOf_spec]
    omega
  | text s =>
    have hm : x ∈ s.toList.map fun c => Value.text (String.singleton c) := by
      rw [Option.some.inj h]
      exact List.mem_cons_of_mem k List.mem_cons_self
    obtain ⟨_, -, rfl⟩ := List.mem_map.1 hm
    simp at hx
  | bytes b =>
    have hm : x ∈ b.data.toList.map fun y => Value.int y.toNat := by
      rw [Option.some.inj h]
      exact List.mem_cons_of_mem k List.mem_cons_self
    obtain ⟨_, -, rfl⟩ := List.mem_map.1 hm
    simp at hx
  | _ => cases h

/-- A value that entries are taken from is none of their values. -/
theorem ne_of_mem_entriesOf {v : Value} (hj : v.isJson = true) {es : List (Value × Value)}
    (h : entriesOf v = .ok es) : ∀ e ∈ es, e.2 ≠ v := by
  rintro e he rfl
  cases hv : e.2 with
  | dict es' =>
    rw [hv] at h
    cases h
    have hlt := (sizeOf_lt_of_mem he).2
    rw [hv, Value.dict.sizeOf_spec] at hlt
    omega
  | list vs =>
    rw [hv] at h
    obtain ⟨w, hw, hp⟩ := mem_entriesOfPairs h e he
    have hlt := sizeOf_pair hp (.inr ⟨vs, hv⟩)
    have hlt' := List.sizeOf_lt_of_mem hw
    rw [hv, Value.list.sizeOf_spec] at hlt
    omega
  | text s =>
    rw [hv] at h
    obtain ⟨w, hw, hp⟩ := mem_entriesOfPairs h e he
    obtain ⟨x, -, rfl⟩ := List.mem_map.1 hw
    simp [pairItems?] at hp
  | null | bool | int | float => rw [hv] at h; cases h
  | _ => rw [hv] at hj; simp [Value.isJson] at hj

/-- Entries that are extended by ones that are no settings get the keys of
    settings from the start only. -/
theorem mem_of_extended {old : List (Value × Value)} {more : List (String × Value)}
    (hm : ∀ e ∈ more, (Setting.ofKey? e.1).isNone = true)
    (h : Value.updateEntries (Value.updateEntries [] old) (textKeyed more) = textKeyed l)
    {e : String × Value} (he : e ∈ l) (hk : Setting.ofKey? e.1 ≠ none) : ∃ o ∈ old, o.2 = e.2 := by
  have hmem : (Value.text e.1, e.2) ∈ textKeyed l := List.mem_map.2 ⟨e, he, rfl⟩
  rw [← h] at hmem
  rcases mem_updateEntries hmem with hmem | ⟨o, ho, -, hs⟩
  · rcases mem_updateEntries hmem with hnil | ⟨o, ho, hv, -⟩
    · cases hnil
    · exact ⟨o, ho, hv.symm⟩
  · obtain ⟨u, hu, rfl⟩ := List.mem_map.1 ho
    have hkey : e.1 = u.1 := by
      rcases hs with hs | hs
      · exact Value.text.inj hs
      · rwa [same_text, beq_iff_eq] at hs
    rw [hkey] at hk
    exact absurd (Option.isNone_iff_eq_none.1 (hm u hu)) hk

theorem extendCustom_eq {v w : Value} {more : List (String × Value)}
    (h : extendCustom v more = .ok w) : ∃ old, (old = [] ∨ entriesOf v = .ok old) ∧
      w = .dict (Value.updateEntries (Value.updateEntries [] old) (textKeyed more)) := by
  unfold extendCustom at h
  split at h
  · cases he : entriesOf v with
    | error e => rw [he] at h; cases h
    | ok old =>
      rw [he] at h
      exact ⟨old, .inr rfl, (Except.ok.inj h).symm⟩
  · exact ⟨[], .inl rfl, (Except.ok.inj h).symm⟩

/-- If a custom setting has the key of a setting, they are not found as they
    were: the value under the key of the custom settings would have to hold
    itself. -/
theorem customOf_saved_ne (hd : DistinctKeys l) (hl : ∀ e ∈ l, e.2.isJson = true)
    {e : String × Value} (he : e ∈ l) (hk : Setting.ofKey? e.1 ≠ none) :
    customOf (setKeys defaultEntries (setKeys c.ownEntries l)) ≠ .ok (.dict (textKeyed l)) := by
  rw [customOf, valueAt_saved hd, unknownEntries_saved hd]
  intro h
  have hself {x : Value} (hx : valueAt Setting.custom.key l = some x) {es : List (Value × Value)}
      (hes : entriesOf x = .ok es) : ∀ o ∈ es, o.2 ≠ x :=
    ne_of_mem_entriesOf (hl _ (mem_of_valueAt hx)) hes
  split at h
  · cases hx : valueAt Setting.custom.key l with
    | none =>
      rw [hx] at h
      have hnil : l = [] := List.map_eq_nil_iff.1 (Value.dict.inj (Except.ok.inj h)).symm
      rw [hnil] at he
      cases he
    | some x =>
      -- `x` would be a dictionary with an entry for itself
      rw [hx] at h
      have hv : x = .dict (textKeyed l) := Except.ok.inj h
      exact hself hx (by rw [hv]; rfl) _ (List.mem_map.2 ⟨_, mem_of_valueAt hx, rfl⟩) rfl
  · -- entries of settings can only come from the value that is extended
    obtain ⟨old, hold, heq⟩ := extendCustom_eq h
    have hmore : ∀ e ∈ unknownEntries l, (Setting.ofKey? e.1).isNone = true := fun _ hu =>
      (List.mem_filter.1 hu).2
    have hfrom {e : String × Value} := mem_of_extended hmore (Value.dict.inj heq).symm (e := e)
    obtain ⟨o, ho, -⟩ := hfrom he hk
    have hes := hold.resolve_left (List.ne_nil_of_mem ho)
    cases hx : valueAt Setting.custom.key l with
    | none =>
      rw [hx] at hes
      cases hes
      cases ho
    | some x =>
      rw [hx] at hes
      have hcustom : Setting.ofKey? Setting.custom.key ≠ none := by decide
      obtain ⟨o', ho', hv⟩ := hfrom (mem_of_valueAt hx) hcustom
      exact hself hx hes o' ho' hv

end Saved

theorem isWritable_saved : Files.empty.IsWritable (Path.ofString "saved.json") := fun _ => ⟨_, rfl⟩

/-- The entries of the custom settings that have texts as keys. -/
def customEntries (c : Config) : List (String × Value) :=
  match c.custom with
  | .dict entries => Value.textEntries entries
  | _ => []

/-- **What comes back from a file of settings.**  Settings that were loaded and
    whose values have forms in JSON are saved wherever a file can be written, unless
    they nest too deep to be copied: then saving fails and changes nothing.  If doubles
    are read as they are written, loading the file gives the same settings back exactly
    if its name has the suffix of JSON and no custom setting has the key of a setting. -/
theorem saved_reloads_iff {files₀ : Files} {overrides : List (String × Value)} {file : Option Path}
    {log : Log} {c : Config} (hload : ((load files₀ overrides file).run.run log).1 = .ok c)
    (hj : ∀ s, (c.get s).isJson = true) (hfloats : ∀ s, (c.get s).KeepsFloats)
    {files : Files} {path : Path} (hw : files.IsWritable path) :
    (c.isCopyable = true → (c.save files path).outcome = pure () ∧
      ((load (c.save files path).files [] (some path)).outcome.1 = .ok c ↔
        path.suffix.toLower = ".json" ∧ ∀ e ∈ c.customEntries, Setting.ofKey? e.1 = none)) ∧
    (c.isCopyable = false → c.save files path = ⟨files, throw (.value .tooDeep)⟩) := by
  refine ⟨fun hcopy => ?_, save_uncopied⟩
  have hk := hasKinds_of_load hload
  obtain ⟨es, hc⟩ : ∃ es, c.custom = .dict es := by
    have hkind := hk .custom
    rw [get] at hkind
    cases hv : c.custom with
    | dict es => exact ⟨es, rfl⟩
    | _ => rw [hv] at hkind; cases hkind
  have hes : Value.areJsonEntries es = true := by
    have hjc := hj .custom
    rw [get, hc, Value.isJson] at hjc
    exact hjc
  obtain ⟨l, rfl, hd, hl⟩ := exists_textKeyed hes
  have hentries : c.customEntries = l := by
    rw [customEntries, hc]
    exact textEntries_textKeyed l
  have hkeep : ∀ e ∈ l, e.2.KeepsFloats := by
    have hfc := hfloats .custom
    rw [get, hc, Value.KeepsFloats, Value.entriesKeepFloats_iff] at hfc
    exact fun e he => hfc _ (List.mem_map_of_mem he)
  have hjson := isJson_saved hj hl
  have hfloats' := keepsFloats_saved hfloats hkeep
  obtain ⟨g, -, hsave, -⟩ := save_eq hcopy hc hjson hw
  refine ⟨by rw [hsave], ?_⟩
  rw [hentries]
  constructor
  · intro h
    have hs := suffix_of_load h
    obtain ⟨custom, hcustom, heq, -⟩ := (reload_eq hs hcopy hc hjson hfloats' hw).1 h
    refine ⟨hs, fun e he => ?_⟩
    by_contra hne
    have hv : c.custom = custom := congrArg Config.custom heq
    rw [← hv, hc] at hcustom
    exact customOf_saved_ne hd hl he hne hcustom
  · rintro ⟨hs, hn⟩
    refine (reload_eq hs hcopy hc hjson hfloats' hw).2 ⟨_, customOf_saved hd hn, ?_, hk⟩
    have hget : settingsOf (setKeys defaultEntries (setKeys c.ownEntries l)) (.dict (textKeyed l)) =
        c.get := by
      funext s
      rw [settingsOf, valueAt_saved hd, valueAt_of_unknown hn, Option.getD_some, Option.getD_none]
      split
      · next h => rw [h, get, hc]
      · rfl
    rw [hget]
    rfl

/-- Settings with a custom one are saved and come back. -/
theorem saved_reloads_vendor :
    let c := { default with custom := .dict [(.text "vendor", .text "acme")] }
    let path := Path.ofString "saved.json"
    ((load Files.empty [("vendor", .text "acme")] none).run.run []).1 = .ok c ∧
      (load (c.save Files.empty path).files [] (some path)).outcome.1 = .ok c := by
  intro c path
  have hload : ((load Files.empty [("vendor", .text "acme")] none).run.run []).1 = .ok c := by rfl
  have hj : ∀ s, (c.get s).isJson = true := by intro s; cases s <;> decide +kernel
  have hfloats : ∀ s, (c.get s).KeepsFloats := by
    intro s
    cases s <;> simp [c, get, default, ofFunction, Setting.default, Value.KeepsFloats,
      Value.EntriesKeepFloats]
  have hcopy : c.isCopyable = true := by decide +kernel
  refine ⟨hload, (((saved_reloads_iff hload hj hfloats isWritable_saved).1 hcopy).2.2 ⟨?_, ?_⟩)⟩
  · decide +kernel
  · intro e he
    cases List.mem_singleton.1 he
    decide

/-- Saved settings do not always come back: a custom setting whose key is
    `use_tabs` takes the place of the setting. -/
theorem saved_not_reloaded :
    ¬ ∀ (files₀ : Files) (overrides : List (String × Value)) (file : Option Path) (c : Config),
      (load files₀ overrides file).outcome.1 = .ok c → (∀ s, (c.get s).isJson = true) →
      (∀ s, (c.get s).KeepsFloats) → c.isCopyable = true →
      ∀ (files : Files) (path : Path), files.IsWritable path → path.suffix.toLower = ".json" →
      (load (c.save files path).files [] (some path)).outcome.1 = .ok c := by
  intro h
  let c := { default with custom := .dict [(.text "use_tabs", .bool false)] }
  let l := [("use_tabs", Value.bool false)]
  let path := Path.ofString "saved.json"
  have hs : path.suffix.toLower = ".json" := by decide +kernel
  have hj : ∀ s, (c.get s).isJson = true := by intro s; cases s <;> decide +kernel
  have hfloats : ∀ s, (c.get s).KeepsFloats := by
    intro s
    cases s <;> simp [c, get, default, ofFunction, Setting.default, Value.KeepsFloats,
      Value.EntriesKeepFloats]
  have hcopy : c.isCopyable = true := by decide +kernel
  have hreload := h Files.empty [("custom", .dict (textKeyed l))] none c rfl hj hfloats hcopy
    Files.empty path isWritable_saved hs
  obtain ⟨custom, -, heq, -⟩ := (reload_eq (l := l) hs hcopy rfl
    (isJson_saved hj (by simp [l, Value.isJson]))
    (keepsFloats_saved hfloats (by simp [l, Value.KeepsFloats])) isWritable_saved).1 hreload
  have htabs : Value.bool true = .bool false := congrArg Config.useTabs heq
  cases htabs

end Config

end CxxWriter
