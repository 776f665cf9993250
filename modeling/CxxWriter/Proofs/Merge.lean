/-
  Settings from a file and from overrides.

  * `Provides files file given`: a file of settings holds the entries `given`;
    no two of their keys are the same (`Provides.distinctKeys`);
  * `valueOf given overrides`: the value of a setting, from the overrides, else
    from the file, else the default;
  * `load_eq`: what settings come to, as a function of the entries;
  * `kinds_checked_iff`: when settings of a wrong kind are refused as such, and
    all others accepted;
  * `lookup?_custom`, `overrides_win`: which value stands under a key.
-/
import CxxWriter.Proofs.Config
import Mathlib.Data.List.Find

namespace CxxWriter

/-! ## Dictionaries and keys that are texts -/

namespace Value

/-- Are no two keys of a dictionary the same? -/
def DistinctEntries (es : List (Value × Value)) : Prop :=
  es.Pairwise fun e f => e.1.same f.1 = false

variable {es fs : List (Value × Value)} {k v : Value} {s : String}

theorem same_text_iff : k.same (.text s) = true ↔ k = .text s := by
  cases k with
  | text t => simp [same_text]
  | _ => simp [same, sameLeaf, real?, int?]

theorem text_same (s : String) (k : Value) : (Value.text s).same k = k.same (.text s) := by
  cases k with
  | text t => rw [same_text, same_text, Bool.beq_comm]
  | _ => simp [same, sameLeaf, real?, int?]

/-- A key that is the same as none before it comes last. -/
theorem insertEntry_new (h : ∀ e ∈ es, e.1.same k = false) :
    insertEntry k v es = es ++ [(k, v)] := by
  induction es with
  | nil => rfl
  | cons e es ih =>
    obtain ⟨he, hes⟩ := List.forall_mem_cons.1 h
    rw [insertEntry, he, ih hes]
    rfl

/-- A dictionary is what comes of setting its entries one by one. -/
theorem updateEntries_distinct (h : DistinctEntries es) : updateEntries [] es = es := by
  have hfrom : ∀ old, DistinctEntries (old ++ es) → updateEntries old es = old ++ es := by
    clear h
    induction es with
    | nil => exact fun old _ => (List.append_nil old).symm
    | cons e es ih =>
      intro old h
      have hnew : ∀ x ∈ old, x.1.same e.1 = false := fun x hx =>
        (List.pairwise_append.1 h).2.2 x hx e List.mem_cons_self
      show updateEntries (insertEntry e.1 e.2 old) es = _
      rw [insertEntry_new hnew, ih _ (by rwa [List.append_assoc]), List.append_assoc]
      rfl
  exact hfrom [] h

theorem lookup?_cons (e : Value × Value) (es : List (Value × Value)) (k : Value) :
    lookup? (e :: es) k = if e.1.same k = true then some e.2 else lookup? es k := by
  rw [lookup?, List.find?_cons]
  cases h : e.1.same k <;> rfl

/-- Setting a text changes what is found under that text only. -/
theorem lookup?_insertEntry_text : lookup? (insertEntry (.text s) v es) k =
    if k.same (.text s) = true then some v else lookup? es k := by
  induction es with
  | nil => rw [insertEntry, lookup?_cons, text_same]
  | cons e es ih =>
    rw [insertEntry]
    by_cases he : e.1.same (.text s) = true
    · rw [if_pos he, lookup?_cons, lookup?_cons, same_text_iff.1 he, text_same]
      split <;> rfl
    · rw [if_neg he, lookup?_cons, lookup?_cons, ih]
      by_cases hk : k.same (.text s) = true
      · rw [if_pos hk, if_pos hk, same_text_iff.1 hk, if_neg he]
      · rw [if_neg hk, if_neg hk]

/-- The value under a key among entries with texts as keys. -/
def valueUnder (l : List (String × Value)) : Value → Option Value
  | .text s => valueAt s l
  | _ => none

/-- The entries that are set count, and those there were under other keys. -/
theorem lookup?_updateEntries_textKeyed {l : List (String × Value)} (hl : DistinctKeys l) :
    lookup? (updateEntries es (textKeyed l)) k = (valueUnder l k).or (lookup? es k) := by
  induction l generalizing es with
  | nil => cases k <;> rfl
  | cons u l ih =>
    obtain ⟨hn, hl⟩ := List.nodup_cons.1 hl
    show lookup? (updateEntries (insertEntry (.text u.1) u.2 es) (textKeyed l)) k = _
    rw [ih hl, lookup?_insertEntry_text]
    by_cases hk : k.same (.text u.1) = true
    · rw [if_pos hk, same_text_iff.1 hk, valueUnder, valueUnder, valueAt_eq_none.2 hn, valueAt_cons,
        if_pos rfl]
      rfl
    · rw [if_neg hk]
      cases k with
      | text t =>
        rw [valueUnder, valueUnder, valueAt_cons, if_neg fun h => hk (by rw [h, same_text, beq_self_eq_true])]
      | _ => rfl

end Value

theorem valueAt_of_mem {a : List (String × Value)} (ha : DistinctKeys a) {e : String × Value}
    (he : e ∈ a) : valueAt e.1 a = some e.2 := by
  rw [valueAt, find?_of_mem ha he]
  rfl

/-! ## Documents -/

namespace Document

open Reporting (bind_ok ofExcept_bind_ok)

variable {words : DocumentWords} {files : Files} {path : Path} {log : Log}

theorem read_of_parse {bytes : ByteArray} {v : Value}
    (h : ((parse words path bytes).run.run log).1 = .ok v) : ∃ s, Json.read s = .ok v := by
  unfold parse at h
  split at h
  · cases h
  · next s _ =>
    split at h
    · next hr =>
      cases h
      exact ⟨s, hr⟩
    all_goals cases h

/-- No two keys of a document are the same. -/
theorem distinctKeys_of_read {given : List (String × Value)}
    (h : ((Document.read words files path).run.run log).1 = .ok given) : DistinctKeys given := by
  unfold Document.read at h
  obtain ⟨found, -, h⟩ := ofExcept_bind_ok.1 h
  dsimp only at h
  split at h
  · split at h
    · cases h
    · split at h
      · rw [pure_bind] at h
        obtain ⟨v, log', hv, h⟩ := bind_ok.1 h
        split at h
        · obtain ⟨s, hs⟩ := read_of_parse (congrArg Prod.fst hv)
          obtain ⟨l, rfl, hl⟩ := Json.read_dict hs
          cases h
          rwa [textEntries_textKeyed]
        · cases h
      · cases h
  · cases h

end Document

namespace Config

open Reporting (bind_ok run_bind)

/-! ## What a file holds -/

/-- Does a file of settings hold an object with these entries?  Where there is
    no file, there are none. -/
def Provides (files : Files) (file : Option Path) (given : List (String × Value)) : Prop :=
  match file with
  | none => given = []
  | some path => (readFile files path).outcome.1 = .ok given

variable {files : Files} {file : Option Path} {given overrides : List (String × Value)}

theorem Provides.distinctKeys (h : Provides files file given) : DistinctKeys given := by
  cases file with
  | none =>
    cases h
    exact List.nodup_nil
  | some path =>
    obtain ⟨entries, log, hr, h⟩ := bind_ok.1 h
    obtain ⟨_, log', -, h⟩ := bind_ok.1 h
    cases h
    exact Document.distinctKeys_of_read (congrArg Prod.fst hr)

/-! ## Entries that are merged -/

/-- The entries of defaults, file and overrides. -/
def merge (given overrides : List (String × Value)) : List (String × Value) :=
  setKeys (setKeys defaultEntries given) overrides

/-- The value of a setting: from the overrides, else from the file, else the
    default. -/
def valueOf (given overrides : List (String × Value)) (s : Setting) : Value :=
  ((valueAt s.key overrides).or (valueAt s.key given)).getD s.default

theorem valueAt_merge (hg : DistinctKeys given) (ho : DistinctKeys overrides) (s : Setting) :
    valueAt s.key (merge given overrides) = some (valueOf given overrides s) := by
  have hdefault : valueAt s.key defaultEntries = some s.default := by cases s <;> rfl
  rw [merge, valueAt_setKeys ho, valueAt_setKeys hg, hdefault, valueOf]
  cases valueAt s.key overrides <;> cases valueAt s.key given <;> rfl

theorem unknownEntries_merge (hg : DistinctKeys given) :
    unknownEntries (merge given overrides) =
      setKeys (unknownEntries given) (unknownEntries overrides) := by
  have hdefault : unknownEntries defaultEntries = [] := by decide
  rw [merge, unknownEntries_setKeys, unknownEntries_setKeys, hdefault, setKeys_nil hg.unknownEntries]

theorem load_eq (h : Provides files file given) (overrides : List (String × Value)) :
    (load files overrides file).outcome.1 = settled (merge given overrides) := by
  cases file with
  | none =>
    cases h
    exact ofEntries_eq _ _
  | some path =>
    show ((readFile files path >>= _).run.run []).1 = _
    rw [run_bind]
    rcases hr : (readFile files path).run.run [] with ⟨o, log⟩
    have ho : o = .ok given := by
      rw [Provides, Reporting.outcome, hr] at h
      exact h
    subst ho
    exact ofEntries_eq _ _

theorem settingsOf_merge (hg : DistinctKeys given) (ho : DistinctKeys overrides) (custom : Value) :
    settingsOf (merge given overrides) custom =
      fun s => if s = .custom then custom else valueOf given overrides s := by
  funext s
  rw [settingsOf, valueAt_merge hg ho, Option.getD_some]

theorem customOf_merge (hg : DistinctKeys given) (ho : DistinctKeys overrides) :
    customOf (merge given overrides) =
      if (setKeys (unknownEntries given) (unknownEntries overrides)).isEmpty then
        .ok (valueOf given overrides .custom)
      else extendCustom (valueOf given overrides .custom)
        (setKeys (unknownEntries given) (unknownEntries overrides)) := by
  rw [customOf, valueAt_merge hg ho, unknownEntries_merge hg, Option.getD_some]

/-- Entries that have been set are all gone only if there were none. -/
theorem setKeys_eq_nil {a b : List (String × Value)} : setKeys a b = [] ↔ a = [] ∧ b = [] := by
  have hne : ∀ (k : String) (v : Value) (a : List (String × Value)), setKey k v a ≠ [] := by
    intro k v a
    cases a with
    | nil => exact List.cons_ne_nil _ _
    | cons e a =>
      rw [setKey]
      split <;> exact List.cons_ne_nil _ _
  induction b generalizing a with
  | nil => exact ⟨fun h => ⟨h, rfl⟩, And.left⟩
  | cons e b ih =>
    show setKeys (setKey e.1 e.2 a) b = [] ↔ _
    exact ih.trans ⟨fun h => absurd h.1 (hne _ _ _), fun h => absurd h.2 (List.cons_ne_nil _ _)⟩

/-! ## Settings of the wrong kind -/

theorem hasKind_firstWrong? {value : Setting → Value} {s : Setting}
    (h : firstWrong? value = some s) : s.hasKind (value s) = false := by
  simpa using List.find?_some h

/-- The first setting but the custom ones whose value is not of its kind. -/
def firstOwnWrong? (value : Setting → Value) : Option Setting :=
  (Setting.all.filter (· ≠ .custom)).find? fun s => !s.hasKind (value s)

/-- The custom settings come last. -/
theorem firstWrong?_eq (value : Setting → Value) :
    firstWrong? value = (firstOwnWrong? value).or
      (if Setting.custom.hasKind (value .custom) then none else some .custom) := by
  have hall : Setting.all = Setting.all.filter (· ≠ .custom) ++ [.custom] := by decide
  rw [firstWrong?, hall, List.find?_append, firstOwnWrong?, List.find?_singleton]
  cases Setting.custom.hasKind (value .custom) <;> rfl

theorem ne_custom_of_firstOwnWrong? {value : Setting → Value} {s : Setting}
    (h : firstOwnWrong? value = some s) : s ≠ .custom := by
  simpa using (List.mem_filter.1 (List.mem_of_find?_eq_some h)).2

theorem firstOwnWrong?_congr {value value' : Setting → Value}
    (h : ∀ s, s ≠ .custom → value s = value' s) : firstOwnWrong? value = firstOwnWrong? value' := by
  refine List.find?_congr fun s hs => ?_
  rw [h s (by simpa using (List.mem_filter.1 hs).2)]

/-- Are settings with these values accepted if every value is of its kind, and
    otherwise refused as settings? -/
structure IsTypeSafe (value : Setting → Value) (loaded : Except Error Config) : Prop where
  accepts : (∀ s : Setting, s.hasKind (value s) = true) → ∃ c, loaded = .ok c ∧ c.HasKinds
  refuses : (∃ s : Setting, s.hasKind (value s) = false) → ∃ fault, loaded = .error (.config fault)

theorem kindError_eq_config {s : Setting} {v : Value} :
    (∃ fault, kindError s v = .config fault) ↔ v.isWritable = true := by
  unfold kindError
  split
  · next h => exact ⟨fun _ => h, fun _ => ⟨_, rfl⟩⟩
  · next h => exact ⟨nofun, fun hw => absurd hw h⟩

/-- What has been checked is refused at the first value of the wrong kind. -/
theorem isTypeSafe_checked_iff (value : Setting → Value) :
    IsTypeSafe value (checked value) ↔
      ∀ s, firstWrong? value = some s → (value s).isWritable = true := by
  cases hw : firstWrong? value with
  | none =>
    have hk := firstWrong?_eq_none.1 hw
    have hc : checked value = .ok (ofFunction value) := by rw [checked, hw]
    rw [hc]
    refine ⟨fun _ s h => (by cases h), fun _ => ⟨fun _ => ⟨_, rfl, fun s => ?_⟩, ?_⟩⟩
    · rw [get_ofFunction]
      exact hk s
    · rintro ⟨s, hs⟩
      rw [hk s] at hs
      cases hs
  | some s =>
    have hs := hasKind_firstWrong? hw
    have hc : checked value = .error (kindError s (value s)) := by rw [checked, hw]
    rw [hc]
    constructor
    · rintro h _ ⟨⟩
      obtain ⟨fault, hf⟩ := h.refuses ⟨s, hs⟩
      exact kindError_eq_config.1 ⟨fault, Except.error.inj hf⟩
    · intro h
      obtain ⟨fault, hf⟩ := kindError_eq_config.2 (h s rfl)
      refine ⟨fun hk => ?_, fun _ => ⟨fault, congrArg Except.error hf⟩⟩
      rw [hk s] at hs
      cases hs

theorem entriesOfPairs_error {vs : List Value} {e : Error} (h : entriesOfPairs vs = .error e) :
    ∃ fault, e = .value fault := by
  induction vs with
  | nil => cases h
  | cons v vs ih =>
    rw [entriesOfPairs] at h
    split at h
    · cases h
      exact ⟨_, rfl⟩
    · split at h
      · cases hr : entriesOfPairs vs with
        | error e' =>
          rw [hr] at h
          cases h
          exact ih hr
        | ok es => rw [hr] at h; cases h
      · cases h
        exact ⟨_, rfl⟩
    · cases h
      exact ⟨_, rfl⟩

theorem entriesOf_error {v : Value} {e : Error} (h : entriesOf v = .error e) :
    ∃ fault, e = .value fault := by
  unfold entriesOf at h
  split at h
  · cases h
  · split at h
    · exact entriesOfPairs_error h
    · cases h
      exact ⟨_, rfl⟩

/-- Can entries be added to a value?  Those that count as false hold none. -/
def IsExtensible (v : Value) : Prop := v.isTrue = false ∨ ∃ es, entriesOf v = .ok es

theorem extendCustom_extensible {v : Value} (h : IsExtensible v) (more : List (String × Value)) :
    ∃ es, extendCustom v more = .ok (.dict es) := by
  unfold extendCustom
  cases ht : v.isTrue with
  | false => exact ⟨_, rfl⟩
  | true =>
    obtain ⟨es, hes⟩ := h.resolve_left (by simp [ht])
    rw [if_pos rfl, hes]
    exact ⟨_, rfl⟩

theorem extendCustom_not_extensible {v : Value} (h : ¬ IsExtensible v)
    (more : List (String × Value)) : ∃ fault, extendCustom v more = .error (.value fault) := by
  obtain ⟨ht, he⟩ := not_or.1 h
  cases hr : entriesOf v with
  | ok es => exact absurd ⟨es, hr⟩ he
  | error e =>
    obtain ⟨fault, rfl⟩ := entriesOf_error hr
    refine ⟨fault, ?_⟩
    rw [extendCustom, if_pos (by simpa using ht), hr]
    rfl

theorem isExtensible_of_hasKind {v : Value} (h : Setting.custom.hasKind v = true) :
    IsExtensible v := by
  cases v with
  | dict es => exact .inr ⟨es, rfl⟩
  | _ => cases h

/-- Custom settings that have been extended are a dictionary, so that only the
    other settings are looked at. -/
theorem isTypeSafe_extended_iff (value : Setting → Value) (es : List (Value × Value)) :
    IsTypeSafe value (checked fun s => if s = .custom then .dict es else value s) ↔
      ∀ s, firstWrong? value = some s → (value s).isWritable = true ∧ s ≠ .custom := by
  let extended : Setting → Value := fun s => if s = .custom then .dict es else value s
  have hvalue : ∀ s, s ≠ .custom → extended s = value s := fun s hs => if_neg hs
  have hfirst : firstWrong? extended = firstOwnWrong? value := by
    rw [firstWrong?_eq, firstOwnWrong?_congr hvalue]
    exact Option.or_none
  have hw := firstWrong?_eq value
  show IsTypeSafe value (checked extended) ↔ _
  rw [checked, hfirst]
  cases ho : firstOwnWrong? value with
  | some s =>
    -- another setting than the custom ones is wrong, and is looked at first
    have hs := ne_custom_of_firstOwnWrong? ho
    rw [ho, Option.some_or] at hw
    have hk := hasKind_firstWrong? hw
    dsimp only
    rw [hvalue s hs, hw]
    constructor
    · rintro h _ ⟨⟩
      obtain ⟨fault, hf⟩ := h.refuses ⟨s, hk⟩
      exact ⟨kindError_eq_config.1 ⟨fault, Except.error.inj hf⟩, hs⟩
    · intro h
      obtain ⟨fault, hf⟩ := kindError_eq_config.2 (h s rfl).1
      refine ⟨fun hall => ?_, fun _ => ⟨fault, congrArg Except.error hf⟩⟩
      rw [hall s] at hk
      cases hk
  | none =>
    have hkinds : (ofFunction extended).HasKinds := fun s => by
      rw [get_ofFunction]
      exact firstWrong?_eq_none.1 (hfirst.trans ho) s
    rw [ho, Option.none_or] at hw
    cases hc : Setting.custom.hasKind (value .custom) with
    | true =>
      rw [hc, if_pos rfl] at hw
      rw [hw]
      refine ⟨fun _ s h => (by cases h), fun _ => ⟨fun _ => ⟨_, rfl, hkinds⟩, ?_⟩⟩
      rintro ⟨s, hs⟩
      rw [firstWrong?_eq_none.1 hw s] at hs
      cases hs
    | false =>
      -- only the custom settings were wrong, and that is not seen any more
      rw [hc, if_neg Bool.false_ne_true] at hw
      rw [hw]
      refine ⟨fun h => ?_, fun h => absurd rfl (h .custom rfl).2⟩
      obtain ⟨fault, hf⟩ := h.refuses ⟨.custom, hc⟩
      cases hf

/-- **When kinds are checked.**  Settings whose values are all of their kinds are
    accepted, and others refused as settings, exactly if the first value of the
    wrong kind can be shown and is not overlooked: if there are keys that are no
    settings, it must be that of another setting than the custom ones, and those
    must be something that entries can be added to. -/
theorem kinds_checked_iff (hfile : Provides files file given) (ho : DistinctKeys overrides) :
    IsTypeSafe (valueOf given overrides) (load files overrides file).outcome.1 ↔
      ∀ s, firstWrong? (valueOf given overrides) = some s →
        (valueOf given overrides s).isWritable = true ∧
        (unknownEntries given = [] ∧ unknownEntries overrides = [] ∨
          s ≠ .custom ∧ IsExtensible (valueOf given overrides .custom)) := by
  have hg := hfile.distinctKeys
  rw [load_eq hfile, settled, customOf_merge hg ho]
  split
  · next hu =>
    have hnone := setKeys_eq_nil.1 (List.isEmpty_iff.1 hu)
    have hsame : settingsOf (merge given overrides) (valueOf given overrides .custom) =
        valueOf given overrides := by
      rw [settingsOf_merge hg ho]
      funext s
      split
      · next h => rw [h]
      · rfl
    show IsTypeSafe _ (checked (settingsOf _ _)) ↔ _
    rw [hsame, isTypeSafe_checked_iff]
    exact forall₂_congr fun s _ => (and_iff_left (.inl hnone)).symm
  · next hu =>
    have hsome : ¬ (unknownEntries given = [] ∧ unknownEntries overrides = []) := fun h =>
      hu (List.isEmpty_iff.2 (setKeys_eq_nil.2 h))
    by_cases hx : IsExtensible (valueOf given overrides .custom)
    · obtain ⟨es, hes⟩ := extendCustom_extensible hx
        (setKeys (unknownEntries given) (unknownEntries overrides))
      rw [hes]
      show IsTypeSafe _ (checked (settingsOf _ _)) ↔ _
      rw [settingsOf_merge hg ho, isTypeSafe_extended_iff]
      refine forall₂_congr fun s _ => and_congr_right fun _ => ?_
      rw [or_iff_right hsome, and_iff_left hx]
    · obtain ⟨fault, hf⟩ := extendCustom_not_extensible hx
        (setKeys (unknownEntries given) (unknownEntries overrides))
      have hkind : Setting.custom.hasKind (valueOf given overrides .custom) = false := by
        by_contra h
        exact hx (isExtensible_of_hasKind (by simpa using h))
      rw [hf]
      refine ⟨fun h => ?_, fun h => ?_⟩
      · obtain ⟨_, hr⟩ := h.refuses ⟨.custom, hkind⟩
        cases hr
      · cases hw : firstWrong? (valueOf given overrides) with
        | none =>
          rw [firstWrong?_eq_none.1 hw .custom] at hkind
          cases hkind
        | some s => exact absurd ((h s hw).2.resolve_left hsome).2 hx

/-- A file that holds the text of an object provides its entries. -/
theorem provides_of_text {path : Path} {text : String} {l : List (String × Value)}
    (hw : Files.empty.write path (bytesOfText text) = .ok files)
    (hs : path.suffix.toLower = ".json") (hn : Text.NoReturn text)
    (hj : Json.read text = .ok (.dict (textKeyed l))) : Provides files (some path) l := by
  obtain ⟨hr, he⟩ := Files.read_write hw
  show (readFile files path).outcome.1 = .ok l
  rw [readFile, read_document hs he hr hn hj]
  rfl

/-- A file in an empty directory. -/
theorem write_builder (content : ByteArray) :
    Files.empty.write (Path.ofString "builder.json") content =
      .ok ⟨[], [(["builder.json"], .file content)]⟩ := by
  rfl

/-- A file with a key that is no setting and a number that is a text: it is
    refused for the number. -/
theorem kinds_checked_text :
    let path := Path.ofString "builder.json"
    let text := "\x7b\"vendor\": \"acme\", \"indent_size\": \"4\"\x7d"
    let files : Files := ⟨[], [(["builder.json"], .file (bytesOfText text))]⟩
    let given := [("vendor", Value.text "acme"), ("indent_size", .text "4")]
    let overrides := [("use_tabs", Value.bool false)]
    Provides files (some path) given ∧ DistinctKeys overrides ∧
      IsTypeSafe (valueOf given overrides) (load files overrides (some path)).outcome.1 := by
  intro path text files given overrides
  have hfile : Provides files (some path) given :=
    provides_of_text (write_builder _) (by decide +kernel) (by decide)
      (Json.read_of_readsAs (by decide +kernel))
  have hkeys : DistinctKeys overrides := by decide
  refine ⟨hfile, hkeys, (kinds_checked_iff hfile hkeys).2 ?_⟩
  rintro s hs
  cases show some Setting.indentSize = some s from hs
  exact ⟨rfl, .inr ⟨nofun, .inl rfl⟩⟩

/-- Kinds are not always checked: a number in the place of the custom settings
    is an error of another kind, if there is a key that is no setting. -/
theorem kinds_not_checked :
    ¬ ∀ (files : Files) (file : Option Path) (given overrides : List (String × Value)),
      Provides files file given → DistinctKeys overrides →
      IsTypeSafe (valueOf given overrides) (load files overrides file).outcome.1 := by
  intro h
  have hsafe := h Files.empty none [] [("custom", .int 5), ("vendor", .text "acme")] rfl (by decide)
  obtain ⟨fault, hf⟩ := hsafe.refuses ⟨.custom, rfl⟩
  have hload : (load Files.empty [("custom", .int 5), ("vendor", .text "acme")] none).outcome.1 =
      .error (.value .wrongKind) := by rfl
  rw [hload] at hf
  cases hf

/-! ## Which value stands under a key -/

theorem valueUnder_setKeys {a b : List (String × Value)} (hb : DistinctKeys b) (k : Value) :
    Value.valueUnder (setKeys a b) k = (Value.valueUnder b k).or (Value.valueUnder a k) := by
  cases k with
  | text s => exact valueAt_setKeys hb s
  | _ => rfl

theorem valueUnder_eq_none {a : List (String × Value)} {k : Value} :
    Value.valueUnder a k = none ↔ ∀ u ∈ a, k ≠ .text u.1 := by
  cases k with
  | text s =>
    rw [Value.valueUnder, valueAt_eq_none]
    constructor
    · rintro h u hu ⟨⟩
      exact h (List.mem_map_of_mem hu)
    · intro h hm
      obtain ⟨u, hu, rfl⟩ := List.mem_map.1 hm
      exact h u hu rfl
  | _ => exact ⟨fun _ u _ h => (by cases h), fun _ => rfl⟩

theorem valueUnder_eq_some {a : List (String × Value)} (ha : DistinctKeys a) {k v : Value} :
    Value.valueUnder a k = some v ↔ ∃ u ∈ a, k = .text u.1 ∧ u.2 = v := by
  constructor
  · intro h
    cases k with
    | text s => exact ⟨(s, v), mem_of_valueAt h, rfl, rfl⟩
    | _ => cases h
  · rintro ⟨u, hu, rfl, rfl⟩
    exact valueAt_of_mem ha hu

theorem extendCustom_dict {es : List (Value × Value)} (h : Value.DistinctEntries es)
    (more : List (String × Value)) :
    extendCustom (.dict es) more = .ok (.dict (Value.updateEntries es (textKeyed more))) := by
  have hes := Value.updateEntries_distinct h
  cases es with
  | nil => rfl
  | cons e es =>
    show Except.ok (Value.dict (Value.updateEntries (Value.updateEntries [] (e :: es))
      (textKeyed more))) = _
    rw [hes]

/-- What is found among the custom settings: the keys of the overrides that are
    no settings come first, then those of the file, and then the custom settings
    that are given. -/
theorem lookup?_custom (hg : DistinctKeys given) (ho : DistinctKeys overrides)
    {entries : List (Value × Value)}
    (h : customOf (merge given overrides) = .ok (.dict entries)) :
    ∃ old, (∀ es, valueOf given overrides .custom = .dict es → Value.DistinctEntries es → old = es) ∧
      ∀ k, Value.lookup? entries k = ((Value.valueUnder (unknownEntries overrides) k).or
        (Value.valueUnder (unknownEntries given) k)).or (Value.lookup? old k) := by
  have hfound (old : List (Value × Value)) (k : Value) :
      Value.lookup? (Value.updateEntries old
          (textKeyed (setKeys (unknownEntries given) (unknownEntries overrides)))) k =
        (Value.valueUnder (setKeys (unknownEntries given) (unknownEntries overrides)) k).or
          (Value.lookup? old k) :=
    Value.lookup?_updateEntries_textKeyed (hg.unknownEntries.setKeys (unknownEntries overrides))
  simp only [valueUnder_setKeys ho.unknownEntries] at hfound
  rw [customOf_merge hg ho] at h
  split at h
  · next hempty =>
    have hv : valueOf given overrides .custom = .dict entries := Except.ok.inj h
    refine ⟨entries, fun es hes _ => Value.dict.inj (hv.symm.trans hes), fun k => ?_⟩
    rw [← hfound, List.isEmpty_iff.1 hempty]
    rfl
  · by_cases hdict : ∃ es, valueOf given overrides .custom = .dict es ∧ Value.DistinctEntries es
    · obtain ⟨es, hes, hd⟩ := hdict
      rw [hes, extendCustom_dict hd] at h
      cases h
      exact ⟨es, fun es' hes' _ => Value.dict.inj (hes.symm.trans hes'), hfound es⟩
    · obtain ⟨old, -, heq⟩ := extendCustom_eq h
      cases heq
      exact ⟨_, fun es hes hd => absurd ⟨es, hes, hd⟩ hdict, hfound _⟩

theorem mem_unknownEntries {a : List (String × Value)} {u : String × Value} :
    u ∈ unknownEntries a ↔ u ∈ a ∧ Setting.ofKey? u.1 = none := by
  rw [unknownEntries, List.mem_filter, Option.isNone_iff_eq_none]

/-- **Overrides go over a file.**  Settings take their values from the
    overrides, else from the file, else they are the defaults.  Among the custom
    settings stand the keys of the overrides that are no settings, and those of
    the file that the overrides do not have.  What the overrides give as a custom
    setting, and not also as such a key, stands there exactly if the file does not
    have another value for it among its keys that are no settings. -/
theorem overrides_win (hfile : Provides files file given) (ho : DistinctKeys overrides) {c : Config}
    (hload : (load files overrides file).outcome.1 = .ok c) :
    (∀ s, s ≠ .custom → c.get s = valueOf given overrides s) ∧
    ∃ entries, c.custom = .dict entries ∧
      (∀ u ∈ unknownEntries overrides, Value.lookup? entries (.text u.1) = some u.2) ∧
      (∀ u ∈ unknownEntries given, u.1 ∉ overrides.map (·.1) →
        Value.lookup? entries (.text u.1) = some u.2) ∧
      ∀ es, valueAt Setting.custom.key overrides = some (.dict es) → Value.DistinctEntries es →
        ∀ k v, Value.lookup? es k = some v → (∀ u ∈ unknownEntries overrides, k ≠ .text u.1) →
          (Value.lookup? entries k = some v ↔
            ∀ u ∈ unknownEntries given, k = .text u.1 → u.2 = v) := by
  have hg := hfile.distinctKeys
  have hentries : ((ofEntries (merge given overrides)).run.run []).1 = .ok c := by
    rw [ofEntries_eq, ← load_eq hfile, hload]
  obtain ⟨custom, hcustom, rfl, hk⟩ := ofEntries_ok.1 hentries
  rw [settingsOf_merge hg ho] at hk ⊢
  refine ⟨fun s hs => ?_, ?_⟩
  · rw [get_ofFunction]
    exact if_neg hs
  obtain ⟨entries, rfl⟩ : ∃ entries, custom = .dict entries := by
    have hkind : Setting.custom.hasKind custom = true := hk .custom
    cases custom with
    | dict entries => exact ⟨entries, rfl⟩
    | _ => cases hkind
  obtain ⟨old, hold, hfound⟩ := lookup?_custom hg ho hcustom
  refine ⟨entries, rfl, fun u hmem => ?_, fun u hmem hnot => ?_, fun es hes hd k v hv hnot => ?_⟩
  · rw [hfound, (valueUnder_eq_some ho.unknownEntries).2 ⟨u, hmem, rfl, rfl⟩]
    rfl
  · have hnone : Value.valueUnder (unknownEntries overrides) (.text u.1) = none := by
      refine valueUnder_eq_none.2 fun w hw hk => hnot ?_
      rw [Value.text.inj hk]
      exact List.mem_map_of_mem (mem_unknownEntries.1 hw).1
    rw [hfound, hnone, (valueUnder_eq_some hg.unknownEntries).2 ⟨u, hmem, rfl, rfl⟩]
    rfl
  · have hcustom : valueOf given overrides .custom = .dict es := by rw [valueOf, hes]; rfl
    rw [hfound, valueUnder_eq_none.2 hnot, Option.none_or, hold es hcustom hd, hv]
    constructor
    · intro h u hmem hk
      rw [(valueUnder_eq_some hg.unknownEntries).2 ⟨u, hmem, hk, rfl⟩] at h
      exact Option.some.inj h
    · intro h
      cases hunder : Value.valueUnder (unknownEntries given) k with
      | none => rfl
      | some w =>
        obtain ⟨u, hmem, hk, rfl⟩ := (valueUnder_eq_some hg.unknownEntries).1 hunder
        exact congrArg some (h u hmem hk)

/-- A setting of a file that is overridden, with custom settings from both. -/
theorem overrides_win_owner :
    let path := Path.ofString "builder.json"
    let text := "\x7b\"vendor\": \"acme\", \"indent_size\": 8\x7d"
    let files : Files := ⟨[], [(["builder.json"], .file (bytesOfText text))]⟩
    let given := [("vendor", Value.text "acme"), ("indent_size", .int 8)]
    let owner := [(Value.text "owner", Value.text "tools")]
    let overrides := [("indent_size", Value.int 2), ("team", .text "build"), ("custom", .dict owner)]
    let entries := owner ++ [(.text "vendor", .text "acme"), (.text "team", .text "build")]
    let c := { default with indentSize := .int 2, custom := .dict entries }
    Provides files (some path) given ∧ DistinctKeys overrides ∧
      (load files overrides (some path)).outcome.1 = .ok c ∧ c.get .indentSize = .int 2 ∧
      Value.lookup? entries (.text "vendor") = some (.text "acme") ∧
      Value.lookup? entries (.text "owner") = some (.text "tools") := by
  intro path text files given owner overrides entries c
  have hfile : Provides files (some path) given :=
    provides_of_text (write_builder _) (by decide +kernel) (by decide)
      (Json.read_of_readsAs (by decide +kernel))
  have hkeys : DistinctKeys overrides := by decide
  have hload : (load files overrides (some path)).outcome.1 = .ok c := by
    rw [load_eq hfile]
    rfl
  obtain ⟨hsettings, _, ⟨⟩, -, hfound, howner⟩ := overrides_win hfile hkeys hload
  have hvendor : ("vendor", Value.text "acme") ∈ unknownEntries given :=
    mem_unknownEntries.2 ⟨List.mem_cons_self, by decide⟩
  have hother : ∀ u ∈ unknownEntries given, Value.text "owner" = .text u.1 → u.2 = .text "tools" := by
    intro u hu hk
    cases List.mem_singleton.1 (show u ∈ [("vendor", Value.text "acme")] from hu)
    exact absurd (Value.text.inj hk) (by decide)
  have hteam : ∀ u ∈ unknownEntries overrides, Value.text "owner" ≠ .text u.1 := by
    intro u hu hk
    cases List.mem_singleton.1 (show u ∈ [("team", Value.text "build")] from hu)
    exact absurd (Value.text.inj hk) (by decide)
  exact ⟨hfile, hkeys, hload, hsettings .indentSize nofun, hfound _ hvendor (by decide),
    (howner owner rfl (List.pairwise_singleton _ _) _ _ rfl hteam).2 hother⟩

/-- Overrides do not always go over a file: a key of the file that is no setting
    takes the place of what the overrides give as a custom setting. -/
theorem overrides_not_winning :
    ¬ ∀ (files : Files) (file : Option Path) (given overrides : List (String × Value)) (c : Config),
      Provides files file given →
      (∀ (s : Setting) v, valueAt s.key given = some v → s.hasKind v = true) →
      DistinctKeys overrides → (load files overrides file).outcome.1 = .ok c →
      ∀ es entries, valueAt Setting.custom.key overrides = some (.dict es) →
        Value.DistinctEntries es → c.custom = .dict entries →
        ∀ k v, Value.lookup? es k = some v → (∀ u ∈ overrides, k ≠ .text u.1) →
          Value.lookup? entries k = some v := by
  intro h
  let text := "\x7b\"vendor\": \"a\"\x7d"
  let given := [("vendor", Value.text "a")]
  let es := [(Value.text "vendor", Value.text "b")]
  let entries := [(Value.text "vendor", Value.text "a")]
  let files : Files := ⟨[], [(["builder.json"], .file (bytesOfText text))]⟩
  let file := some (Path.ofString "builder.json")
  have hfile : Provides files file given :=
    provides_of_text (write_builder _) (by decide +kernel) (by decide)
      (Json.read_of_readsAs (by decide +kernel))
  have hkinds : ∀ (s : Setting) v, valueAt s.key given = some v → s.hasKind v = true := by
    intro s v hv
    cases s <;> cases hv
  have hload : (load files [("custom", .dict es)] file).outcome.1 =
      .ok { default with custom := .dict entries } := by
    rw [load_eq hfile]
    rfl
  have hfound := h _ _ given [("custom", .dict es)] _ hfile hkinds (by decide) hload es entries rfl
    (List.pairwise_singleton _ _) rfl (.text "vendor") (.text "b") rfl fun u hu hk => by
      cases List.mem_singleton.1 hu
      exact absurd (Value.text.inj hk) (by decide)
  have htext : some (Value.text "a") = some (.text "b") := hfound
  exact absurd (Value.text.inj (Option.some.inj htext)) (by decide)

end Config

end CxxWriter
