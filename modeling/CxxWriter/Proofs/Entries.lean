/-
  Entries by their keys.

  * `valueAt_setKeys`, `unknownEntries_setKeys`: what is found, and what is no
    setting, after entries have been set;
  * `textKeyed`: entries with texts as keys, as they stand in a dictionary, where
    they are set in the same way (`updateEntries_textKeyed`);
  * `mem_updateEntries`: where the entries of a dictionary come from;
  * `Json.read_dict`: no two keys of an object that is read are the same.
-/
import CxxWriter.Config.Load
import CxxWriter.Proofs.Json

namespace CxxWriter

/-- An entry is found by its key, if no two keys are the same. -/
theorem find?_of_mem {α β : Type} [BEq α] [LawfulBEq α] {l : List (α × β)}
    (h : (l.map (·.1)).Nodup) {e : α × β} (he : e ∈ l) : l.find? (·.1 == e.1) = some e := by
  induction l with
  | nil => cases he
  | cons x l ih =>
    obtain ⟨hx, hl⟩ := List.nodup_cons.1 h
    rcases List.mem_cons.1 he with rfl | he
    · rw [List.find?_cons, beq_self_eq_true]
    · have hne : x.1 ≠ e.1 := fun heq => hx (List.mem_map.2 ⟨e, he, heq.symm⟩)
      rw [List.find?_cons, beq_eq_false_iff_ne.2 hne]
      exact ih hl he

/-! ## Keys that are texts -/

/-- The value under a key. -/
def valueAt (key : String) (entries : List (String × Value)) : Option Value :=
  (entries.find? (·.1 == key)).map (·.2)

/-- Are no two keys the same? -/
def DistinctKeys (entries : List (String × Value)) : Prop := (entries.map (·.1)).Nodup

instance (entries : List (String × Value)) : Decidable (DistinctKeys entries) :=
  inferInstanceAs (Decidable (List.Nodup _))

variable {a b : List (String × Value)} {key : String}

theorem valueAt_cons (key : String) (e : String × Value) (a : List (String × Value)) :
    valueAt key (e :: a) = if e.1 = key then some e.2 else valueAt key a := by
  rw [valueAt, List.find?_cons]
  by_cases h : e.1 = key
  · rw [if_pos h, beq_iff_eq.2 h]
    rfl
  · rw [if_neg h, beq_eq_false_iff_ne.2 h]
    rfl

theorem valueAt_eq_none : valueAt key a = none ↔ key ∉ a.map (·.1) := by
  induction a with
  | nil => simp [valueAt]
  | cons e a ih =>
    rw [valueAt_cons, List.map_cons, List.mem_cons, not_or]
    split
    · next h => exact ⟨nofun, fun hn => absurd h.symm hn.1⟩
    · next h => exact ih.trans ⟨fun hn => ⟨Ne.symm h, hn⟩, And.right⟩

theorem mem_of_valueAt {v : Value} (h : valueAt key a = some v) : (key, v) ∈ a := by
  induction a with
  | nil => cases h
  | cons e a ih =>
    rw [valueAt_cons] at h
    split at h
    · next hk =>
      cases h
      rw [← hk]
      exact List.mem_cons_self
    · exact List.mem_cons_of_mem e (ih h)

theorem valueAt_setKey (key k : String) (v : Value) (a : List (String × Value)) :
    valueAt key (setKey k v a) = if k = key then some v else valueAt key a := by
  induction a with
  | nil => rw [setKey, valueAt_cons]
  | cons e a ih =>
    rw [setKey]
    split
    · next he =>
      rw [valueAt_cons, valueAt_cons, he]
      split <;> rfl
    · next he =>
      rw [valueAt_cons, valueAt_cons, ih]
      by_cases hk : e.1 = key
      · rw [if_pos hk, if_pos hk, if_neg fun h => he (hk.trans h.symm)]
      · rw [if_neg hk, if_neg hk]

/-- The entries that are set last count. -/
theorem valueAt_setKeys (hb : DistinctKeys b) (key : String) :
    valueAt key (setKeys a b) = (valueAt key b).or (valueAt key a) := by
  induction b generalizing a with
  | nil => rfl
  | cons e b ih =>
    obtain ⟨hn, hb⟩ := List.nodup_cons.1 hb
    show valueAt key (setKeys (setKey e.1 e.2 a) b) = _
    rw [ih hb, valueAt_setKey, valueAt_cons]
    by_cases he : e.1 = key
    · rw [if_pos he, if_pos he, valueAt_eq_none.2 (he ▸ hn)]
      rfl
    · rw [if_neg he, if_neg he]

/-- Every value has been there or was set. -/
theorem mem_setKey {k : String} {v : Value} {e : String × Value} (h : e ∈ setKey k v a) :
    e ∈ a ∨ e = (k, v) := by
  induction a with
  | nil => exact .inr (List.mem_singleton.1 h)
  | cons x a ih =>
    rw [setKey] at h
    split at h
    · exact (List.mem_cons.1 h).symm.imp_left (List.mem_cons_of_mem x)
    · rcases List.mem_cons.1 h with rfl | h
      · exact .inl List.mem_cons_self
      · exact (ih h).imp_left (List.mem_cons_of_mem x)

theorem mem_setKeys {e : String × Value} (h : e ∈ setKeys a b) : e ∈ a ∨ e ∈ b := by
  induction b generalizing a with
  | nil => exact .inl h
  | cons x b ih =>
    rcases ih h with h | h
    · rcases mem_setKey h with h | rfl
      · exact .inl h
      · exact .inr List.mem_cons_self
    · exact .inr (List.mem_cons_of_mem x h)

/-- New keys come last. -/
theorem setKey_new {k : String} (v : Value) (h : k ∉ a.map (·.1)) :
    setKey k v a = a ++ [(k, v)] := by
  induction a with
  | nil => rfl
  | cons e a ih =>
    rw [List.map_cons, List.mem_cons, not_or] at h
    rw [setKey, if_neg (Ne.symm h.1), ih h.2, List.cons_append]

/-- Keys that are there already keep their places. -/
theorem map_fst_setKey {k : String} (v : Value) (h : k ∈ a.map (·.1)) :
    (setKey k v a).map (·.1) = a.map (·.1) := by
  induction a with
  | nil => cases h
  | cons e a ih =>
    rw [setKey]
    by_cases he : e.1 = k
    · rw [if_pos he, List.map_cons, List.map_cons, he]
    · rw [List.map_cons, List.mem_cons] at h
      rw [if_neg he, List.map_cons, List.map_cons, ih (h.resolve_left (Ne.symm he))]

theorem DistinctKeys.setKey (ha : DistinctKeys a) (k : String) (v : Value) :
    DistinctKeys (setKey k v a) := by
  by_cases h : k ∈ a.map (·.1)
  · rw [DistinctKeys, map_fst_setKey v h]
    exact ha
  · rw [DistinctKeys, setKey_new v h, List.map_append]
    refine List.nodup_append.2 ⟨ha, List.pairwise_singleton _ _, fun x hx y hy hxy => h ?_⟩
    have hk : y = k := List.mem_singleton.1 hy
    rw [← hk, ← hxy]
    exact hx

theorem DistinctKeys.setKeys (ha : DistinctKeys a) (b : List (String × Value)) :
    DistinctKeys (setKeys a b) := by
  induction b generalizing a with
  | nil => exact ha
  | cons e b ih => exact ih (ha.setKey e.1 e.2)

theorem setKeys_nil (hb : DistinctKeys b) : setKeys [] b = b := by
  have h : ∀ a, DistinctKeys (a ++ b) → setKeys a b = a ++ b := by
    clear hb
    intro a
    induction b generalizing a with
    | nil => exact fun _ => (List.append_nil a).symm
    | cons e b ih =>
      intro hab
      have hn : e.1 ∉ a.map (·.1) := fun hm => by
        rw [DistinctKeys, List.map_append, List.nodup_append] at hab
        exact hab.2.2 _ hm _ List.mem_cons_self rfl
      show setKeys (CxxWriter.setKey e.1 e.2 a) b = _
      rw [setKey_new e.2 hn, ih _ (by rwa [List.append_assoc]), List.append_assoc]
      rfl
  exact h [] hb

theorem unknownEntries_setKey (k : String) (v : Value) (a : List (String × Value)) :
    Config.unknownEntries (setKey k v a) =
      if (Setting.ofKey? k).isNone then setKey k v (Config.unknownEntries a)
      else Config.unknownEntries a := by
  unfold Config.unknownEntries
  induction a with
  | nil =>
    rw [setKey, List.filter_cons]
    rfl
  | cons e a ih =>
    rw [setKey]
    by_cases he : e.1 = k
    · rw [if_pos he, List.filter_cons, List.filter_cons, he]
      split
      · rw [setKey, if_pos he]
      · rfl
    · rw [if_neg he, List.filter_cons, List.filter_cons, ih]
      split
      · split
        · rw [setKey, if_neg he]
        · rfl
      · rfl

theorem unknownEntries_setKeys (a b : List (String × Value)) :
    Config.unknownEntries (setKeys a b) =
      setKeys (Config.unknownEntries a) (Config.unknownEntries b) := by
  induction b generalizing a with
  | nil => rfl
  | cons e b ih =>
    show Config.unknownEntries (setKeys (setKey e.1 e.2 a) b) = _
    rw [ih, unknownEntries_setKey]
    unfold Config.unknownEntries
    rw [List.filter_cons]
    split <;> rfl

theorem DistinctKeys.unknownEntries {a : List (String × Value)} (ha : DistinctKeys a) :
    DistinctKeys (Config.unknownEntries a) :=
  ha.sublist (List.filter_sublist.map _)

/-! ## Entries of dictionaries -/

/-- Entries with texts as keys, as those of a dictionary. -/
def textKeyed (entries : List (String × Value)) : List (Value × Value) :=
  entries.map fun e => (.text e.1, e.2)

theorem same_text (s t : String) : (Value.text s).same (.text t) = (s == t) := by
  simp [Value.same, Value.sameLeaf]

theorem textEntries_textKeyed (entries : List (String × Value)) :
    Value.textEntries (textKeyed entries) = entries := by
  induction entries with
  | nil => rfl
  | cons e entries ih =>
    rw [textKeyed, List.map_cons, Value.textEntries, List.filterMap_cons]
    exact congrArg (e :: ·) ih

theorem insertEntry_textKeyed (k : String) (v : Value) (entries : List (String × Value)) :
    Value.insertEntry (.text k) v (textKeyed entries) = textKeyed (setKey k v entries) := by
  induction entries with
  | nil => rfl
  | cons e entries ih =>
    rw [textKeyed, List.map_cons, Value.insertEntry, setKey, same_text]
    by_cases h : e.1 = k
    · rw [if_pos (beq_iff_eq.2 h), if_pos h, h]
      rfl
    · rw [if_neg (by simpa using h), if_neg h]
      exact congrArg ((Value.text e.1, e.2) :: ·) ih

theorem updateEntries_textKeyed (a b : List (String × Value)) :
    Value.updateEntries (textKeyed a) (textKeyed b) = textKeyed (setKeys a b) := by
  induction b generalizing a with
  | nil => rfl
  | cons e b ih =>
    show Value.updateEntries (Value.insertEntry (.text e.1) e.2 (textKeyed a)) (textKeyed b) = _
    rw [insertEntry_textKeyed, ih]
    rfl

theorem updateEntries_nil (h : DistinctKeys b) :
    Value.updateEntries [] (textKeyed b) = textKeyed b := by
  rw [show ([] : List (Value × Value)) = textKeyed [] from rfl, updateEntries_textKeyed,
    setKeys_nil h]

/-- An entry has been there, or its value comes from one that was set. -/
theorem mem_insertEntry {key value k v : Value} {entries : List (Value × Value)}
    (h : (k, v) ∈ Value.insertEntry key value entries) :
    (k, v) ∈ entries ∨ v = value ∧ (k = key ∨ k.same key = true) := by
  induction entries with
  | nil => exact .inr ⟨congrArg Prod.snd (List.mem_singleton.1 h),
      .inl (congrArg Prod.fst (List.mem_singleton.1 h))⟩
  | cons e entries ih =>
    rw [Value.insertEntry] at h
    split at h
    · next hs =>
      rcases List.mem_cons.1 h with he | h
      · cases he
        exact .inr ⟨rfl, .inr hs⟩
      · exact .inl (List.mem_cons_of_mem e h)
    · rcases List.mem_cons.1 h with rfl | h
      · exact .inl List.mem_cons_self
      · exact (ih h).imp_left (List.mem_cons_of_mem e)

theorem mem_updateEntries {k v : Value} {es fs : List (Value × Value)}
    (h : (k, v) ∈ Value.updateEntries es fs) :
    (k, v) ∈ es ∨ ∃ e ∈ fs, v = e.2 ∧ (k = e.1 ∨ k.same e.1 = true) := by
  induction fs generalizing es with
  | nil => exact .inl h
  | cons e fs ih =>
    rcases ih h with h | ⟨e', he', hv⟩
    · exact (mem_insertEntry h).imp_right fun hv => ⟨e, List.mem_cons_self, hv⟩
    · exact .inr ⟨e', List.mem_cons_of_mem e he', hv⟩

theorem isNewKey_iff {es : List (Value × Value)} {k : Value} :
    k.isNewKey es = true → ∃ s, k = .text s ∧ ∀ e ∈ es, e.1.same (.text s) = false := by
  cases k with
  | text s => exact fun h => ⟨s, rfl, by simpa [Value.isNewKey] using h⟩
  | _ => intro h; cases h

theorem areJsonEntries_textKeyed (hd : DistinctKeys a) (hj : ∀ e ∈ a, e.2.isJson = true) :
    Value.areJsonEntries (textKeyed a) = true := by
  induction a with
  | nil => rfl
  | cons e a ih =>
    obtain ⟨hn, hd⟩ := List.nodup_cons.1 hd
    have hnew : Value.isNewKey (textKeyed a) (.text e.1) = true := by
      rw [Value.isNewKey, Bool.not_eq_true', List.any_eq_false]
      intro x hx hsame
      obtain ⟨e', he', rfl⟩ := List.mem_map.1 hx
      rw [same_text, beq_iff_eq] at hsame
      exact hn (List.mem_map.2 ⟨e', he', hsame⟩)
    show (Value.isNewKey (textKeyed a) (.text e.1) && e.2.isJson &&
      Value.areJsonEntries (textKeyed a)) = true
    rw [hnew, hj e List.mem_cons_self, ih hd fun x hx => hj x (List.mem_cons_of_mem e hx)]
    rfl

/-- The keys of an object in JSON are texts of which no two are the same. -/
theorem exists_textKeyed {es : List (Value × Value)} (h : Value.areJsonEntries es = true) :
    ∃ l, es = textKeyed l ∧ DistinctKeys l ∧ ∀ e ∈ l, e.2.isJson = true := by
  induction es with
  | nil => exact ⟨[], rfl, List.nodup_nil, nofun⟩
  | cons e es ih =>
    obtain ⟨k, v⟩ := e
    simp only [Value.areJsonEntries, Bool.and_eq_true] at h
    obtain ⟨l, rfl, hd, hj⟩ := ih h.2
    obtain ⟨s, rfl, hs⟩ := isNewKey_iff h.1.1
    refine ⟨(s, v) :: l, rfl, List.nodup_cons.2 ⟨fun hm => ?_, hd⟩, fun e he => ?_⟩
    · obtain ⟨e, he, rfl⟩ := List.mem_map.1 hm
      have hsame := hs _ (List.mem_map.2 ⟨e, he, rfl⟩)
      rw [same_text, beq_self_eq_true] at hsame
      cases hsame
    · rcases List.mem_cons.1 he with rfl | he
      · exact h.1.2
      · exact hj e he

/-! ## Objects that are read -/

namespace Json

/-- The second step gives the result, if the first one ends well. -/
theorem exists_of_bind_ok {ε α β : Type} {r : Except ε α} {f : α → Except ε β} {y : β}
    (h : r >>= f = .ok y) : ∃ x, r = .ok x ∧ f x = .ok y := by
  cases r with
  | error e => cases h
  | ok x => exact ⟨x, rfl, h⟩

theorem readItems_ok {fuel depth : Nat} {found : List Value} {cs rest : List Char} {v : Value}
    (h : readItems fuel depth found cs = .ok (v, rest)) : ∃ items, v = .list items := by
  induction fuel generalizing found cs with
  | zero => cases h
  | succ fuel ih =>
    rw [readItems] at h
    obtain ⟨⟨w, cs'⟩, -, h⟩ := exists_of_bind_ok h
    dsimp only at h
    split at h
    · cases h
      exact ⟨_, rfl⟩
    · exact ih h
    · cases h

/-- The entries of an object that is read have distinct keys: a later entry
    takes the place of an earlier one. -/
theorem readEntries_ok {fuel depth : Nat} {l : List (String × Value)} {cs rest : List Char}
    {v : Value} (hl : DistinctKeys l)
    (h : readEntries fuel depth (textKeyed l) cs = .ok (v, rest)) :
    ∃ l', v = .dict (textKeyed l') ∧ DistinctKeys l' := by
  induction fuel generalizing l cs with
  | zero => cases h
  | succ fuel ih =>
    rw [readEntries.eq_def] at h
    dsimp only at h
    split at h
    · obtain ⟨⟨key, cs₁⟩, -, h⟩ := exists_of_bind_ok h
      dsimp only at h
      split at h
      · obtain ⟨⟨w, cs₂⟩, -, h⟩ := exists_of_bind_ok h
        dsimp only at h
        rw [insertEntry_textKeyed] at h
        split at h
        · cases h
          exact ⟨_, rfl, hl.setKey key w⟩
        · exact ih (hl.setKey key w) h
        · cases h
      · cases h
    · cases h

theorem takeWord?_ne_dict {cs rest : List Char} {es : List (Value × Value)} :
    takeWord? cs ≠ some (.dict es, rest) := by
  intro h
  obtain ⟨w, hw, hd⟩ := List.exists_of_findSome?_eq_some h
  obtain ⟨_, -, he⟩ := Option.map_eq_some_iff.1 hd
  have hv : w.2 = .dict es := congrArg Prod.fst he
  simp only [words, List.mem_cons, List.not_mem_nil, or_false] at hw
  rcases hw with rfl | rfl | rfl | rfl | rfl | rfl <;> cases hv

theorem readNumber_ne_dict {cs rest : List Char} {es : List (Value × Value)} :
    readNumber cs ≠ .ok (.dict es, rest) := by
  intro h
  unfold readNumber at h
  dsimp only at h
  split at h
  · cases h
  · -- a whole number with too many digits, another one, or one with a fraction or a power
    repeat' split at h
    all_goals cases h

theorem readValue_dict {fuel depth : Nat} {cs rest : List Char} {es : List (Value × Value)}
    (h : readValue fuel depth cs = .ok (.dict es, rest)) :
    ∃ l, es = textKeyed l ∧ DistinctKeys l := by
  cases fuel with
  | zero => cases h
  | succ fuel =>
    rw [readValue.eq_def] at h
    dsimp only at h
    split at h
    · obtain ⟨⟨s, cs'⟩, -, h⟩ := exists_of_bind_ok h
      cases h
    · split at h
      · cases h
      · cases h
        exact ⟨[], rfl, List.nodup_nil⟩
      · obtain ⟨l, hv, hl⟩ := readEntries_ok (l := []) List.nodup_nil h
        exact ⟨l, Value.dict.inj hv, hl⟩
    · split at h
      · cases h
      · cases h
      · obtain ⟨items, hv⟩ := readItems_ok h
        cases hv
    · split at h
      · next hw =>
        cases h
        exact absurd hw takeWord?_ne_dict
      · exact absurd h readNumber_ne_dict

theorem read_dict {s : String} {es : List (Value × Value)} (h : read s = .ok (.dict es)) :
    ∃ l, es = textKeyed l ∧ DistinctKeys l := by
  have hd : readDocument s.toList = .ok (.dict es) := by
    rw [read] at h
    cases hr : readDocument s.toList with
    | error e => rw [hr] at h; cases h
    | ok v => rw [hr] at h; cases h; rfl
  unfold readDocument at hd
  split at hd
  · cases hd
  · obtain ⟨⟨v, rest⟩, hv, hd⟩ := exists_of_bind_ok hd
    dsimp only at hd
    split at hd
    · cases hd
      exact readValue_dict hv
    · cases hd

end Json

end CxxWriter
