/-
  Values that can be written as JSON, and what they are read as.

  * `Value.form`: what a value is read as: a tuple is a list then, keys are texts and
    of two entries with keys of the same text the later one counts;
  * `readsBack`: a value that can be written is read as this, whatever follows it;
  * `IsDocument`, `isDocument_write`: what is written of it is a whole document;
  * `form_eq_self`: a value with a form in JSON is read as itself, up to its doubles.
-/
import CxxWriter.Proofs.ReadBack

namespace CxxWriter

namespace Value

/-- The text of a key that has one. -/
def keyName (k : Value) : String :=
  match Json.keyText k with
  | .ok s => s
  | .error _ => ""

mutual

/-- What a value is read as once it has been written. -/
def form : Value → Value
  | .list items | .tuple items => .list (forms items)
  | .dict entries => .dict (textKeyed (setKeys [] (formEntries entries)))
  | .float x => .float (Json.reread x)
  | v => v

/-- What values are read as. -/
def forms : List Value → List Value
  | [] => []
  | v :: vs => form v :: forms vs

/-- What the entries of an object are read as, one after another. -/
def formEntries : List (Value × Value) → List (String × Value)
  | [] => []
  | (k, v) :: es => (k.keyName, form v) :: formEntries es

end

end Value

namespace Json

open Value (isSerializable areSerializable areSerializableEntries form forms formEntries height heights
  heightEntries)

/-! ## The texts of values -/

theorem andThen_text {w : Written} (h : w.fault = none) (next : Written) :
    (w.andThen next).text = w.text ++ next.text := by
  rw [Written.andThen, h]

/-- The characters that a value is written as. -/
def charsAt (level : Nat) (v : Value) : List Char := (writeAt level v).text.toList

/-- A line feed and the spaces of a level. -/
def lineChars (level : Nat) : List Char := '\n' :: List.replicate (2 * level) ' '

theorem toList_lineAt (level : Nat) : (lineAt level).toList = lineChars level :=
  String.toList_ofList

/-- The characters of items, up to the end of the list. -/
def itemChars (level : Nat) : List Value → List Char
  | [] => []
  | v :: vs => charsAt level v ++ (writeMoreItems level vs).text.toList

/-- The characters of entries, up to the end of the object. -/
def entryChars (level : Nat) : List (Value × Value) → List Char
  | [] => []
  | (k, v) :: es =>
    (quote k.keyName).toList ++ ':' :: ' ' :: (charsAt level v ++ (writeMoreEntries level es).text.toList)

/-- The texts that stand between values. -/
theorem toList_marks : "[".toList = ['['] ∧ "]".toList = [']'] ∧ "\x7b".toList = ['\x7b'] ∧
    "\x7d".toList = ['\x7d'] ∧ ",".toList = [','] ∧ ": ".toList = [':', ' '] := by
  decide

theorem keyText_keyName {k : Value} (h : (keyText k).isOk = true) : keyText k = .ok k.keyName := by
  rw [Value.keyName]
  cases hk : keyText k with
  | ok s => rfl
  | error f => rw [hk] at h; cases h

theorem writeMoreItems_chars {v : Value} {vs : List Value} (h : v.isSerializable = true) (level : Nat) :
    (writeMoreItems level (v :: vs)).text.toList = ',' :: (lineChars level ++ itemChars level (v :: vs)) := by
  have hv := (writeAt_complete_iff v level).2 h
  rw [writeMoreItems, writeLead_complete h,
    andThen_text (andThen_complete.2 ⟨done_complete _, hv⟩), andThen_text (done_complete _)]
  simp [Written.done, String.toList_append, toList_lineAt, toList_marks, itemChars, charsAt]

theorem writeItems_chars {v : Value} {vs : List Value} (h : areSerializable (v :: vs) = true)
    (level : Nat) : (writeItems level (v :: vs)).text.toList =
      '[' :: (lineChars (level + 1) ++ (itemChars (level + 1) (v :: vs) ++ (lineChars level ++ [']']))) := by
  rw [areSerializable, Bool.and_eq_true] at h
  have hv := (writeAt_complete_iff v (level + 1)).2 h.1
  have hvs := (writeMoreItems_complete_iff vs (level + 1)).2 h.2
  have hfirst := andThen_complete.2 ⟨done_complete ("[" ++ lineAt (level + 1)), hv⟩
  rw [writeItems, writeLead_complete h.1, andThen_text (andThen_complete.2 ⟨hfirst, hvs⟩),
    andThen_text hfirst, andThen_text (done_complete _)]
  simp [Written.done, String.toList_append, toList_lineAt, toList_marks, itemChars, charsAt]

theorem writeMoreEntries_chars {k v : Value} {es : List (Value × Value)}
    (hk : (keyText k).isOk = true) (h : v.isSerializable = true) (level : Nat) :
    (writeMoreEntries level ((k, v) :: es)).text.toList =
      ',' :: (lineChars level ++ entryChars level ((k, v) :: es)) := by
  have hv := (writeAt_complete_iff v level).2 h
  rw [writeMoreEntries, keyText_keyName hk]
  dsimp only
  rw [andThen_text (andThen_complete.2 ⟨done_complete _, hv⟩), andThen_text (done_complete _)]
  simp [Written.done, String.toList_append, toList_lineAt, toList_marks, entryChars, charsAt]

theorem writeEntries_chars {k v : Value} {es : List (Value × Value)}
    (h : areSerializableEntries ((k, v) :: es) = true) (level : Nat) :
    (writeEntries level ((k, v) :: es)).text.toList =
      '\x7b' :: (lineChars (level + 1) ++ (entryChars (level + 1) ((k, v) :: es) ++
        (lineChars level ++ ['\x7d']))) := by
  rw [areSerializableEntries, Bool.and_eq_true, Bool.and_eq_true] at h
  have hv := (writeAt_complete_iff v (level + 1)).2 h.1.2
  have hes := (writeMoreEntries_complete_iff es (level + 1)).2 h.2
  rw [writeEntries, keyText_keyName h.1.1]
  dsimp only
  have hentry := andThen_complete.2 ⟨done_complete (quote k.keyName ++ ": "), hv⟩
  have hfirst := andThen_complete.2 ⟨done_complete ("\x7b" ++ lineAt (level + 1)), hentry⟩
  rw [andThen_text (andThen_complete.2 ⟨hfirst, hes⟩), andThen_text hfirst,
    andThen_text (done_complete _), andThen_text (done_complete _)]
  simp [Written.done, String.toList_append, toList_lineAt, toList_marks, entryChars, charsAt]

/-! ## Reading values -/

theorem skipSpace_line (level : Nat) (cs : List Char) :
    skipSpace (lineChars level ++ cs) = skipSpace cs := by
  refine List.dropWhile_append_of_pos fun c hc => ?_
  rcases List.mem_cons.1 hc with rfl | hc
  · rfl
  · rw [List.eq_of_mem_replicate hc]
    rfl

/-- Can an item start with a character?  It is no space, and neither the end of a list
    nor a byte order mark. -/
def startsItem (c : Char) : Bool := !isJsonSpace c && c != ']' && c != '\ufeff'

/-- Does a text start as an item does? -/
def StartsItem (cs : List Char) : Prop := cs.head?.any startsItem = true

instance (cs : List Char) : Decidable (StartsItem cs) := inferInstanceAs (Decidable (_ = true))

namespace StartsItem

theorem exists_cons {cs : List Char} (h : StartsItem cs) :
    ∃ c rest, cs = c :: rest ∧ isJsonSpace c = false ∧ c ≠ ']' ∧ c ≠ '\ufeff' := by
  cases cs with
  | nil => cases h
  | cons c rest =>
    have hc : startsItem c = true := h
    exact ⟨c, rest, rfl, by simpa [startsItem, and_assoc] using hc⟩

theorem append {cs : List Char} (h : StartsItem cs) (rest : List Char) : StartsItem (cs ++ rest) := by
  cases cs with
  | nil => cases h
  | cons c cs => exact h

theorem skipSpace {cs : List Char} (h : StartsItem cs) : skipSpace cs = cs := by
  obtain ⟨c, rest, rfl, hc, -⟩ := h.exists_cons
  rw [Json.skipSpace, List.dropWhile_cons_of_neg (by simp [hc])]

end StartsItem

theorem startsItem_number (negative : Bool) {whole : List Char} (hw : AreDigits whole) :
    StartsItem (signText negative ++ whole) := by
  cases negative with
  | true => exact rfl
  | false =>
    obtain ⟨d, ds, rfl⟩ := List.exists_cons_of_ne_nil hw.nonempty
    have hd : d.isDigit = true := hw.digits d List.mem_cons_self
    have hothers : ∀ c ∈ [' ', '\t', '\n', '\r', ']', '\ufeff'], c.isDigit = false := by
      simp [Char.isDigit]
    have hne : d ∉ [' ', '\t', '\n', '\r', ']', '\ufeff'] := fun hmem => by
      rw [hothers d hmem] at hd
      cases hd
    simp only [List.mem_cons, List.not_mem_nil, or_false, not_or] at hne
    show startsItem d = true
    simp [startsItem, isJsonSpace, hne]

theorem startsItem_writeItems {items : List Value} (h : areSerializable items = true) (level : Nat) :
    StartsItem (writeItems level items).text.toList := by
  cases items with
  | nil => exact show StartsItem "[]".toList by decide
  | cons v vs =>
    rw [writeItems_chars h]
    exact rfl

theorem startsItem_charsAt {v : Value} (h : v.isSerializable = true) (level : Nat) :
    StartsItem (charsAt level v) := by
  cases v with
  | null => exact show StartsItem "null".toList by decide
  | bool b =>
    cases b with
    | true => exact show StartsItem "true".toList by decide
    | false => exact show StartsItem "false".toList by decide
  | int n =>
    rw [isSerializable] at h
    rw [charsAt, writeAt, if_pos h]
    show StartsItem (toString n).toList
    rw [toList_int]
    exact startsItem_number _ (areDigits_toDigits _)
  | float x =>
    show StartsItem (floatText x).toList
    rcases floatText_starts x with hword | ⟨negative, whole, rest, hw, htext⟩
    · generalize floatText x = t at hword ⊢
      revert hword
      simp only [List.mem_cons, List.not_mem_nil, or_false]
      rintro (rfl | rfl | rfl) <;> decide
    · rw [htext, ← List.append_assoc]
      exact (startsItem_number negative hw).append rest
  | text s =>
    show StartsItem (quote s).toList
    rw [← List.append_nil (quote s).toList, toList_quote]
    exact rfl
  | list items =>
    rw [isSerializable] at h
    rw [charsAt, writeAt]
    exact startsItem_writeItems h level
  | tuple items =>
    rw [isSerializable] at h
    rw [charsAt, writeAt]
    exact startsItem_writeItems h level
  | dict entries =>
    rw [isSerializable] at h
    rw [charsAt, writeAt]
    cases entries with
    | nil => exact show StartsItem "\x7b\x7d".toList by decide
    | cons e es =>
      rw [writeEntries_chars h]
      exact rfl
  | _ => cases h

/-- The last item of a list. -/
theorem readItems_last {fuel depth : Nat} {found : List Value} {cs after rest : List Char} {v : Value}
    (hv : readValue fuel depth cs = .ok (v, after)) (hafter : skipSpace after = ']' :: rest) :
    readItems (fuel + 1) depth found cs = .ok (.list (found ++ [v]), rest) := by
  rw [readItems, hv]
  dsimp only [bind, Except.bind]
  rw [hafter]
  rfl

/-- An item of a list with others behind it. -/
theorem readItems_next {fuel depth : Nat} {found : List Value} {cs after rest : List Char} {v : Value}
    (hv : readValue fuel depth cs = .ok (v, after)) (hafter : skipSpace after = ',' :: rest) :
    readItems (fuel + 1) depth found cs = readItems fuel depth (found ++ [v]) (skipSpace rest) := by
  rw [readItems, hv]
  dsimp only [bind, Except.bind]
  rw [hafter]
  rfl

/-- A list that is not empty is read item by item. -/
theorem readValue_items {cs rest : List Char} (h : skipSpace cs = rest) (hs : StartsItem rest)
    (fuel depth : Nat) : readValue (fuel + 1) (depth + 1) ('[' :: cs) = readItems fuel depth [] rest := by
  obtain ⟨c, rest, rfl, -, hc, -⟩ := hs.exists_cons
  rw [readValue.eq_def]
  dsimp only
  split
  · next heq => cases heq
  · next heq => cases heq
  · next heq =>
    cases heq
    rw [h]
    split
    · next heq => cases heq
    · next heq _ => exact absurd (List.cons.inj heq).1 hc
    · next hdepth _ =>
      cases hdepth
      rfl
  · next hopens => exact absurd rfl (hopens cs)

/-- An object that is not empty is read entry by entry. -/
theorem readValue_entries {cs rest : List Char} (h : skipSpace cs = '"' :: rest) (fuel depth : Nat) :
    readValue (fuel + 1) (depth + 1) ('\x7b' :: cs) = readEntries fuel depth [] ('"' :: rest) := by
  rw [readValue.eq_def]
  dsimp only
  split
  · next heq => cases heq
  · next heq =>
    cases heq
    rw [h]
    rfl
  · next heq => cases heq
  · next hopens _ => exact absurd rfl (hopens cs)

section Entry

variable {fuel depth : Nat} {found : List (String × Value)} {key : String} {cs after rest : List Char}
  {v : Value} (hv : readValue fuel depth (skipSpace cs) = .ok (v, after))

include hv

theorem readEntries_step :
    readEntries (fuel + 1) depth (textKeyed found) ((quote key).toList ++ ':' :: cs) =
      match skipSpace after with
      | '\x7d' :: rest => .ok (Value.dict (textKeyed (setKey key v found)), rest)
      | ',' :: rest => readEntries fuel depth (textKeyed (setKey key v found)) (skipSpace rest)
      | rest => faultAt .expectedComma rest := by
  have hcolon : skipSpace (':' :: cs) = ':' :: cs := rfl
  rw [toList_quote, readEntries, textAfterQuote_quoted]
  dsimp only [bind, Except.bind]
  rw [hcolon]
  split
  · next heq =>
    cases heq
    rw [hv]
    dsimp only
    rw [insertEntry_textKeyed]
    rfl
  · next hother => exact absurd rfl (hother cs)

/-- The last entry of an object. -/
theorem readEntries_last (hafter : skipSpace after = '\x7d' :: rest) :
    readEntries (fuel + 1) depth (textKeyed found) ((quote key).toList ++ ':' :: cs) =
      .ok (.dict (textKeyed (setKey key v found)), rest) := by
  rw [readEntries_step hv, hafter]
  rfl

/-- An entry of an object with others behind it. -/
theorem readEntries_next (hafter : skipSpace after = ',' :: rest) :
    readEntries (fuel + 1) depth (textKeyed found) ((quote key).toList ++ ':' :: cs) =
      readEntries fuel depth (textKeyed (setKey key v found)) (skipSpace rest) := by
  rw [readEntries_step hv, hafter]
  rfl

end Entry

/-- Is a value read as its form, at every level, wherever it stands?  There is fuel for
    each character, as in `reads_settle`. -/
def ReadsBack (v : Value) : Prop :=
  ∀ {level fuel depth : Nat} {rest : List Char}, height v ≤ depth → Stops rest →
    2 * (charsAt level v ++ rest).length + 1 ≤ fuel →
    readValue fuel depth (charsAt level v ++ rest) = .ok (form v, rest)

/-- Are items read as their forms, up to the end of the list? -/
def ItemsReadBack (items : List Value) : Prop :=
  ∀ {level fuel depth : Nat} {found : List Value} {tail rest : List Char}, heights items ≤ depth →
    Stops tail → skipSpace tail = ']' :: rest →
    2 * (itemChars level items ++ tail).length + 2 ≤ fuel →
    readItems fuel depth found (itemChars level items ++ tail) = .ok (.list (found ++ forms items), rest)

/-- Are entries read as their forms, up to the end of the object? -/
def EntriesReadBack (entries : List (Value × Value)) : Prop :=
  ∀ {level fuel depth : Nat} {found : List (String × Value)} {tail rest : List Char},
    heightEntries entries ≤ depth → Stops tail → skipSpace tail = '\x7d' :: rest →
    2 * (entryChars level entries ++ tail).length + 2 ≤ fuel →
    readEntries fuel depth (textKeyed found) (entryChars level entries ++ tail) =
      .ok (.dict (textKeyed (setKeys found (formEntries entries))), rest)

theorem StartsItem.length_pos {cs : List Char} (h : StartsItem cs) : 0 < cs.length := by
  obtain ⟨c, rest, rfl, -⟩ := h.exists_cons
  exact Nat.succ_pos _

theorem startsItem_itemChars {v : Value} (h : v.isSerializable = true) (level : Nat) (vs : List Value) :
    StartsItem (itemChars level (v :: vs)) := (startsItem_charsAt h level).append _

theorem ItemsReadBack.single {v : Value} (hv : ReadsBack v) : ItemsReadBack [v] := by
  intro level fuel depth found tail rest hdepth hstops htail hfuel
  rw [heights, heights, Nat.max_zero] at hdepth
  have hchars : itemChars level [v] = charsAt level v := List.append_nil _
  rw [hchars] at hfuel ⊢
  obtain ⟨k, rfl⟩ : ∃ k, fuel = k + 1 := ⟨fuel - 1, by omega⟩
  exact readItems_last (hv hdepth hstops (by omega)) htail

theorem ItemsReadBack.cons {v w : Value} {ws : List Value} (h : v.isSerializable = true)
    (hw : w.isSerializable = true) (hv : ReadsBack v) (hws : ItemsReadBack (w :: ws)) :
    ItemsReadBack (v :: w :: ws) := by
  intro level fuel depth found tail rest hdepth hstops htail hfuel
  rw [heights] at hdepth
  have hpos := (startsItem_charsAt h level).length_pos
  have hstart := (startsItem_itemChars hw level ws).append tail
  obtain ⟨more, hmore⟩ : ∃ more, more = lineChars level ++ (itemChars level (w :: ws) ++ tail) :=
    ⟨_, rfl⟩
  have hchars : itemChars level (v :: w :: ws) ++ tail = charsAt level v ++ ',' :: more := by
    rw [itemChars, writeMoreItems_chars hw, hmore]
    simp only [List.append_assoc, List.cons_append]
  have hskip : skipSpace more = itemChars level (w :: ws) ++ tail := by
    rw [hmore, skipSpace_line, hstart.skipSpace]
  have hlength : (itemChars level (w :: ws) ++ tail).length ≤ more.length := by
    rw [hmore]
    exact (List.suffix_append (lineChars level) _).length_le
  rw [hchars] at hfuel ⊢
  simp only [List.length_append, List.length_cons] at hfuel hlength
  obtain ⟨k, rfl⟩ : ∃ k, fuel = k + 1 := ⟨fuel - 1, by omega⟩
  have hvalue : readValue k depth (charsAt level v ++ ',' :: more) = .ok (form v, ',' :: more) :=
    hv (Nat.le_trans (Nat.le_max_left _ _) hdepth) rfl
      (by simp only [List.length_append, List.length_cons]; omega)
  rw [readItems_next hvalue rfl, hskip,
    hws (Nat.le_trans (Nat.le_max_right _ _) hdepth) hstops htail
      (by rw [List.length_append]; omega), List.append_assoc]
  rfl

/-- Items between brackets. -/
theorem ItemsReadBack.list {items : List Value} (h : areSerializable items = true)
    (hitems : items ≠ [] → ItemsReadBack items) {level fuel depth : Nat} {rest : List Char}
    (hdepth : heights items + 1 ≤ depth)
    (hfuel : 2 * ((writeItems level items).text.toList ++ rest).length + 1 ≤ fuel) :
    readValue fuel depth ((writeItems level items).text.toList ++ rest) =
      .ok (.list (forms items), rest) := by
  obtain ⟨d, rfl⟩ : ∃ d, depth = d + 1 := ⟨depth - 1, by omega⟩
  obtain ⟨k, rfl⟩ : ∃ k, fuel = k + 1 := ⟨fuel - 1, by omega⟩
  cases items with
  | nil =>
    rw [writeItems]
    rfl
  | cons v vs =>
    have hv : v.isSerializable = true := by
      rw [areSerializable, Bool.and_eq_true] at h
      exact h.1
    obtain ⟨tail, htail⟩ : ∃ tail, tail = lineChars level ++ ']' :: rest := ⟨_, rfl⟩
    have hchars : (writeItems level (v :: vs)).text.toList ++ rest =
        '[' :: (lineChars (level + 1) ++ (itemChars (level + 1) (v :: vs) ++ tail)) := by
      rw [writeItems_chars h, htail]
      simp only [List.append_assoc, List.cons_append, List.nil_append]
    have hstart := (startsItem_itemChars hv (level + 1) vs).append tail
    have hskip := (skipSpace_line (level + 1) _).trans hstart.skipSpace
    rw [hchars] at hfuel ⊢
    simp only [List.length_append, List.length_cons] at hfuel
    rw [readValue_items hskip hstart]
    have hend : skipSpace tail = ']' :: rest := by
      rw [htail, skipSpace_line]
      rfl
    exact hitems (List.cons_ne_nil v vs) (Nat.le_of_succ_le_succ hdepth) (htail ▸ rfl) hend
      (by rw [List.length_append]; omega)

/-- The value of an entry stands behind a colon and a space. -/
theorem ReadsBack.behind {v : Value} (h : v.isSerializable = true) (hv : ReadsBack v)
    {level fuel depth : Nat} {rest : List Char} (hdepth : height v ≤ depth) (hstops : Stops rest)
    (hfuel : 2 * (charsAt level v ++ rest).length + 1 ≤ fuel) :
    readValue fuel depth (skipSpace (' ' :: (charsAt level v ++ rest))) = .ok (form v, rest) := by
  have hspace (cs : List Char) : skipSpace (' ' :: cs) = skipSpace cs := rfl
  rw [hspace, ((startsItem_charsAt h level).append rest).skipSpace]
  exact hv hdepth hstops hfuel

theorem EntriesReadBack.single {k v : Value} (h : v.isSerializable = true) (hv : ReadsBack v) :
    EntriesReadBack [(k, v)] := by
  intro level fuel depth found tail rest hdepth hstops htail hfuel
  rw [heightEntries, heightEntries, Nat.max_zero] at hdepth
  have hchars : entryChars level [(k, v)] ++ tail =
      (quote k.keyName).toList ++ ':' :: ' ' :: (charsAt level v ++ tail) := by
    rw [entryChars]
    simp [writeMoreEntries, Written.done]
  rw [hchars] at hfuel ⊢
  simp only [List.length_append, List.length_cons] at hfuel
  obtain ⟨n, rfl⟩ : ∃ n, fuel = n + 1 := ⟨fuel - 1, by omega⟩
  exact readEntries_last (hv.behind h (Nat.le_trans (Nat.le_max_right _ _) hdepth) hstops
    (by rw [List.length_append]; omega)) htail

theorem EntriesReadBack.cons {k l v w : Value} {es : List (Value × Value)}
    (h : v.isSerializable = true) (hl : (keyText l).isOk = true) (hw : w.isSerializable = true)
    (hv : ReadsBack v) (hes : EntriesReadBack ((l, w) :: es)) :
    EntriesReadBack ((k, v) :: (l, w) :: es) := by
  intro level fuel depth found tail rest hdepth hstops htail hfuel
  rw [heightEntries] at hdepth
  obtain ⟨more, hmore⟩ : ∃ more, more = lineChars level ++ (entryChars level ((l, w) :: es) ++ tail) :=
    ⟨_, rfl⟩
  have hchars : entryChars level ((k, v) :: (l, w) :: es) ++ tail =
      (quote k.keyName).toList ++ ':' :: ' ' :: (charsAt level v ++ ',' :: more) := by
    rw [entryChars, writeMoreEntries_chars hl hw, hmore]
    simp only [List.append_assoc, List.cons_append]
  have hskip : skipSpace more = entryChars level ((l, w) :: es) ++ tail := by
    rw [hmore, skipSpace_line, entryChars, List.append_assoc, toList_quote]
    rfl
  have hlength : (entryChars level ((l, w) :: es) ++ tail).length ≤ more.length := by
    rw [hmore]
    exact (List.suffix_append (lineChars level) _).length_le
  rw [hchars] at hfuel ⊢
  simp only [List.length_append, List.length_cons] at hfuel hlength
  obtain ⟨n, rfl⟩ : ∃ n, fuel = n + 1 := ⟨fuel - 1, by omega⟩
  have hvalue : readValue n depth (skipSpace (' ' :: (charsAt level v ++ ',' :: more))) =
      .ok (form v, ',' :: more) :=
    hv.behind h ((Nat.le_max_right _ _).trans ((Nat.le_max_left _ _).trans hdepth)) rfl
      (by simp only [List.length_append, List.length_cons]; omega)
  rw [readEntries_next hvalue rfl, hskip]
  exact hes (Nat.le_trans (Nat.le_max_right _ _) hdepth) hstops htail
    (by rw [List.length_append]; omega)

/-- Entries between braces. -/
theorem EntriesReadBack.dict {entries : List (Value × Value)}
    (h : areSerializableEntries entries = true) (hentries : entries ≠ [] → EntriesReadBack entries)
    {level fuel depth : Nat} {rest : List Char} (hdepth : heightEntries entries + 1 ≤ depth)
    (hfuel : 2 * ((writeEntries level entries).text.toList ++ rest).length + 1 ≤ fuel) :
    readValue fuel depth ((writeEntries level entries).text.toList ++ rest) =
      .ok (.dict (textKeyed (setKeys [] (formEntries entries))), rest) := by
  obtain ⟨d, rfl⟩ : ∃ d, depth = d + 1 := ⟨depth - 1, by omega⟩
  obtain ⟨n, rfl⟩ : ∃ n, fuel = n + 1 := ⟨fuel - 1, by omega⟩
  cases entries with
  | nil =>
    rw [writeEntries]
    rfl
  | cons e es =>
    obtain ⟨k, v⟩ := e
    obtain ⟨tail, htail⟩ : ∃ tail, tail = lineChars level ++ '\x7d' :: rest := ⟨_, rfl⟩
    have hchars : (writeEntries level ((k, v) :: es)).text.toList ++ rest =
        '\x7b' :: (lineChars (level + 1) ++ (entryChars (level + 1) ((k, v) :: es) ++ tail)) := by
      rw [writeEntries_chars h, htail]
      simp only [List.append_assoc, List.cons_append, List.nil_append]
    obtain ⟨cs, hcs⟩ : ∃ cs, entryChars (level + 1) ((k, v) :: es) ++ tail = '"' :: cs := by
      rw [entryChars, List.append_assoc, toList_quote]
      exact ⟨_, rfl⟩
    have hskip : skipSpace (lineChars (level + 1) ++ (entryChars (level + 1) ((k, v) :: es) ++ tail)) =
        '"' :: cs := by
      rw [skipSpace_line, hcs]
      rfl
    rw [hchars] at hfuel ⊢
    simp only [List.length_append, List.length_cons] at hfuel
    rw [readValue_entries hskip, ← hcs]
    have hend : skipSpace tail = '\x7d' :: rest := by
      rw [htail, skipSpace_line]
      rfl
    show readEntries n d (textKeyed []) _ = _
    exact hentries (List.cons_ne_nil _ es) (Nat.le_of_succ_le_succ hdepth) (htail ▸ rfl) hend
      (by rw [List.length_append]; omega)

theorem ReadsBack.word {v : Value} (s : String) (hword : (s, form v) ∈ words)
    (h : ∀ level, charsAt level v = s.toList) : ReadsBack v := by
  intro level fuel depth rest _ _ hfuel
  obtain ⟨n, rfl⟩ : ∃ n, fuel = n + 1 := ⟨fuel - 1, by omega⟩
  rw [h]
  exact readValue_word hword n depth rest

theorem ReadsBack.text (s : String) : ReadsBack (.text s) := by
  intro level fuel depth rest _ _ hfuel
  obtain ⟨n, rfl⟩ : ∃ n, fuel = n + 1 := ⟨fuel - 1, by omega⟩
  show readValue (n + 1) depth ((quote s).toList ++ rest) = _
  rw [toList_quote, readValue, textAfterQuote_quoted]
  rfl

theorem ReadsBack.float (x : Float) : ReadsBack (.float x) := by
  intro level fuel depth rest _ hstops hfuel
  obtain ⟨n, rfl⟩ : ∃ n, fuel = n + 1 := ⟨fuel - 1, by omega⟩
  exact readValue_floatText x hstops n depth

theorem ReadsBack.int {n : Int} (h : Value.isShort n = true) : ReadsBack (.int n) := by
  intro level fuel depth rest _ hstops hfuel
  obtain ⟨k, rfl⟩ : ∃ k, fuel = k + 1 := ⟨fuel - 1, by omega⟩
  have hchars : charsAt level (.int n) = (toString n).toList := by
    rw [charsAt, writeAt, if_pos h]
    rfl
  have hnumber := readNumber_int h hstops
  rw [hchars, toList_int, List.append_assoc] at *
  rw [readValue_number _ (areDigits_toDigits _)]
  exact hnumber

mutual

/-- A value that can be written is read as its form. -/
theorem readsBack : ∀ v : Value, v.isSerializable = true → ReadsBack v
  | .null => fun _ => ReadsBack.word "null" (by simp [words, form]) fun _ => rfl
  | .bool true => fun _ => ReadsBack.word "true" (by simp [words, form]) fun _ => rfl
  | .bool false => fun _ => ReadsBack.word "false" (by simp [words, form]) fun _ => rfl
  | .text s => fun _ => ReadsBack.text s
  | .int n => fun h => by
    rw [isSerializable] at h
    exact ReadsBack.int h
  | .float x => fun _ => ReadsBack.float x
  | .list items => fun h => by
    rw [isSerializable] at h
    intro level fuel depth rest hdepth _ hfuel
    exact ItemsReadBack.list h (itemsReadBack items h) hdepth hfuel
  | .tuple items => fun h => by
    rw [isSerializable] at h
    intro level fuel depth rest hdepth _ hfuel
    exact ItemsReadBack.list h (itemsReadBack items h) hdepth hfuel
  | .dict entries => fun h => by
    rw [isSerializable] at h
    intro level fuel depth rest hdepth _ hfuel
    exact EntriesReadBack.dict h (entriesReadBack entries h) hdepth hfuel
  | .complex .. | .decimal _ | .bytes _ | .range .. | .notNumber .. | .view .. | .method ..
  | .builtin _ | .loop _ | .block .. | .blocks .. | .cycler _ | .module .. | .absent .. =>
    fun h => nomatch h

theorem itemsReadBack : ∀ items : List Value, areSerializable items = true → items ≠ [] →
    ItemsReadBack items
  | [], _, hne => absurd rfl hne
  | [v], h, _ => by
    rw [areSerializable, Bool.and_eq_true] at h
    exact ItemsReadBack.single (readsBack v h.1)
  | v :: w :: ws, h, _ => by
    rw [areSerializable, Bool.and_eq_true] at h
    have hw := h.2
    rw [areSerializable, Bool.and_eq_true] at hw
    exact ItemsReadBack.cons h.1 hw.1 (readsBack v h.1) (itemsReadBack (w :: ws) h.2 (List.cons_ne_nil w ws))

theorem entriesReadBack : ∀ entries : List (Value × Value), areSerializableEntries entries = true →
    entries ≠ [] → EntriesReadBack entries
  | [], _, hne => absurd rfl hne
  | [(k, v)], h, _ => by
    rw [areSerializableEntries, Bool.and_eq_true, Bool.and_eq_true] at h
    exact EntriesReadBack.single h.1.2 (readsBack v h.1.2)
  | (k, v) :: (l, w) :: es, h, _ => by
    rw [areSerializableEntries, Bool.and_eq_true, Bool.and_eq_true] at h
    have hw := h.2
    rw [areSerializableEntries, Bool.and_eq_true, Bool.and_eq_true] at hw
    exact EntriesReadBack.cons h.1.2 hw.1.1 hw.1.2 (readsBack v h.1.2)
      (entriesReadBack ((l, w) :: es) h.2 (List.cons_ne_nil _ es))

end

/-! ## Documents -/

/-- Is a text a whole document of a value, however deep that nests? -/
def IsDocument (text : String) (v : Value) : Prop :=
  ∃ fuel depth rest, readValue fuel depth (skipSpace text.toList) = .ok (v, rest) ∧ skipSpace rest = []

variable {v : Value} (h : v.isSerializable = true)

include h

theorem readValue_write {fuel depth : Nat} (hdepth : v.height ≤ depth)
    (hfuel : 2 * (write v).text.toList.length + 1 ≤ fuel) :
    readValue fuel depth (skipSpace (write v).text.toList) = .ok (v.form, []) := by
  have htext : charsAt 0 v ++ [] = (write v).text.toList := List.append_nil _
  have hread : readValue fuel depth (charsAt 0 v ++ []) = .ok (v.form, []) :=
    readsBack v h hdepth rfl (by rwa [htext])
  rw [htext] at hread
  rwa [show skipSpace (write v).text.toList = _ from (startsItem_charsAt h 0).skipSpace]

/-- What is written of a value that can be written is a document of its form. -/
theorem isDocument_write : IsDocument (write v).text v.form :=
  ⟨_, _, [], readValue_write h (Nat.le_refl _) (Nat.le_refl _), rfl⟩

/-- It is read, unless it nests deeper than is followed. -/
theorem read_write (hdepth : v.height ≤ maxDepth) : read (write v).text = .ok v.form := by
  obtain ⟨c, rest, htext, -, -, hmark⟩ := (startsItem_charsAt h 0).exists_cons
  have hhead : (write v).text.toList.head? ≠ some '\ufeff' := by
    rw [show (write v).text.toList = c :: rest from htext]
    exact fun heq => hmark (Option.some.inj heq)
  rw [read, readDocument, if_neg hhead, readValue_write h hdepth (Nat.le_add_right _ 3)]
  rfl

end Json

/-! ## Values that are read as themselves -/

namespace Value

mutual

/-- Is every double in a value read as itself once it has been written? -/
def KeepsFloats : Value → Prop
  | .float x => Json.reread x = x
  | .list items => AllKeepFloats items
  | .dict entries => EntriesKeepFloats entries
  | _ => True

def AllKeepFloats : List Value → Prop
  | [] => True
  | v :: vs => KeepsFloats v ∧ AllKeepFloats vs

def EntriesKeepFloats : List (Value × Value) → Prop
  | [] => True
  | (_, v) :: es => KeepsFloats v ∧ EntriesKeepFloats es

end

theorem entriesKeepFloats_iff {es : List (Value × Value)} :
    EntriesKeepFloats es ↔ ∀ e ∈ es, e.2.KeepsFloats := by
  induction es with
  | nil => simp [EntriesKeepFloats]
  | cons e es ih => rw [EntriesKeepFloats, ih, List.forall_mem_cons]

mutual

/-- A value with a form in JSON is read as itself, if the doubles in it are. -/
theorem form_eq_self : ∀ v : Value, v.isJson = true → v.KeepsFloats → v.form = v
  | .null | .bool _ | .text _ | .int _ => fun _ _ => rfl
  | .float x => fun _ h => by
    rw [KeepsFloats] at h
    rw [form, h]
  | .list items => fun hj h => by
    rw [isJson] at hj
    rw [KeepsFloats] at h
    rw [form, forms_eq_self items hj h]
  | .dict entries => fun hj h => by
    rw [isJson] at hj
    rw [KeepsFloats] at h
    have hentries := formEntries_eq_self entries hj h
    obtain ⟨l, rfl, hd, -⟩ := exists_textKeyed hj
    have hl : formEntries (textKeyed l) = l := by
      rw [← textEntries_textKeyed (formEntries (textKeyed l)), hentries, textEntries_textKeyed]
    rw [form, hl, setKeys_nil hd]
  | .complex .. | .decimal _ | .bytes _ | .tuple _ | .range .. | .notNumber .. | .view .. | .method ..
  | .builtin _ | .loop _ | .block .. | .blocks .. | .cycler _ | .module .. | .absent .. =>
    fun hj => by simp [isJson] at hj

theorem forms_eq_self : ∀ vs : List Value, areJson vs = true → AllKeepFloats vs → forms vs = vs
  | [], _, _ => rfl
  | v :: vs, hj, h => by
    rw [areJson, Bool.and_eq_true] at hj
    rw [AllKeepFloats] at h
    rw [forms, form_eq_self v hj.1 h.1, forms_eq_self vs hj.2 h.2]

theorem formEntries_eq_self : ∀ es : List (Value × Value), areJsonEntries es = true →
    EntriesKeepFloats es → textKeyed (formEntries es) = es
  | [], _, _ => rfl
  | (k, v) :: es, hj, h => by
    rw [areJsonEntries, Bool.and_eq_true, Bool.and_eq_true] at hj
    rw [EntriesKeepFloats] at h
    obtain ⟨s, rfl, -⟩ := isNewKey_iff hj.1.1
    rw [formEntries, form_eq_self v hj.1.2 h.1]
    show (Value.text s, v) :: textKeyed (formEntries es) = _
    rw [formEntries_eq_self es hj.2 h.2]

end

end Value

end CxxWriter
