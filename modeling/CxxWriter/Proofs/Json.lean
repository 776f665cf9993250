/-
  What is written as JSON.

  * `Value.isJson`: the values that have a form in JSON;
  * `Value.isSerializable`: those that are written as a whole
    (`writeAt_complete_iff`), among them all that have a form in JSON;
  * `writeAt_noReturn`: a line end that is written is a line feed, so that a
    document is the same after its line ends have been read in any way;
  * `readsAs`: what a text is read as can be told by evaluation.
-/
import CxxWriter.Files.Basic
import CxxWriter.Json.Reader
import CxxWriter.Json.Writer
import CxxWriter.Proofs.Number

namespace CxxWriter

namespace Value

/-- Is a value a text that is none of the keys of some entries? -/
def isNewKey (entries : List (Value × Value)) : Value → Bool
  | .text s => !entries.any fun e => e.1.same (.text s)
  | _ => false

mutual

/-- Has a value a form in JSON?  Numbers are finite, integers are not too long to
    be written, and the keys of objects are texts of which no two are the same. -/
def isJson : Value → Bool
  | .null | .bool _ | .text _ => true
  | .int n => isShort n
  | .float x => x.isFinite
  | .list items => areJson items
  | .dict entries => areJsonEntries entries
  | _ => false

/-- Have values a form in JSON? -/
def areJson : List Value → Bool
  | [] => true
  | v :: vs => isJson v && areJson vs

/-- Can entries be those of an object? -/
def areJsonEntries : List (Value × Value) → Bool
  | [] => true
  | (k, v) :: es => isNewKey es k && isJson v && areJsonEntries es

end

mutual

/-- Can a value be written as JSON?  Integers are not too long to be written, and keys
    are texts, numbers, truth values or null. -/
def isSerializable : Value → Bool
  | .null | .bool _ | .text _ | .float _ => true
  | .int n => isShort n
  | .list items | .tuple items => areSerializable items
  | .dict entries => areSerializableEntries entries
  | _ => false

/-- Can values be written as JSON? -/
def areSerializable : List Value → Bool
  | [] => true
  | v :: vs => isSerializable v && areSerializable vs

/-- Can the entries of an object be written as JSON? -/
def areSerializableEntries : List (Value × Value) → Bool
  | [] => true
  | (k, v) :: es => (Json.keyText k).isOk && isSerializable v && areSerializableEntries es

end

mutual

theorem isSerializable_of_isJson : ∀ v : Value, v.isJson = true → v.isSerializable = true
  | .null | .bool _ | .text _ | .float _ => fun _ => rfl
  | .int _ => fun h => by
    rw [isJson] at h
    rw [isSerializable, h]
  | .list items => fun h => by
    rw [isJson] at h
    rw [isSerializable]
    exact areSerializable_of_areJson items h
  | .dict entries => fun h => by
    rw [isJson] at h
    rw [isSerializable]
    exact areSerializableEntries_of_areJson entries h
  | .complex .. | .decimal _ | .bytes _ | .tuple _ | .range .. | .notNumber .. | .view .. | .method ..
  | .builtin _ | .loop _ | .block .. | .blocks .. | .cycler _ | .module ..
  | .absent .. => fun h => by simp [isJson] at h

theorem areSerializable_of_areJson : ∀ vs : List Value, areJson vs = true →
    areSerializable vs = true
  | [], _ => rfl
  | v :: vs, h => by
    rw [areJson, Bool.and_eq_true] at h
    rw [areSerializable, isSerializable_of_isJson v h.1, areSerializable_of_areJson vs h.2]
    rfl

theorem areSerializableEntries_of_areJson : ∀ es : List (Value × Value),
    areJsonEntries es = true → areSerializableEntries es = true
  | [], _ => rfl
  | (k, v) :: es, h => by
    simp only [areJsonEntries, Bool.and_eq_true] at h
    cases k with
    | text s =>
      rw [areSerializableEntries, isSerializable_of_isJson v h.1.2,
        areSerializableEntries_of_areJson es h.2]
      rfl
    | _ => simp [isNewKey] at h

end

mutual

/-- Are two values the same, and without numbers that are not whole? -/
def agrees : Value → Value → Bool
  | .null, .null => true
  | .bool b, .bool c => b == c
  | .int m, .int n => m == n
  | .text s, .text t => s == t
  | .dict es, .dict fs => agreeEntries es fs
  | _, _ => false

/-- Are entries the same in this way? -/
def agreeEntries : List (Value × Value) → List (Value × Value) → Bool
  | [], [] => true
  | (k, v) :: es, (l, w) :: fs => agrees k l && agrees v w && agreeEntries es fs
  | _, _ => false

end

mutual

theorem eq_of_agrees : ∀ (v w : Value), v.agrees w = true → v = w
  | .null, .null, _ => rfl
  | .bool _, .bool _, h | .int _, .int _, h | .text _, .text _, h => by
    rw [agrees, beq_iff_eq] at h
    rw [h]
  | .dict es, .dict fs, h => by
    rw [agrees] at h
    rw [eq_of_agreeEntries es fs h]

theorem eq_of_agreeEntries : ∀ es fs : List (Value × Value), agreeEntries es fs = true → es = fs
  | [], [], _ => rfl
  | (k, v) :: es, (l, w) :: fs, h => by
    rw [agreeEntries, Bool.and_eq_true, Bool.and_eq_true] at h
    rw [eq_of_agrees k l h.1.1, eq_of_agrees v w h.1.2, eq_of_agreeEntries es fs h.2]

end

end Value

/-! ## Line ends -/

/-- Are all line ends of a text line feeds? -/
def Text.NoReturn (s : String) : Prop := '\r' ∉ s.toList

namespace Text.NoReturn

instance (s : String) : Decidable (NoReturn s) := inferInstanceAs (Decidable (_ ∉ _))

theorem append {s t : String} (hs : NoReturn s) (ht : NoReturn t) : NoReturn (s ++ t) := by
  rw [NoReturn, String.toList_append, List.mem_append]
  exact not_or.2 ⟨hs, ht⟩

theorem ofList {cs : List Char} (h : '\r' ∉ cs) : NoReturn (String.ofList cs) := by
  rwa [NoReturn, String.toList_ofList]

theorem of_solid {s : String} (h : IsSolid s) : NoReturn s := fun hr => absurd (h _ hr) (by decide)

/-- Such a text is not changed when line ends are read in any way. -/
theorem normalizeLines {s : String} (h : NoReturn s) :
    String.ofList (Text.normalizeLines s.toList) = s := by
  have hn : ∀ cs : List Char, '\r' ∉ cs → Text.normalizeLines cs = cs := by
    intro cs
    fun_induction Text.normalizeLines cs with
    | case1 => exact fun _ => rfl
    | case2 cs ih => exact fun hc => absurd List.mem_cons_self hc
    | case3 cs _ ih => exact fun hc => absurd List.mem_cons_self hc
    | case4 c cs _ _ ih => exact fun hc => by rw [ih fun h => hc (List.mem_cons_of_mem c h)]
  rw [hn _ h, String.ofList_toList]

/-- Its bytes are read as the text. -/
theorem readableText? {s : String} (h : NoReturn s) :
    CxxWriter.readableText? (bytesOfText s) = some s := by
  have hu : String.fromUTF8? s.toUTF8 = some s := dif_pos s.isValidUTF8
  rw [CxxWriter.readableText?, textOfBytes?, bytesOfText, hu, Option.map_some, h.normalizeLines]

end Text.NoReturn

namespace Json

open Text

theorem noReturn_floatText (x : Float) : NoReturn (floatText x) := by
  unfold floatText
  split
  · decide
  · split <;> decide
  · exact .of_solid (Double.solid_toText x)

theorem noReturn_hexDigits (width n : Nat) : '\r' ∉ hexDigits width n := by
  have hd : ∀ d < 16, hexDigit d ≠ '\r' := by decide
  induction width generalizing n with
  | zero => exact List.not_mem_nil
  | succ width ih =>
    rw [hexDigits, List.mem_append, List.mem_singleton]
    exact not_or.2 ⟨ih _, (hd _ (Nat.mod_lt n (by decide))).symm⟩

/-- Behind a backslash stands a character that is short for the quoted one, or
    its number; a character that needs no backslash stands for itself. -/
theorem quoteChar_cases (c : Char) :
    (∃ e, quoteChar c = ['\\', e] ∧ e ≠ 'u' ∧ e ≠ '\r' ∧ shortEscape? e = some c) ∨
    (quoteChar c = '\\' :: 'u' :: hexDigits 4 c.toNat ∧ c.toNat < 0x20) ∨
    (quoteChar c = [c] ∧ c ≠ '"' ∧ c ≠ '\\' ∧ ¬ c.toNat < 0x20) := by
  by_cases hshort : c ∈ ['"', '\\', '\n', '\r', '\t', '\x0c', '\x08']
  · simp only [List.mem_cons, List.not_mem_nil, or_false] at hshort
    rcases hshort with rfl | rfl | rfl | rfl | rfl | rfl | rfl <;>
      exact .inl ⟨_, rfl, by decide, by decide, rfl⟩
  · simp only [List.mem_cons, List.not_mem_nil, or_false, not_or] at hshort
    have hq : quoteChar c =
        if c.toNat < 0x20 then '\\' :: 'u' :: hexDigits 4 c.toNat else [c] := by
      simp [quoteChar, hshort]
    by_cases hcontrol : c.toNat < 0x20
    · rw [hq, if_pos hcontrol]
      exact .inr (.inl ⟨rfl, hcontrol⟩)
    · rw [hq, if_neg hcontrol]
      exact .inr (.inr ⟨rfl, hshort.1, hshort.2.1, hcontrol⟩)

theorem noReturn_quoteChar (c : Char) : '\r' ∉ quoteChar c := by
  rcases quoteChar_cases c with ⟨e, hq, -, he, -⟩ | ⟨hq, -⟩ | ⟨hq, -, -, hc⟩
  · simp [hq, he.symm]
  · simp [hq, noReturn_hexDigits 4 c.toNat]
  · rw [hq, List.mem_singleton]
    rintro rfl
    exact hc (by decide)

theorem noReturn_quote (s : String) : NoReturn (quote s) := by
  refine .ofList ?_
  simp only [List.cons_append, List.mem_cons, List.mem_append, List.mem_flatMap]
  rintro (h | ⟨c, -, h⟩ | h)
  · cases h
  · exact noReturn_quoteChar c h
  · simp at h

theorem noReturn_lineAt (level : Nat) : NoReturn (lineAt level) := by
  refine .ofList ?_
  rw [List.mem_cons]
  rintro (h | h)
  · cases h
  · exact absurd (List.eq_of_mem_replicate h) (by decide)

open Value (isSerializable areSerializable areSerializableEntries)

/-! ## Values that are written as a whole -/

theorem andThen_complete {w next : Written} :
    (w.andThen next).fault = none ↔ w.fault = none ∧ next.fault = none := by
  unfold Written.andThen
  cases h : w.fault with
  | none => exact ⟨fun hn => ⟨rfl, hn⟩, And.right⟩
  | some f =>
    show w.fault = none ↔ _
    rw [h]
    exact ⟨nofun, fun hw => nomatch hw.1⟩

theorem done_complete (s : String) : (Written.done s).fault = none := rfl

theorem writeInt_complete {n : Int} (s : String) :
    (if Value.isShort n then Written.done s else .stopped .badValue).fault = none ↔
      Value.isShort n = true := by
  split
  · next h => exact ⟨fun _ => h, fun _ => rfl⟩
  · next h => exact ⟨nofun, fun hs => absurd hs h⟩

theorem writeLead_complete {v : Value} (h : v.isSerializable = true) (lead : String) :
    writeLead lead v = .done lead := by
  unfold writeLead
  split
  · rw [isSerializable] at h
    rw [if_pos h]
  · rfl

/-- What stands before an item does not keep it from being written. -/
theorem writeLeading_complete {v : Value} {w : Written} (lead : String)
    (hw : w.fault = none ↔ v.isSerializable = true) :
    ((writeLead lead v).andThen w).fault = none ↔ v.isSerializable = true := by
  rw [andThen_complete, hw]
  exact and_iff_right_of_imp fun h => by rw [writeLead_complete h]; rfl

/-- An entry is written if its key has a text and its value is. -/
theorem writeKeyed_complete {key : Except ValueFault String} {f : String → Written} {p : Prop}
    (h : ∀ s, (f s).fault = none ↔ p) :
    (match key with
      | .ok s => f s
      | .error e => .stopped e).fault = none ↔ key.isOk = true ∧ p := by
  cases key with
  | ok s => exact (h s).trans (and_iff_right rfl).symm
  | error e => exact ⟨nofun, fun hk => nomatch hk.1⟩

mutual

theorem writeAt_complete_iff : ∀ (v : Value) (level : Nat),
    (writeAt level v).fault = none ↔ v.isSerializable = true
  | .null, _ | .bool _, _ | .text _, _ | .float _, _ => ⟨fun _ => rfl, fun _ => rfl⟩
  | .int n, _ => by
    rw [writeAt, isSerializable]
    exact writeInt_complete _
  | .list items, level => by
    rw [writeAt, isSerializable]
    exact writeItems_complete_iff items level
  | .tuple items, level => by
    rw [writeAt, isSerializable]
    exact writeItems_complete_iff items level
  | .dict entries, level => by
    rw [writeAt, isSerializable]
    exact writeEntries_complete_iff entries level
  | .complex .., _ | .decimal _, _ | .bytes _, _ | .range .., _ | .notNumber .., _
  | .view .., _ | .method .., _ | .builtin _, _ | .loop _, _ | .block .., _ | .blocks .., _
  | .cycler _, _ | .module .., _ | .absent .., _ => ⟨nofun, nofun⟩

theorem writeItems_complete_iff : ∀ (items : List Value) (level : Nat),
    (writeItems level items).fault = none ↔ areSerializable items = true
  | [], _ => ⟨fun _ => rfl, fun _ => rfl⟩
  | v :: vs, level => by
    rw [writeItems, andThen_complete, andThen_complete, areSerializable, Bool.and_eq_true,
      writeLeading_complete _ (writeAt_complete_iff v _), writeMoreItems_complete_iff vs,
      and_iff_left (done_complete _)]

theorem writeMoreItems_complete_iff : ∀ (items : List Value) (level : Nat),
    (writeMoreItems level items).fault = none ↔ areSerializable items = true
  | [], _ => ⟨fun _ => rfl, fun _ => rfl⟩
  | v :: vs, level => by
    rw [writeMoreItems, andThen_complete, areSerializable, Bool.and_eq_true,
      writeLeading_complete _ (writeAt_complete_iff v _), writeMoreItems_complete_iff vs]

theorem writeEntries_complete_iff : ∀ (entries : List (Value × Value)) (level : Nat),
    (writeEntries level entries).fault = none ↔ areSerializableEntries entries = true
  | [], _ => ⟨fun _ => rfl, fun _ => rfl⟩
  | (k, v) :: es, level => by
    rw [writeEntries, andThen_complete, andThen_complete, andThen_complete, areSerializableEntries,
      Bool.and_eq_true, Bool.and_eq_true, writeMoreEntries_complete_iff es,
      and_iff_left (done_complete _), and_iff_right (done_complete _)]
    refine and_congr_left' (writeKeyed_complete fun s => ?_)
    rw [andThen_complete, writeAt_complete_iff v, and_iff_right (done_complete _)]

theorem writeMoreEntries_complete_iff : ∀ (entries : List (Value × Value)) (level : Nat),
    (writeMoreEntries level entries).fault = none ↔ areSerializableEntries entries = true
  | [], _ => ⟨fun _ => rfl, fun _ => rfl⟩
  | (k, v) :: es, level => by
    rw [writeMoreEntries, andThen_complete, areSerializableEntries, Bool.and_eq_true, Bool.and_eq_true,
      writeMoreEntries_complete_iff es]
    refine and_congr_left' (writeKeyed_complete fun s => ?_)
    rw [andThen_complete, writeAt_complete_iff v, and_iff_right (done_complete _)]

end

/-! ## Line ends that are written -/

theorem noReturn_stopped (f : ValueFault) : NoReturn (Written.stopped f).text := List.not_mem_nil

theorem noReturn_andThen {w next : Written} (hw : NoReturn w.text) (hn : NoReturn next.text) :
    NoReturn (w.andThen next).text := by
  unfold Written.andThen
  split
  · exact hw.append hn
  · exact hw

theorem noReturn_writeLead {lead : String} (h : NoReturn lead) (v : Value) :
    NoReturn (writeLead lead v).text := by
  unfold writeLead
  repeat' split
  all_goals first | exact h | exact noReturn_stopped _

theorem noReturn_keyed {key : Except ValueFault String} {f : String → Written}
    (h : ∀ s, NoReturn (f s).text) :
    NoReturn (match key with
      | .ok s => f s
      | .error e => Written.stopped e).text := by
  cases key with
  | ok s => exact h s
  | error e => exact noReturn_stopped e

mutual

/-- Line ends are written as line feeds, also up to a fault. -/
theorem writeAt_noReturn : ∀ (v : Value) (level : Nat), NoReturn (writeAt level v).text
  | .null, _ => (by decide : NoReturn "null")
  | .bool b, _ => by
    cases b with
    | true => exact (by decide : NoReturn "true")
    | false => exact (by decide : NoReturn "false")
  | .int n, _ => by
    rw [writeAt]
    split
    · exact .of_solid (solid_int n)
    · exact noReturn_stopped _
  | .text s, _ => noReturn_quote s
  | .float x, _ => noReturn_floatText x
  | .list items, level => by
    rw [writeAt]
    exact writeItems_noReturn items level
  | .tuple items, level => by
    rw [writeAt]
    exact writeItems_noReturn items level
  | .dict entries, level => by
    rw [writeAt]
    exact writeEntries_noReturn entries level
  | .complex .., _ | .decimal _, _ | .bytes _, _ | .range .., _ | .notNumber .., _
  | .view .., _ | .method .., _ | .builtin _, _ | .loop _, _ | .block .., _ | .blocks .., _
  | .cycler _, _ | .module .., _ | .absent .., _ => noReturn_stopped _

theorem writeItems_noReturn : ∀ (items : List Value) (level : Nat),
    NoReturn (writeItems level items).text
  | [], _ => (by decide : NoReturn "[]")
  | v :: vs, level => by
    have hlead : NoReturn ("[" ++ lineAt (level + 1)) :=
      (by decide : NoReturn "[").append (noReturn_lineAt _)
    have hlast : NoReturn (lineAt level ++ "]") := (noReturn_lineAt _).append (by decide)
    rw [writeItems]
    exact noReturn_andThen (noReturn_andThen (noReturn_andThen (noReturn_writeLead hlead v)
      (writeAt_noReturn v _)) (writeMoreItems_noReturn vs _)) hlast

theorem writeMoreItems_noReturn : ∀ (items : List Value) (level : Nat),
    NoReturn (writeMoreItems level items).text
  | [], _ => (by decide : NoReturn "")
  | v :: vs, level => by
    have hlead : NoReturn ("," ++ lineAt level) :=
      (by decide : NoReturn ",").append (noReturn_lineAt _)
    rw [writeMoreItems]
    exact noReturn_andThen (noReturn_andThen (noReturn_writeLead hlead v) (writeAt_noReturn v _))
      (writeMoreItems_noReturn vs _)

theorem writeEntries_noReturn : ∀ (entries : List (Value × Value)) (level : Nat),
    NoReturn (writeEntries level entries).text
  | [], _ => (by decide : NoReturn "\x7b\x7d")
  | (k, v) :: es, level => by
    have hlead : NoReturn ("\x7b" ++ lineAt (level + 1)) :=
      (by decide : NoReturn "\x7b").append (noReturn_lineAt _)
    have hlast : NoReturn (lineAt level ++ "\x7d") := (noReturn_lineAt _).append (by decide)
    have hkey (s : String) : NoReturn (quote s ++ ": ") := (noReturn_quote s).append (by decide)
    rw [writeEntries]
    exact noReturn_andThen (noReturn_andThen (noReturn_andThen hlead
      (noReturn_keyed fun s => noReturn_andThen (hkey s) (writeAt_noReturn v _)))
      (writeMoreEntries_noReturn es _)) hlast

theorem writeMoreEntries_noReturn : ∀ (entries : List (Value × Value)) (level : Nat),
    NoReturn (writeMoreEntries level entries).text
  | [], _ => (by decide : NoReturn "")
  | (k, v) :: es, level => by
    have hkey (s : String) : NoReturn ("," ++ lineAt level ++ quote s ++ ": ") :=
      (((by decide : NoReturn ",").append (noReturn_lineAt level)).append
        (noReturn_quote s)).append (by decide)
    rw [writeMoreEntries]
    exact noReturn_andThen (noReturn_keyed fun s => noReturn_andThen (hkey s) (writeAt_noReturn v _))
      (writeMoreEntries_noReturn es _)

end

/-! ## Documents -/

/-- A document is written as a whole exactly if its value can be written. -/
theorem write_complete_iff (v : Value) : (write v).fault = none ↔ v.isSerializable = true :=
  writeAt_complete_iff v 0

theorem noReturn_write (v : Value) : NoReturn (write v).text := writeAt_noReturn v 0

/-- Is a text read as a value without numbers that are not whole? -/
def readsAs (text : String) (v : Value) : Bool :=
  match read text with
  | .ok w => w.agrees v
  | .error _ => false

theorem read_of_readsAs {text : String} {v : Value} (h : readsAs text v = true) :
    read text = .ok v := by
  unfold readsAs at h
  split at h
  · next hr => rw [hr, Value.eq_of_agrees _ v h]
  · cases h

end Json

end CxxWriter
