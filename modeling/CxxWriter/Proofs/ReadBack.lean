/-
  What has been written as JSON is read back.

  * `readNumber_parts`: what a number is read as that is put together from its parts;
  * `readValue_floatText`: the text of a double is read as what it is read as
    alone, whatever follows it;
  * `readText_quoted`: a quoted text is read as what it was.
-/
import CxxWriter.Proofs.Json
import CxxWriter.Proofs.NumberText
import CxxWriter.Proofs.Reader
import Mathlib.Data.List.TakeWhile

namespace CxxWriter.Json

/-! ## Numbers -/

/-- Can a number not go on with a character? -/
def endsNumber (c : Char) : Bool := !(c.isDigit || c == '.' || c == 'e' || c == 'E')

/-- Does nothing follow that a number could go on with? -/
def Stops (rest : List Char) : Prop := rest.head?.all endsNumber = true

variable {whole fraction power rest : List Char}

theorem Stops.plain (hs : Stops rest) : ∀ c ∈ rest.head?, c.isDigit = false ∧ c ≠ '.' := by
  cases rest with
  | nil => exact nofun
  | cons c rest =>
    have hc : endsNumber c = true := hs
    simp only [endsNumber, Bool.not_eq_true', Bool.or_eq_false_iff, beq_eq_false_iff_ne] at hc
    rintro _ ⟨⟩
    exact ⟨hc.1.1.1, hc.1.1.2⟩

theorem Stops.isDigit (hs : Stops rest) : ∀ c ∈ rest.head?, c.isDigit = false :=
  fun c hc => (hs.plain c hc).1

/-- Digits up to the first character that is none. -/
theorem takeWhile_digits {ds : List Char} (hd : ∀ c ∈ ds, c.isDigit = true)
    (hr : ∀ c ∈ rest.head?, c.isDigit = false) :
    (ds ++ rest).takeWhile Char.isDigit = ds ∧ (ds ++ rest).dropWhile Char.isDigit = rest := by
  rw [List.takeWhile_append_of_pos hd, List.dropWhile_append_of_pos hd]
  cases rest with
  | nil => simp
  | cons c rest => simp [hr c rfl]

theorem takeDigits_append {ds : List Char} (hd : ∀ c ∈ ds, c.isDigit = true)
    (hr : ∀ c ∈ rest.head?, c.isDigit = false) :
    Double.takeDigits (ds ++ rest) = ((Double.takeDigits ds).1, ds.length, rest) := by
  have hall : ds.takeWhile Char.isDigit = ds := List.takeWhile_eq_self_iff.2 hd
  unfold Double.takeDigits
  rw [(takeWhile_digits hd hr).1, (takeWhile_digits hd hr).2, hall]

theorem takeDigits_alone {ds : List Char} (hd : ∀ c ∈ ds, c.isDigit = true) :
    Double.takeDigits ds = ((Double.takeDigits ds).1, ds.length, []) := by
  have hdigits := takeDigits_append hd (show ∀ c ∈ ([] : List Char).head?, c.isDigit = false from nofun)
  rwa [List.append_nil] at hdigits

theorem takeWhole?_append (hw : IsWhole whole) (hr : ∀ c ∈ rest.head?, c.isDigit = false) :
    takeWhole? (whole ++ rest) = some (whole, rest) := by
  rcases hw.leads with rfl | hlead
  · rfl
  have hdigits := takeWhile_digits hw.digits hr
  obtain ⟨c, cs, rfl⟩ := List.exists_cons_of_ne_nil hw.nonempty
  have hc : c.isDigit = true := hw.digits c List.mem_cons_self
  unfold takeWhole?
  split
  · next heq =>
    cases heq
    exact absurd rfl hlead
  · next heq =>
    cases heq
    rw [if_pos hc, hdigits.1, hdigits.2]
  · next heq => cases heq

theorem takeFraction_append (hf : IsFraction fraction)
    (hr : ∀ c ∈ rest.head?, c.isDigit = false ∧ c ≠ '.') :
    takeFraction (fraction ++ rest) = (fraction.drop 1, rest) := by
  rcases hf with rfl | ⟨ds, hds, rfl⟩
  · show takeFraction rest = _
    unfold takeFraction
    split
    · exact absurd rfl (hr _ rfl).2
    · rfl
  · have hdigits := takeWhile_digits hds.digits fun c hc => (hr c hc).1
    have hhead : (ds ++ rest).head?.any Char.isDigit = true := by
      obtain ⟨d, ds', rfl⟩ := List.exists_cons_of_ne_nil hds.nonempty
      exact hds.digits d List.mem_cons_self
    show takeFraction ('.' :: (ds ++ rest)) = _
    rw [takeFraction, if_pos hhead, hdigits.1, hdigits.2]
    rfl

theorem takeExponent?_signed {sign : Char} (hsign : sign = '+' ∨ sign = '-') (cs : List Char) :
    Double.takeExponent? ('e' :: sign :: cs) =
      let (n, count, rest) := Double.takeDigits cs
      if count = 0 then none else some (if sign = '-' then -(n : Int) else n, rest) := by
  rcases hsign with rfl | rfl <;> rfl

theorem takeExponent?_append (hp : IsPower power) (hs : Stops rest) :
    Double.takeExponent? (power ++ rest) =
      (Double.takeExponent? power).map fun e => (e.1, rest) := by
  rcases hp with rfl | ⟨sign, ds, hsign, hds, rfl⟩
  · cases rest with
    | nil => rfl
    | cons c rest =>
      have hc : ¬ (c = 'e' ∨ c = 'E') := by
        rintro (rfl | rfl) <;> cases hs
      show Double.takeExponent? (c :: rest) = none
      unfold Double.takeExponent?
      dsimp only
      rw [if_neg hc]
  · have hdigits := takeDigits_append hds.digits hs.isDigit
    have hlength : ds.length ≠ 0 := fun h => hds.nonempty (List.length_eq_zero_iff.1 h)
    show Double.takeExponent? ('e' :: sign :: (ds ++ rest)) = _
    rw [takeExponent?_signed hsign, takeExponent?_signed hsign, hdigits, takeDigits_alone hds.digits]
    dsimp only
    rw [if_neg hlength, if_neg hlength]
    rfl

theorem takeExponent?_eq_none (hp : IsPower power) :
    Double.takeExponent? power = none ↔ power = [] := by
  rcases hp with rfl | ⟨sign, ds, hsign, hds, rfl⟩
  · exact ⟨fun _ => rfl, fun _ => rfl⟩
  · rw [takeExponent?_signed hsign, takeDigits_alone hds.digits]
    dsimp only
    rw [if_neg fun h => hds.nonempty (List.length_eq_zero_iff.1 h)]
    exact ⟨nofun, nofun⟩

/-- A minus sign, or nothing. -/
def signText (negative : Bool) : List Char := if negative then ['-'] else []

theorem takeSign_append (negative : Bool) {cs : List Char} (h : cs.head? ≠ some '-') :
    takeSign (signText negative ++ cs) = (negative, cs) := by
  cases negative with
  | true => rfl
  | false =>
    cases cs with
    | nil => rfl
    | cons c cs =>
      show takeSign (c :: cs) = _
      unfold takeSign
      split
      · next heq =>
        cases heq
        exact absurd rfl h
      · rfl

/-- A power starts neither with a digit nor with a point. -/
theorem head?_power (hp : IsPower power) (hs : Stops rest) :
    ∀ c ∈ (power ++ rest).head?, c.isDigit = false ∧ c ≠ '.' := by
  rcases hp with rfl | ⟨sign, ds, -, -, rfl⟩
  · exact hs.plain
  · rintro _ ⟨⟩
    exact ⟨rfl, by decide⟩

/-- A fraction does not start with a digit. -/
theorem head?_fraction (hf : IsFraction fraction) (hp : IsPower power) (hs : Stops rest) :
    ∀ c ∈ (fraction ++ (power ++ rest)).head?, c.isDigit = false := by
  rcases hf with rfl | ⟨ds, -, rfl⟩
  · exact fun c hc => (head?_power hp hs c hc).1
  · rintro _ ⟨⟩
    rfl

/-- A number is an integer if it has neither a fraction nor a power. -/
theorem isInteger_iff (hf : IsFraction fraction) (hp : IsPower power) :
    ((fraction.drop 1).isEmpty && ((Double.takeExponent? power).map
      fun e => (e.1, rest)).isNone) = true ↔ fraction = [] ∧ power = [] := by
  have hempty : (fraction.drop 1).isEmpty = true ↔ fraction = [] := by
    rcases hf with rfl | ⟨ds, hds, rfl⟩
    · exact ⟨fun _ => rfl, fun _ => rfl⟩
    · exact ⟨fun h => absurd (List.isEmpty_iff.1 h) hds.nonempty, nofun⟩
  rw [Bool.and_eq_true, Option.isNone_map, hempty, Option.isNone_iff_eq_none,
    takeExponent?_eq_none hp]

/-- A number that is put together from its parts. -/
theorem readNumber_parts (negative : Bool) (hw : IsWhole whole) (hf : IsFraction fraction)
    (hp : IsPower power) (hs : Stops rest) :
    readNumber (signText negative ++ (whole ++ (fraction ++ (power ++ rest)))) =
      let value (ds : List Char) : Nat := (Double.takeDigits ds).1
      if fraction = [] ∧ power = [] then
        if Text.maxDigits < whole.length then .error .tooManyDigits
        else .ok (.int (if negative then -(value whole : Int) else value whole), rest)
      else
        .ok (.float (Double.ofDecimal negative (value (whole ++ fraction.drop 1))
          (((Double.takeExponent? power).map (·.1)).getD 0 - (fraction.drop 1).length)), rest) := by
  obtain ⟨c, cs, hcs⟩ := List.exists_cons_of_ne_nil hw.nonempty
  have hsign : (whole ++ (fraction ++ (power ++ rest))).head? ≠ some '-' := by
    have hc : c.isDigit = true := hw.digits c (hcs ▸ List.mem_cons_self)
    rw [hcs]
    rintro ⟨⟩
    cases hc
  unfold readNumber
  rw [takeSign_append negative hsign]
  dsimp only
  rw [takeWhole?_append hw (head?_fraction hf hp hs)]
  dsimp only
  rw [takeFraction_append hf (head?_power hp hs)]
  dsimp only
  rw [takeExponent?_append hp hs]
  by_cases h : fraction = [] ∧ power = []
  · rw [if_pos ((isInteger_iff hf hp).2 h), if_pos h]
    split
    · rfl
    · rw [h.2]
      rfl
  · rw [if_neg fun hinteger => h ((isInteger_iff hf hp).1 hinteger), if_neg h]
    cases hpower : Double.takeExponent? power with
    | none =>
      rw [(takeExponent?_eq_none hp).1 hpower]
      rfl
    | some e => rfl

/-! ## Integers -/

theorem value_toDigits (n : Nat) : (Double.takeDigits (Nat.toDigits 10 n)).1 = n := by
  have hall : (Nat.toDigits 10 n).takeWhile Char.isDigit = Nat.toDigits 10 n :=
    List.takeWhile_eq_self_iff.2 (areDigits_toDigits n).digits
  calc (Double.takeDigits (Nat.toDigits 10 n)).1
      = (Nat.toDigits 10 n).foldl (fun n c => n * 10 + (c.toNat - 48)) 0 := by
        unfold Double.takeDigits
        rw [hall]
    _ = Nat.ofDigitChars 10 (Nat.toDigits 10 n) 0 := by
        unfold Nat.ofDigitChars
        congr 1
        funext n c
        rw [Nat.mul_comm]
        rfl
    _ = n := Nat.ofDigitChars_ten_toDigits

theorem toList_int (n : Int) :
    (toString n).toList = signText (decide (n < 0)) ++ Nat.toDigits 10 n.natAbs := by
  cases n with
  | ofNat n => exact Double.toList_natText n
  | negSucc n =>
    show ("-" ++ Double.natText (n + 1)).toList = _
    rw [String.toList_append, Double.toList_natText, decide_eq_true (Int.negSucc_lt_zero n)]
    rfl

/-- An integer is written out if it has few enough digits to be read. -/
theorem isShort_iff (n : Int) :
    Value.isShort n = true ↔ (Nat.toDigits 10 n.natAbs).length ≤ Text.maxDigits := by
  have hpos : 0 < Text.maxDigits := by decide
  rw [Value.isShort, decide_eq_true_eq]
  generalize Text.maxDigits = k at hpos
  exact (Nat.length_toDigits_le_iff (by decide) hpos).symm

theorem readNumber_int {n : Int} (h : Value.isShort n = true) (hs : Stops rest) :
    readNumber ((toString n).toList ++ rest) = .ok (.int n, rest) := by
  have hshort : ¬ Text.maxDigits < (Nat.toDigits 10 n.natAbs).length :=
    Nat.not_lt.2 ((isShort_iff n).1 h)
  have hvalue : (if decide (n < 0) = true then -(n.natAbs : Int) else n.natAbs) = n := by
    clear h hshort
    simp only [decide_eq_true_eq]
    split <;> omega
  have hparts := readNumber_parts (decide (n < 0)) (isWhole_toDigits n.natAbs) (.inl rfl) (.inl rfl) hs
  dsimp only at hparts
  rw [if_pos ⟨rfl, rfl⟩, if_neg hshort, value_toDigits, List.nil_append, List.nil_append,
    ← List.append_assoc, ← toList_int, hvalue] at hparts
  exact hparts

/-! ## Words and numbers as values -/

theorem readValue_word {w : String × Value} (hw : w ∈ words) (fuel depth : Nat) (rest : List Char) :
    readValue (fuel + 1) depth (w.1.toList ++ rest) = .ok (w.2, rest) := by
  simp only [words, List.mem_cons, List.not_mem_nil, or_false] at hw
  rcases hw with rfl | rfl | rfl | rfl | rfl | rfl <;> rfl

/-- No word starts with a digit, or with a minus sign and a digit. -/
theorem exists_of_mem_words {w : String × Value} (hw : w ∈ words) :
    ∃ c c' cs, w.1.toList = c :: c' :: cs ∧ c.isDigit = false ∧ (c = '-' → c'.isDigit = false) := by
  simp only [words, List.mem_cons, List.not_mem_nil, or_false] at hw
  rcases hw with rfl | rfl | rfl | rfl | rfl | rfl <;> exact ⟨_, _, _, rfl, by decide, by decide⟩

/-- What starts with none of the marks of texts, lists and objects is a word or a
    number. -/
theorem readValue_plain {cs : List Char} (h : ∀ c ∈ cs.head?, c ∉ ['"', '\x7b', '[']) (fuel depth : Nat) :
    readValue (fuel + 1) depth cs =
      match takeWord? cs with
      | some r => .ok r
      | none => readNumber cs := by
  rw [readValue.eq_def]
  dsimp only
  split
  · exact absurd (h _ rfl) (by decide)
  · exact absurd (h _ rfl) (by decide)
  · exact absurd (h _ rfl) (by decide)
  · rfl

/-- Digits, or a minus sign with digits, are the front of a number. -/
theorem readValue_number (negative : Bool) (hw : AreDigits whole) (fuel depth : Nat)
    (rest : List Char) :
    readValue (fuel + 1) depth (signText negative ++ (whole ++ rest)) =
      readNumber (signText negative ++ (whole ++ rest)) := by
  obtain ⟨d, ds, rfl⟩ := List.exists_cons_of_ne_nil hw.nonempty
  have hd : d.isDigit = true := hw.digits d List.mem_cons_self
  have hword : takeWord? (signText negative ++ (d :: ds ++ rest)) = none := by
    refine List.findSome?_eq_none_iff.2 fun w hw => Option.map_eq_none_iff.2 ?_
    rw [Option.eq_none_iff_forall_not_mem]
    intro after hafter
    have hfront := dropPrefix?_eq_some hafter
    obtain ⟨c, c', cs, htext, hc, hc'⟩ := exists_of_mem_words hw
    rw [htext] at hfront
    cases negative with
    | true =>
      obtain ⟨hminus, htail⟩ := List.cons.inj hfront
      rw [(List.cons.inj htail).1, hc' hminus.symm] at hd
      cases hd
    | false =>
      rw [(List.cons.inj hfront).1, hc] at hd
      cases hd
  have hplain : ∀ c ∈ (signText negative ++ (d :: ds ++ rest)).head?, c ∉ ['"', '\x7b', '['] := by
    have hmarks : ∀ c ∈ ['"', '\x7b', '['], c.isDigit = false := by simp [Char.isDigit]
    cases negative with
    | true =>
      rintro _ ⟨⟩
      decide
    | false =>
      rintro _ ⟨⟩ hmem
      rw [hmarks d hmem] at hd
      cases hd
  rw [readValue_plain hplain, hword]

theorem readNumber_decimal {cs : List Char} (h : IsDecimalText cs) (negative : Bool) :
    ∃ y, ∀ rest, Stops rest → readNumber (signText negative ++ (cs ++ rest)) = .ok (.float y, rest) := by
  obtain ⟨whole, fraction, power, hw, hf, hp, hne, rfl⟩ := h
  have hparts (rest : List Char) (hs : Stops rest) := readNumber_parts negative hw hf hp hs
  simp only [if_neg (not_and_or.2 hne)] at hparts
  simp only [List.append_assoc]
  exact ⟨_, hparts⟩

/-- What the text of a double is read as. -/
def reread (x : Float) : Float :=
  match readValue 1 0 (floatText x).toList with
  | .ok (.float y, _) => y
  | _ => x

/-- The text of a double is a word, or a number with a fraction or an exponent. -/
theorem toList_floatText (x : Float) : (∃ y, (floatText x, Value.float y) ∈ words) ∨
    ∃ negative cs, IsDecimalText cs ∧ (floatText x).toList = signText negative ++ cs := by
  unfold floatText
  rcases hparts : Double.parts x with _ | negative | ⟨negative, m, q⟩
  · exact .inl ⟨0.0 / 0.0, by simp [words]⟩
  · cases negative with
    | true => exact .inl ⟨-Double.infinity, by simp [words]⟩
    | false => exact .inl ⟨Double.infinity, by simp [words]⟩
  · have hzero : IsDecimalText "0.0".toList :=
      .of_fraction ⟨areDigits_zero, .inl rfl⟩ areDigits_zero
    refine .inr ⟨negative,
      (if m = 0 then "0.0" else Double.digitsText (Double.shortest m q)).toList, ?_, ?_⟩
    · split
      · exact hzero
      · next hm => exact Double.isDecimalText_digitsText (Double.shortest_pos (Nat.pos_iff_ne_zero.2 hm) q)
    · dsimp only
      rw [Double.toText, hparts]
      dsimp only
      rw [String.toList_append]
      cases negative <;> rfl

/-- The text of a double is one of three words, or starts with digits behind a sign. -/
theorem floatText_starts (x : Float) : floatText x ∈ ["NaN", "Infinity", "-Infinity"] ∨
    ∃ negative whole rest, AreDigits whole ∧
      (floatText x).toList = signText negative ++ (whole ++ rest) := by
  rcases toList_floatText x with ⟨y, hword⟩ | ⟨negative, cs, hdecimal, htext⟩
  · left
    simp only [words, List.mem_cons, List.not_mem_nil, or_false, Prod.mk.injEq, reduceCtorEq, and_false,
      false_or] at hword
    simpa using hword.imp And.left (Or.imp And.left And.left)
  · obtain ⟨whole, fraction, power, hw, -, -, -, rfl⟩ := hdecimal
    exact .inr ⟨negative, whole, fraction ++ power, hw.toAreDigits, htext⟩

/-- What the text of a double is read as does not depend on what follows. -/
theorem readValue_floatText (x : Float) (hs : Stops rest) (fuel depth : Nat) :
    readValue (fuel + 1) depth ((floatText x).toList ++ rest) = .ok (.float (reread x), rest) := by
  obtain ⟨y, hy⟩ : ∃ y, ∀ fuel depth rest, Stops rest →
      readValue (fuel + 1) depth ((floatText x).toList ++ rest) = .ok (.float y, rest) := by
    rcases toList_floatText x with ⟨y, hword⟩ | ⟨negative, cs, hdecimal, htext⟩
    · exact ⟨y, fun fuel depth rest _ => readValue_word hword fuel depth rest⟩
    · obtain ⟨y, hy⟩ := readNumber_decimal hdecimal negative
      obtain ⟨whole, fraction, power, hw, -, -, -, rfl⟩ := hdecimal
      refine ⟨y, fun fuel depth rest hs => ?_⟩
      rw [htext, ← hy rest hs]
      simp only [List.append_assoc]
      exact readValue_number negative hw.toAreDigits fuel depth _
  have halone := hy 0 0 [] rfl
  rw [List.append_nil] at halone
  have hreread : reread x = y := by rw [reread, halone]
  rw [hreread]
  exact hy fuel depth rest hs

/-! ## Texts -/

theorem takeHex?_hexDigits {n : Nat} (h : n < 0x20) (rest : List Char) :
    Template.takeHex? 4 (Text.hexDigits 4 n ++ rest) = some (n, rest) := by
  have hdigits : ∀ n < 0x20, (Text.hexDigits 4 n).length = 4 ∧
      ((Text.hexDigits 4 n).filterMap (Template.digitOf? 16)).length = 4 ∧
      Template.numberOf 16 ((Text.hexDigits 4 n).filterMap (Template.digitOf? 16)) = n := by
    decide
  obtain ⟨hlength, hcount, hvalue⟩ := hdigits n h
  unfold Template.takeHex?
  dsimp only
  rw [List.take_left' hlength, List.drop_left' hlength, if_pos hcount, hvalue]

theorem charOf_toNat (c : Char) : Template.charOf c.toNat = c := by
  rw [Template.charOf, if_pos (show c.toNat.isValidChar from c.valid), Char.ofNat_toNat]

theorem unicodeEscape_hexDigits {c : Char} (h : c.toNat < 0x20) (d : Char) (cs : List Char) :
    unicodeEscape (Text.hexDigits 4 c.toNat ++ d :: cs) = .ok (c, d :: cs) := by
  have hhigh : isHighSurrogate c.toNat = false := by
    simp only [isHighSurrogate, Bool.and_eq_false_iff, decide_eq_false_iff_not]
    omega
  unfold unicodeEscape takeUnit?
  rw [takeHex?_hexDigits h]
  dsimp only
  rw [hhigh, charOf_toNat]
  rfl

/-- A character that is quoted is read as itself. -/
theorem readText_quoteChar (start fuel : Nat) (c d : Char) (cs : List Char) :
    readText start (fuel + 1) (quoteChar c ++ d :: cs) = (do
      let (t, rest) ← readText start fuel (d :: cs)
      return (c :: t, rest)) := by
  rcases quoteChar_cases c with ⟨e, hq, hu, -, he⟩ | ⟨hq, h⟩ | ⟨hq, hquote, hslash, hcontrol⟩
  · rw [hq]
    show readText start (fuel + 1) ('\\' :: e :: d :: cs) = _
    rw [readText, if_neg hu, he]
  · rw [hq, List.cons_append, List.cons_append, readText, if_pos rfl, unicodeEscape_hexDigits h]
    rfl
  · rw [hq]
    show readText start (fuel + 1) (c :: d :: cs) = _
    rw [readText.eq_def]
    dsimp only
    split
    · next hfuel => cases hfuel
    · next heq => cases heq
    · next heq => exact absurd (List.cons.inj heq).1 hquote
    · next heq => exact absurd (List.cons.inj heq).1 hslash
    · next heq => exact absurd (List.cons.inj heq).1 hslash
    · next hfuel heq =>
      cases hfuel
      cases heq
      rw [if_neg hcontrol]

/-- A quoted text is read as what it was. -/
theorem readText_quoted (start fuel : Nat) (cs rest : List Char)
    (h : (cs.flatMap quoteChar ++ '"' :: rest).length ≤ fuel) :
    readText start fuel (cs.flatMap quoteChar ++ '"' :: rest) = .ok (cs, rest) := by
  induction cs generalizing fuel with
  | nil =>
    obtain ⟨k, rfl⟩ := Nat.exists_eq_add_of_lt (Nat.lt_of_lt_of_le (Nat.succ_pos rest.length) h)
    rfl
  | cons c cs ih =>
    have hpos : 0 < (quoteChar c).length := by
      rcases quoteChar_cases c with ⟨e, hq, -⟩ | ⟨hq, -⟩ | ⟨hq, -⟩ <;> simp [hq]
    rw [List.flatMap_cons, List.append_assoc, List.length_append] at h
    obtain ⟨k, rfl⟩ : ∃ k, fuel = k + 1 := ⟨fuel - 1, by omega⟩
    have hrest := ih k (by omega)
    rw [List.flatMap_cons, List.append_assoc]
    obtain ⟨d, ds, hd⟩ : ∃ d ds, cs.flatMap quoteChar ++ '"' :: rest = d :: ds :=
      List.exists_cons_of_ne_nil (List.append_ne_nil_of_right_ne_nil _ (List.cons_ne_nil _ _))
    rw [hd] at hrest ⊢
    rw [readText_quoteChar, hrest]
    rfl

theorem toList_quote (s : String) (rest : List Char) :
    (quote s).toList ++ rest = '"' :: (s.toList.flatMap quoteChar ++ '"' :: rest) := by
  rw [quote, String.toList_ofList]
  simp

theorem textAfterQuote_quoted (s : String) (rest : List Char) :
    textAfterQuote (s.toList.flatMap quoteChar ++ '"' :: rest) = .ok (s, rest) := by
  rw [textAfterQuote, readText_quoted _ _ _ _ (Nat.le_succ _)]
  show Except.ok (String.ofList s.toList, rest) = _
  rw [String.ofList_toList]

end CxxWriter.Json
