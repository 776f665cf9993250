/-
  The texts of numbers, taken apart.

  * `IsWhole`, `IsFraction`, `IsPower`: the parts of the text of a number;
  * `shortest_pos`: the shortest decimal of a positive double is not zero;
  * `isDecimalText_digitsText`: the text of a positive decimal has these parts, so that
    its whole part does not start with a zero unless it is one.
-/
import CxxWriter.Number.FloatText
import Mathlib.Data.List.Basic

namespace CxxWriter

/-! ## Parts of numbers -/

/-- Are all characters digits, and is there one? -/
structure AreDigits (cs : List Char) : Prop where
  digits : ∀ c ∈ cs, c.isDigit = true
  nonempty : cs ≠ []

/-- Is it a zero, or digits that start with another one? -/
structure IsWhole (cs : List Char) : Prop extends AreDigits cs where
  leads : cs = ['0'] ∨ cs.head? ≠ some '0'

/-- Is it nothing, or a point with digits behind it? -/
def IsFraction (cs : List Char) : Prop := cs = [] ∨ ∃ ds, AreDigits ds ∧ cs = '.' :: ds

/-- Is it nothing, or an exponent with a sign? -/
def IsPower (cs : List Char) : Prop :=
  cs = [] ∨ ∃ sign ds, (sign = '+' ∨ sign = '-') ∧ AreDigits ds ∧ cs = 'e' :: sign :: ds

/-- Is it a number with a fraction or an exponent? -/
def IsDecimalText (cs : List Char) : Prop :=
  ∃ whole fraction power, IsWhole whole ∧ IsFraction fraction ∧ IsPower power ∧
    (fraction ≠ [] ∨ power ≠ []) ∧ cs = whole ++ (fraction ++ power)

namespace IsDecimalText

variable {whole : List Char} (hw : IsWhole whole)

include hw

theorem of_fraction {ds : List Char} (hd : AreDigits ds) : IsDecimalText (whole ++ '.' :: ds) :=
  ⟨whole, '.' :: ds, [], hw, .inr ⟨ds, hd, rfl⟩, .inl rfl, .inl (List.cons_ne_nil _ _), by simp⟩

theorem of_power {fraction power : List Char} (hf : IsFraction fraction) (hp : IsPower power)
    (hne : power ≠ []) : IsDecimalText (whole ++ (fraction ++ power)) :=
  ⟨whole, fraction, power, hw, hf, hp, .inr hne, rfl⟩

end IsDecimalText

namespace AreDigits

variable {as bs : List Char}

theorem append_left (ha : AreDigits as) (hb : ∀ c ∈ bs, c.isDigit = true) : AreDigits (as ++ bs) where
  digits := List.forall_mem_append.2 ⟨ha.digits, hb⟩
  nonempty := List.append_ne_nil_of_left_ne_nil ha.nonempty bs

theorem append_right (ha : ∀ c ∈ as, c.isDigit = true) (hb : AreDigits bs) : AreDigits (as ++ bs) where
  digits := List.forall_mem_append.2 ⟨ha, hb.digits⟩
  nonempty := List.append_ne_nil_of_right_ne_nil as hb.nonempty

/-- A front of digits is a whole part, if they do not start with a zero. -/
theorem take_isWhole (ha : AreDigits as) (hhead : as.head? ≠ some '0') {n : Nat} (hn : n ≠ 0) :
    IsWhole (as.take n) := by
  obtain ⟨c, cs, rfl⟩ := List.exists_cons_of_ne_nil ha.nonempty
  obtain ⟨k, rfl⟩ := Nat.exists_eq_succ_of_ne_zero hn
  exact ⟨⟨fun x hx => ha.digits x (List.mem_of_mem_take hx), List.cons_ne_nil _ _⟩, .inr hhead⟩

theorem drop (ha : AreDigits as) {n : Nat} (hn : as.drop n ≠ []) : AreDigits (as.drop n) :=
  ⟨fun x hx => ha.digits x (List.mem_of_mem_drop hx), hn⟩

end AreDigits

theorem areDigits_zero : AreDigits ['0'] := ⟨List.forall_mem_singleton.2 rfl, List.cons_ne_nil _ _⟩

theorem areDigits_toDigits (n : Nat) : AreDigits (Nat.toDigits 10 n) where
  digits _ hc := Nat.isDigit_of_mem_toDigits (by decide) (by decide) hc
  nonempty := Nat.toDigits_ne_nil

/-- The digits of a positive natural do not start with a zero. -/
theorem head?_toDigits {n : Nat} (h : 0 < n) : (Nat.toDigits 10 n).head? ≠ some '0' := by
  induction n using Nat.strongRecOn with
  | _ n ih =>
    by_cases hn : n < 10
    · rw [Nat.toDigits_of_lt_base hn]
      have hdigits : ∀ n < 10, 0 < n → [n.digitChar].head? ≠ some '0' := by decide
      exact hdigits n hn h
    · rw [Nat.toDigits_of_base_le (by decide) (Nat.not_lt.1 hn),
        List.head?_append_of_ne_nil _ Nat.toDigits_ne_nil]
      exact ih (n / 10) (by omega) (by omega)

theorem isWhole_toDigits (n : Nat) : IsWhole (Nat.toDigits 10 n) where
  toAreDigits := areDigits_toDigits n
  leads := by
    rcases Nat.eq_zero_or_pos n with rfl | h
    · exact .inl rfl
    · exact .inr (head?_toDigits h)

namespace Double

/-! ## The shortest decimal -/

theorem lt_tenTo_digitCount (n : Nat) : n < tenTo (digitCount n) := by
  induction n using Nat.strongRecOn with
  | _ n ih =>
    rw [digitCount]
    split
    · next h =>
      subst h
      decide
    · next h =>
      have hlt := ih (n / 10) (by omega)
      show n < 10 ^ (_ + 1)
      rw [Nat.pow_succ]
      change n / 10 < 10 ^ _ at hlt
      omega

theorem tenTo_digitCount_le {n : Nat} (h : 0 < n) : tenTo (digitCount n - 1) ≤ n := by
  induction n using Nat.strongRecOn with
  | _ n ih =>
    rw [digitCount, if_neg (by omega), Nat.add_sub_cancel]
    by_cases hn : n < 10
    · rw [Nat.div_eq_of_lt hn, digitCount, if_pos rfl]
      exact h
    · have hle := ih (n / 10) (by omega) (by omega)
      have hpos : digitCount (n / 10) ≠ 0 := by
        rw [digitCount, if_neg (by omega)]
        exact Nat.succ_ne_zero _
      obtain ⟨k, hk⟩ := Nat.exists_eq_succ_of_ne_zero hpos
      rw [hk] at hle ⊢
      show 10 ^ (k + 1) ≤ n
      change 10 ^ k ≤ n / 10 at hle
      rw [Nat.pow_succ]
      omega

theorem tenTo_pos (n : Nat) : 0 < tenTo n := Nat.pow_pos (by decide)

theorem tenTo_le {m n : Nat} (h : m ≤ n) : tenTo m ≤ tenTo n :=
  Nat.pow_le_pow_right (by decide) h

/-- A grid that is no coarser than the power of ten of a ratio has a point between zero
    and it. -/
theorem floorLogTen_spec {num den : Nat} {g : Int} (hnum : 0 < num) (hden : 0 < den)
    (h : g ≤ floorLogTen num den) : den * tenTo g.toNat ≤ num * tenTo (-g).toNat := by
  unfold floorLogTen at h
  split at h
  · next hle =>
    have hq : 0 < num / den := Nat.div_pos hle hden
    calc den * tenTo g.toNat
        ≤ den * tenTo (digitCount (num / den) - 1) := Nat.mul_le_mul_left _ (tenTo_le (by omega))
      _ ≤ den * (num / den) := Nat.mul_le_mul_left _ (tenTo_digitCount_le hq)
      _ ≤ num := Nat.mul_div_le num den
      _ ≤ num * tenTo (-g).toNat := Nat.le_mul_of_pos_right _ (tenTo_pos _)
  · next hlt =>
    have hg : g.toNat = 0 := by omega
    have hceil : (den + num - 1) / num ≤ tenTo (digitCount ((den + num - 1) / num - 1)) := by
      have := lt_tenTo_digitCount ((den + num - 1) / num - 1)
      omega
    have hden' : den ≤ num * ((den + num - 1) / num) := by
      have := Nat.div_add_mod (den + num - 1) num
      have := Nat.mod_lt (den + num - 1) hnum
      omega
    rw [hg]
    calc den * tenTo 0
        = den := Nat.mul_one den
      _ ≤ num * ((den + num - 1) / num) := hden'
      _ ≤ num * tenTo (digitCount ((den + num - 1) / num - 1)) := Nat.mul_le_mul_left _ hceil
      _ ≤ num * tenTo (-g).toNat := Nat.mul_le_mul_left _ (tenTo_le (by omega))

theorem onGrid?_pos {i : Interval} {g : Int} {n : Nat} (h : i.onGrid? g = some n) : 0 < n := by
  unfold Interval.onGrid? at h
  dsimp only at h
  generalize i.value * tenTo (-g).toNat / (i.den * tenTo g.toNat) = q at h
  have hbelow (b : Bool) (hb : (b && q != 0) = true) : 0 < q := by
    rw [Bool.and_eq_true, bne_iff_ne] at hb
    exact Nat.pos_iff_ne_zero.2 hb.2
  split at h
  · next hboth =>
    have hq := hbelow _ (Bool.and_eq_true _ _ ▸ hboth).1
    split at h
    · cases h
      exact hq
    · split at h
      · cases h
        exact Nat.succ_pos q
      · cases h
        exact Nat.add_pos_left hq _
  · split at h
    · next hb =>
      cases h
      exact hbelow _ hb
    · split at h
      · cases h
        exact Nat.succ_pos q
      · cases h

theorem search_pos {i : Interval} (hvalue : 0 < i.value) (hden : 0 < i.den) (count : Nat) {g : Int}
    (hg : g ≤ floorLogTen i.value i.den) : 0 < (i.search count g).digits := by
  induction count generalizing g with
  | zero =>
    exact Nat.div_pos (floorLogTen_spec hvalue hden hg) (Nat.mul_pos hden (tenTo_pos _))
  | succ count ih =>
    rw [Interval.search]
    split
    · next hn => exact onGrid?_pos hn
    · exact ih (by omega)

theorem normalize_pos (fuel : Nat) {d : Digits} (h : 0 < d.digits) :
    0 < (d.normalize fuel).digits := by
  induction fuel generalizing d with
  | zero => exact h
  | succ fuel ih =>
    rw [Digits.normalize]
    split
    · exact ih (show 0 < d.digits / 10 by omega)
    · exact h

/-- The shortest decimal of a positive double is positive. -/
theorem shortest_pos {m : Nat} (hm : 0 < m) (q : Int) : 0 < (shortest m q).digits := by
  have hpow (n : Nat) : 0 < twoTo n := Nat.pow_pos (by decide)
  refine normalize_pos 20 (search_pos ?_ (hpow _) 17 (Int.le_refl _))
  exact Nat.mul_pos (Nat.mul_pos (by decide) hm) (hpow _)

/-! ## Texts of doubles -/

theorem toList_natText (n : Nat) : (natText n).toList = Nat.toDigits 10 n := by
  rw [natText, Nat.toString_eq_repr, Nat.toList_repr]

theorem toList_take (s : String) (n : Nat) : (s.take n).toString.toList = s.toList.take n := by simp

theorem toList_drop (s : String) (n : Nat) : (s.drop n).toString.toList = s.toList.drop n := by simp

theorem digits_zeros (count : Nat) : ∀ c ∈ (zeros count).toList, c.isDigit = true := by
  intro c hc
  rw [zeros, String.toList_ofList] at hc
  rw [List.eq_of_mem_replicate hc]
  decide

theorem isPower_exponentText (e : Int) :
    IsPower (exponentText e).toList ∧ (exponentText e).toList ≠ [] := by
  have hd : AreDigits (natText e.natAbs).toList := toList_natText _ ▸ areDigits_toDigits _
  have hpadded : AreDigits (if (natText e.natAbs).length < 2 then "0" ++ natText e.natAbs
      else natText e.natAbs).toList := by
    split
    · rw [String.toList_append]
      exact hd.append_right areDigits_zero.digits
    · exact hd
  rw [exponentText, String.toList_append]
  split
  · exact ⟨.inr ⟨'-', _, .inr rfl, hpadded, rfl⟩, List.cons_ne_nil _ _⟩
  · exact ⟨.inr ⟨'+', _, .inl rfl, hpadded, rfl⟩, List.cons_ne_nil _ _⟩

/-- The digits but for the first one, as a fraction. -/
theorem isFraction_rest {ds : String} (hd : AreDigits ds.toList) :
    IsFraction
      (if (ds.drop 1).toString.isEmpty then "" else "." ++ (ds.drop 1).toString).toList := by
  split
  · exact .inl rfl
  · next hempty =>
    rw [String.toList_append, toList_drop]
    refine .inr ⟨_, hd.drop fun hnil => hempty ?_, rfl⟩
    rw [String.isEmpty_iff, ← String.toList_eq_nil_iff, toList_drop]
    exact hnil

/-- The text of a positive decimal is a number with a fraction or an exponent. -/
theorem isDecimalText_digitsText {d : Digits} (h : 0 < d.digits) :
    IsDecimalText (digitsText d).toList := by
  have hzero : IsWhole ['0'] := ⟨areDigits_zero, .inl rfl⟩
  have hds := toList_natText d.digits
  have hdigits : AreDigits (natText d.digits).toList := hds ▸ areDigits_toDigits _
  have hhead : (natText d.digits).toList.head? ≠ some '0' := hds ▸ head?_toDigits h
  have hlength : (natText d.digits).toList.length = (natText d.digits).length := String.length_toList
  unfold digitsText
  dsimp only
  generalize natText d.digits = ds at *
  generalize hpoint : (ds.length : Int) + d.exponent = point
  split
  · split
    · -- the point stands in front of the digits
      have htext := IsDecimalText.of_fraction hzero (hdigits.append_right (digits_zeros (-point).toNat))
      simpa [String.toList_append] using htext
    · split
      · -- the point stands between the digits
        have hrest : ds.toList.drop point.toNat ≠ [] := by
          rw [ne_eq, List.drop_eq_nil_iff]
          omega
        have htext := IsDecimalText.of_fraction
          (hdigits.take_isWhole hhead (n := point.toNat) (by omega)) (hdigits.drop hrest)
        simpa [String.toList_append] using htext
      · -- the point stands behind the digits, and a zero behind it
        have hwhole : IsWhole (ds.toList ++ (zeros (point - ds.length).toNat).toList) := by
          refine ⟨hdigits.append_left (digits_zeros _), .inr ?_⟩
          rwa [List.head?_append_of_ne_nil _ hdigits.nonempty]
        have htext := IsDecimalText.of_fraction hwhole hzero.toAreDigits
        simpa [String.toList_append] using htext
  · -- the point stands behind the first digit, with an exponent
    obtain ⟨hpower, hne⟩ := isPower_exponentText (point - 1)
    have htext := IsDecimalText.of_power (hdigits.take_isWhole hhead (n := 1) Nat.one_ne_zero)
      (isFraction_rest hdigits) hpower hne
    simpa only [String.toList_append, toList_take, List.append_assoc] using htext

end Double

end CxxWriter
