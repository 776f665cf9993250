/-
  The texts of numbers hold no white space: `solid_fragment`.
-/
import CxxWriter.Fragment

namespace CxxWriter

/-- Has a text no white space in it? -/
def Text.IsSolid (s : String) : Prop := ∀ c ∈ s.toList, isSpace c = false

namespace Text.IsSolid

instance (s : String) : Decidable (IsSolid s) := List.decidableBAll _ _

theorem append {s t : String} (hs : IsSolid s) (ht : IsSolid t) : IsSolid (s ++ t) := by
  intro c hc
  rw [String.toList_append] at hc
  rcases List.mem_append.1 hc with hc | hc
  · exact hs c hc
  · exact ht c hc

theorem take {s : String} (h : IsSolid s) (n : Nat) : IsSolid (s.take n).toString := fun c hc =>
  h c (List.mem_of_mem_take (by simpa using hc))

theorem drop {s : String} (h : IsSolid s) (n : Nat) : IsSolid (s.drop n).toString := fun c hc =>
  h c (List.mem_of_mem_drop (by simpa using hc))

end Text.IsSolid

open Text (IsSolid)

/-- No printable character of ASCII but the space is white space. -/
theorem Text.toNat_of_isSpace {c : Char} (h : isSpace c = true) : c.toNat ≤ 0x20 ∨ 0x85 ≤ c.toNat := by
  simp only [isSpace, isBlank, isWideSpace, Bool.or_eq_true, Bool.and_eq_true, decide_eq_true_eq,
    beq_iff_eq] at h
  rcases h with (hb | hs) | hw
  · rcases hb with ((((rfl | rfl) | rfl) | rfl) | rfl) | rfl <;> decide
  · omega
  · omega

theorem solid_nat (n : Nat) : IsSolid (toString n) := by
  intro c hc
  rw [Nat.toString_eq_repr, Nat.toList_repr] at hc
  have hd : c.isDigit = true := Nat.isDigit_of_mem_toDigits (by decide) (by decide) hc
  simp only [Char.isDigit, Bool.and_eq_true, decide_eq_true_eq, UInt32.le_iff_toNat_le] at hd
  have hl : 48 ≤ c.toNat := hd.1
  have hr : c.toNat ≤ 57 := hd.2
  refine eq_false_of_ne_true fun hs => ?_
  rcases Text.toNat_of_isSpace hs with h | h
  · omega
  · omega

theorem solid_int (n : Int) : IsSolid (toString n) := by
  cases n with
  | ofNat n => exact solid_nat n
  | negSucc n => exact .append (by decide) (solid_nat (n + 1))

namespace Double

theorem solid_zeros (count : Nat) : IsSolid (zeros count) := by
  intro c hc
  rw [zeros, String.toList_ofList] at hc
  rw [List.eq_of_mem_replicate hc]
  decide

theorem solid_exponentText (e : Int) : IsSolid (exponentText e) := by
  have hd : IsSolid (natText e.natAbs) := solid_nat _
  refine .append ?_ ?_
  · split <;> decide
  · split
    · exact .append (by decide) hd
    · exact hd

theorem solid_digitsText (d : Digits) : IsSolid (digitsText d) := by
  have hd : IsSolid (natText d.digits) := solid_nat _
  have hdot : IsSolid "." := by decide
  unfold digitsText
  dsimp only
  split
  · split
    · exact .append (.append (by decide) (solid_zeros _)) hd
    · split
      · exact .append (.append (hd.take _) hdot) (hd.drop _)
      · exact .append (.append hd (solid_zeros _)) (by decide)
  · refine .append (.append (hd.take 1) ?_) (solid_exponentText _)
    split
    · decide
    · exact .append hdot (hd.drop 1)

theorem solid_toText (x : Float) : IsSolid (toText x) := by
  unfold toText
  split
  · decide
  · split <;> decide
  · refine .append ?_ ?_
    · split <;> decide
    · split
      · decide
      · exact solid_digitsText _

end Double

namespace Decimal

theorem solid_exponentText (e : Int) : IsSolid (exponentText e) := by
  unfold exponentText
  split
  · exact .append (by decide) (solid_nat _)
  · exact .append (by decide) (solid_nat _)

theorem solid_finiteText (coefficient : Nat) (exponent : Int) :
    IsSolid (finiteText coefficient exponent) := by
  have hd : IsSolid (toString coefficient) := solid_nat _
  have hdot : IsSolid "." := by decide
  unfold finiteText
  extract_lets ds size left point body
  have hbody : IsSolid body := by
    clear_value point
    simp only [body]
    split
    · exact .append (.append (by decide) (Double.solid_zeros _)) hd
    · split
      · exact .append hd (Double.solid_zeros _)
      · exact .append (.append (hd.take _) hdot) (hd.drop _)
  split
  · exact hbody
  · exact .append hbody (solid_exponentText _)

theorem solid_toText (d : Decimal) : IsSolid d.toText := by
  have hsign (negative : Bool) : IsSolid (if negative then "-" else "") := by
    split <;> decide
  cases d with
  | finite negative c e => exact .append (hsign negative) (solid_finiteText c e)
  | infinite negative => exact .append (hsign negative) (by decide)
  | nan negative signaling payload =>
    refine .append (.append (hsign negative) ?_) ?_
    · split <;> decide
    · cases payload with
      | none => decide
      | some n => exact solid_nat n

end Decimal

/-- A fragment with white space in it was given as a text. -/
theorem solid_fragment {v : Value} {s : String} (h : v.fragment? = some s) :
    v = .text s ∨ IsSolid s := by
  unfold Value.fragment? at h
  split at h
  · cases h
    exact .inl rfl
  · obtain ⟨-, rfl⟩ := Option.ite_some_none_eq_some.1 h
    exact .inr (solid_int _)
  · cases h
    exact .inr (Double.solid_toText _)
  · cases h
    exact .inr (Decimal.solid_toText _)
  · cases h
    exact .inr (by decide)
  · cases h
    exact .inr (Decimal.solid_toText _)
  · cases h

end CxxWriter
