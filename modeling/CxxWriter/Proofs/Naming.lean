/-
  Names of macros.

  * `toList_macroCase`: a name of a macro is in upper case, character by
    character;
  * `isIdentifier_macroCase`: it is an identifier exactly if the first letter or
    digit of the text is a letter;
  * `macroCase_ne`: a text with a letter has a name.
-/
import CxxWriter.Naming
import CxxWriter.Proofs.Lines

namespace CxxWriter.Naming

open Text

/-! ## Characters of ASCII -/

/-- What holds of the first 128 characters holds of all that are in ASCII. -/
theorem ascii_forall {P : Char → Prop} (h : ∀ n < 128, P (Char.ofNat n)) (c : Char)
    (hc : c.toNat < 128) : P c := by
  have := h c.toNat hc
  rwa [Char.ofNat_toNat] at this

theorem ascii_of_alphanum {c : Char} (h : c.isAlphanum = true) : c.toNat < 128 := by
  delta Char.isAlphanum Char.isAlpha Char.isUpper Char.isLower Char.isDigit at h
  simp only [Bool.or_eq_true, Bool.and_eq_true, decide_eq_true_eq, UInt32.le_iff_toNat_le,
    ge_iff_le] at h
  have hn : c.toNat = c.val.toNat := rfl
  have hZ : 'Z'.val.toNat = 90 := rfl
  have hz : 'z'.val.toNat = 122 := rfl
  have h9 : '9'.val.toNat = 57 := rfl
  omega

/-- What the macros and the words of names are written in. -/
def isWordChar (c : Char) : Bool := c.isAlphanum || c == '_'

theorem ascii_of_wordChar {c : Char} (h : isWordChar c = true) : c.toNat < 128 := by
  rcases Bool.or_eq_true _ _ ▸ h with h | h
  · exact ascii_of_alphanum h
  · rw [beq_iff_eq.1 h]
    decide

/-- A capital, a digit or an underscore. -/
def isMacroChar (c : Char) : Bool := c.isUpper || c.isDigit || c == '_'

theorem wordChar_of_macroChar {c : Char} (h : isMacroChar c = true) : isWordChar c = true := by
  simp only [isMacroChar, isWordChar, Bool.or_eq_true] at h ⊢
  delta Char.isAlphanum Char.isAlpha
  simp only [Bool.or_eq_true]
  rcases h with (h | h) | h
  · exact .inl (.inl (.inl h))
  · exact .inl (.inr h)
  · exact .inr h

theorem isSpace_wordChar {c : Char} (h : isWordChar c = true) : isSpace c = false := by
  refine ascii_forall (P := fun c => isWordChar c = true → isSpace c = false) ?_ c
    (ascii_of_wordChar h) h
  decide +kernel

theorem upperChar_wordChar {c : Char} (h : isWordChar c = true) :
    upperChar c = [c.toUpper] ∧ isMacroChar c.toUpper = true ∧
      c.toUpper.isDigit = c.isDigit ∧ c.toUpper.isAlpha = c.isAlpha := by
  refine ascii_forall (P := fun c => isWordChar c = true → upperChar c = [c.toUpper] ∧
    isMacroChar c.toUpper = true ∧ c.toUpper.isDigit = c.isDigit ∧ c.toUpper.isAlpha = c.isAlpha)
    ?_ c (ascii_of_wordChar h) h
  decide +kernel

/-! ## Names of macros -/

/-- What is written for a text without the characters of a class. -/
theorem of_mem_collapse {p : Char → Bool} {inRun : Bool} {l : List Char} {c : Char}
    (h : c ∈ collapse p inRun l) : c = '_' ∨ c ∈ l ∧ p c = false := by
  induction l generalizing inRun with
  | nil => cases h
  | cons d l ih =>
    have hrest {inRun : Bool} (h : c ∈ collapse p inRun l) : c = '_' ∨ c ∈ d :: l ∧ p c = false :=
      (ih h).imp_right (And.imp_left (List.mem_cons_of_mem d))
    unfold collapse at h
    split at h
    · split at h
      · exact hrest h
      · exact (List.mem_cons.1 h).elim .inl hrest
    · next hd =>
      rcases List.mem_cons.1 h with rfl | h
      · exact .inr ⟨List.mem_cons_self, by simpa using hd⟩
      · exact hrest h

theorem wordChar_collapse {inRun : Bool} {l : List Char} :
    ∀ c ∈ collapse isForeign inRun l, isWordChar c = true := by
  intro c hc
  rcases of_mem_collapse hc with rfl | ⟨-, hc⟩
  · rfl
  · rw [isForeign, Bool.not_eq_false'] at hc
    rw [isWordChar, hc, Bool.true_or]

/-- Behind the underscores at the front stands the first letter or digit. -/
theorem head?_collapse (inRun : Bool) (l : List Char) :
    (trimStart (· == '_') (collapse isForeign inRun l)).head? = l.find? Char.isAlphanum := by
  induction l generalizing inRun with
  | nil => rfl
  | cons c l ih =>
    unfold collapse isForeign
    cases hc : c.isAlphanum with
    | true =>
      have hne : (c == '_') = false := by
        refine ascii_forall (P := fun c => c.isAlphanum = true → (c == '_') = false) ?_ c
          (ascii_of_alphanum hc) hc
        decide +kernel
      rw [List.find?_cons_of_pos hc]
      simp [trimStart, hne]
    | false =>
      rw [List.find?_cons_of_neg (by simp [hc])]
      cases inRun with
      | true => exact ih true
      | false => exact ih true

theorem wordChar_trim {l : List Char} {c : Char}
    (h : c ∈ trim (· == '_') (collapse isForeign false l)) : isWordChar c = true :=
  wordChar_collapse c ((List.dropWhile_suffix _).subset (mem_of_mem_trimEnd h))

theorem head?_trim (l : List Char) :
    (trim (· == '_') (collapse isForeign false l)).head? = l.find? Char.isAlphanum := by
  rw [← head?_collapse false, trim]
  cases hs : trimStart (· == '_') (collapse isForeign false l) with
  | nil => rfl
  | cons c r => rw [trimEnd_cons (head?_trimStart (by rw [hs]; rfl))]; rfl

/-- Upper case in ASCII is that of the single characters. -/
theorem toUpper_ofList {l : List Char} (h : ∀ c ∈ l, c.toNat < 128) :
    toUpper (String.ofList l) = String.ofList (l.map Char.toUpper) := by
  rw [toUpper, String.toList_ofList, List.map_eq_flatMap]
  refine congrArg _ (List.flatMap_congr fun c hc => ?_)
  rw [upperChar, if_pos (h c hc)]

theorem toList_macroCase (s : String) : (macroCase s).toList =
    (trim (· == '_') (collapse isForeign false (snakeCase s).toList)).map Char.toUpper := by
  rw [macroCase, toUpper_ofList fun c hc => ascii_of_wordChar (wordChar_trim hc),
    String.toList_ofList]

theorem macroChar_macroCase {s : String} {c : Char} (h : c ∈ (macroCase s).toList) :
    isMacroChar c = true := by
  rw [toList_macroCase] at h
  obtain ⟨d, hd, rfl⟩ := List.mem_map.1 h
  exact (upperChar_wordChar (wordChar_trim hd)).2.1

theorem head?_macroCase (s : String) : (macroCase s).toList.head? =
    ((snakeCase s).toList.find? Char.isAlphanum).map Char.toUpper := by
  rw [toList_macroCase, List.head?_map, head?_trim]

/-- Can a text be the name of a macro?  It has letters, digits and underscores, at
    least one of them, and does not start with a digit. -/
def isIdentifier (s : String) : Bool :=
  s.toList.all isWordChar && s.toList.head?.any fun c => !c.isDigit

/-- The name of a macro is an identifier exactly if a letter stands before the first
    digit of the text in snake case. -/
theorem isIdentifier_macroCase (s : String) : isIdentifier (macroCase s) =
    ((snakeCase s).toList.find? Char.isAlphanum).any Char.isAlpha := by
  have hall : (macroCase s).toList.all isWordChar = true := by
    rw [List.all_eq_true]
    intro c hc
    exact wordChar_of_macroChar (macroChar_macroCase hc)
  rw [isIdentifier, hall, Bool.true_and, head?_macroCase]
  cases hf : (snakeCase s).toList.find? Char.isAlphanum with
  | none => rfl
  | some c =>
    have hc : c.isAlphanum = true := List.find?_some hf
    refine ascii_forall (P := fun c => c.isAlphanum = true →
      ((some c).map Char.toUpper).any (fun c => !c.isDigit) = (some c).any Char.isAlpha) ?_ c
      (ascii_of_alphanum hc) hc
    decide +kernel

/-! ## What is left of a text -/

/-- Setting capitals off puts nothing but underscores in a text. -/
theorem of_mem_splitCapitals {l : List Char} {c : Char} (h : c ∈ splitCapitals l) :
    c = '_' ∨ c ∈ l := by
  fun_induction splitCapitals l with
  | case1 => cases h
  | case2 => exact .inr h
  | case3 d e l _ ih =>
    rcases List.mem_cons.1 h with rfl | h
    · exact .inr List.mem_cons_self
    · rcases List.mem_cons.1 h with rfl | h
      · exact .inl rfl
      · exact (ih h).imp_right (List.mem_cons_of_mem d)
  | case4 d e l _ ih =>
    rcases List.mem_cons.1 h with rfl | h
    · exact .inr List.mem_cons_self
    · exact (ih h).imp_right (List.mem_cons_of_mem d)

theorem mem_splitCapitals {l : List Char} {c : Char} (h : c ∈ l) : c ∈ splitCapitals l := by
  fun_induction splitCapitals l with
  | case1 => cases h
  | case2 => exact h
  | case3 d e l _ ih =>
    rcases List.mem_cons.1 h with rfl | h
    · exact List.mem_cons_self
    · exact List.mem_cons_of_mem _ (List.mem_cons_of_mem _ (ih h))
  | case4 d e l _ ih =>
    rcases List.mem_cons.1 h with rfl | h
    · exact List.mem_cons_self
    · exact List.mem_cons_of_mem _ (ih h)

theorem mem_collapse {p : Char → Bool} {inRun : Bool} {l : List Char} {c : Char} (h : c ∈ l)
    (hp : p c = false) : c ∈ collapse p inRun l := by
  induction l generalizing inRun with
  | nil => cases h
  | cons d l ih =>
    unfold collapse
    rcases List.mem_cons.1 h with rfl | h
    · rw [hp]
      exact List.mem_cons_self
    · split
      · split
        · exact ih h
        · exact List.mem_cons_of_mem _ (ih h)
      · exact List.mem_cons_of_mem _ (ih h)

theorem mem_lowerAfter {before l : List Char} {c : Char} (h : c ∈ l) (hc : c.toNat < 128) :
    c.toLower ∈ lowerAfter before l := by
  induction l generalizing before with
  | nil => cases h
  | cons d l ih =>
    rw [lowerAfter, List.mem_append]
    rcases List.mem_cons.1 h with rfl | h
    · left
      have hsigma : c ≠ 'Σ' := by
        rintro rfl
        revert hc
        decide
      rw [if_neg hsigma, lowerChar, if_pos hc]
      exact List.mem_singleton_self _
    · exact .inr (ih h)

/-- A letter of ASCII is left in the name of a macro. -/
theorem macroCase_ne {s : String} {c : Char} (hc : c ∈ s.toList) (ha : c.isAlpha = true) :
    macroCase s ≠ "" := by
  have hascii : c.toNat < 128 := ascii_of_alphanum (by rw [Char.isAlphanum, ha, Bool.true_or])
  have hletter : isSeparator c = false ∧ c.toLower.isAlphanum = true := by
    refine ascii_forall (P := fun c => c.isAlpha = true →
      isSeparator c = false ∧ c.toLower.isAlphanum = true) ?_ c hascii ha
    decide +kernel
  have hsnake : c.toLower ∈ (snakeCase s).toList := by
    rw [snakeCase, toLower, String.toList_ofList, String.toList_ofList]
    exact mem_lowerAfter (mem_collapse (mem_splitCapitals hc) hletter.1) hascii
  intro hempty
  have hhead := head?_macroCase s
  rw [hempty] at hhead
  have hnone := Option.map_eq_none_iff.1 hhead.symm
  exact absurd hletter.2 (List.find?_eq_none.1 hnone _ hsnake)

end CxxWriter.Naming
