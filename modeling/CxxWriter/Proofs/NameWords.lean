/-
  Names in all styles are made of the same words.

  * `wordsBy gap cut`: the words of a text, which end at the characters of a class and
    where the text is cut between two others; `wordsOf` are the words that names are
    made of, and `nameWords` those that stand between underscores;
  * `wordsBy_collapse`, `wordsBy_splitCapitals`: neither writing separators as
    underscores nor setting capitals off changes the words;
  * `words_agree`: names in all three styles have the words of the text, and the style
    of a name in snake case is the style of the text.
-/
import CxxWriter.Proofs.Naming
import CxxWriter.Proofs.Paths

namespace CxxWriter.Naming

open Text

/-! ## Words -/

section

variable (gap : Char → Bool) (cut : Char → Char → Bool)

/-- Does no character of the same word follow on `c`? -/
def endsWord (c : Char) (l : List Char) : Bool := l.head?.all fun d => gap d || cut c d

/-- The words of a text.  A gap is in no word, and a word ends where the text is cut
    between two characters. -/
def wordsBy : List Char → List (List Char)
  | [] => []
  | c :: l =>
    if gap c then wordsBy l
    else if endsWord gap cut c l then [c] :: wordsBy l
    else (wordsBy l).modifyHead (c :: ·)

end

section

variable {gap : Char → Bool} {cut : Char → Char → Bool} {c d : Char} {l : List Char}

@[simp] theorem endsWord_cons : endsWord gap cut c (d :: l) = (gap d || cut c d) := rfl

theorem wordsBy_gap (hc : gap c = true) : wordsBy gap cut (c :: l) = wordsBy gap cut l :=
  if_pos hc

theorem wordsBy_end (hc : gap c = false) (h : endsWord gap cut c l = true) :
    wordsBy gap cut (c :: l) = [c] :: wordsBy gap cut l := by
  rw [wordsBy, if_neg (by simp [hc]), if_pos h]

theorem wordsBy_next (hc : gap c = false) (h : endsWord gap cut c l = false) :
    wordsBy gap cut (c :: l) = (wordsBy gap cut l).modifyHead (c :: ·) := by
  rw [wordsBy, if_neg (by simp [hc]), if_neg (by simp [h])]

/-- A text that starts with no gap has a first word, which starts as the text does. -/
theorem exists_first_word (hc : gap c = false) :
    ∃ w ws, wordsBy gap cut (c :: l) = (c :: w) :: ws := by
  induction l generalizing c with
  | nil => exact ⟨[], [], wordsBy_end hc rfl⟩
  | cons d l ih =>
    cases h : endsWord gap cut c (d :: l) with
    | true => exact ⟨[], _, wordsBy_end hc h⟩
    | false =>
      obtain ⟨w, ws, hd⟩ := ih (Bool.or_eq_false_iff.1 h).1
      exact ⟨d :: w, ws, by rw [wordsBy_next hc h, hd]; rfl⟩

/-- Words are not empty, and their characters are those of the text that are no gaps. -/
theorem mem_wordsBy {w : List Char} (hw : w ∈ wordsBy gap cut l) :
    w ≠ [] ∧ ∀ c ∈ w, c ∈ l ∧ gap c = false := by
  induction l generalizing w with
  | nil => cases hw
  | cons c l ih =>
    have hrest {v : List Char} (hv : v ∈ wordsBy gap cut l) :
        v ≠ [] ∧ ∀ d ∈ v, d ∈ c :: l ∧ gap d = false :=
      (ih hv).imp_right fun h d hd => (h d hd).imp_left (List.mem_cons_of_mem c)
    cases hc : gap c with
    | true => exact hrest (wordsBy_gap hc ▸ hw)
    | false =>
      have hfirst : c ∈ c :: l ∧ gap c = false := ⟨List.mem_cons_self, hc⟩
      cases h : endsWord gap cut c l with
      | true =>
        rw [wordsBy_end hc h] at hw
        rcases List.mem_cons.1 hw with rfl | hw
        · exact ⟨List.cons_ne_nil c [], fun d hd => List.mem_singleton.1 hd ▸ hfirst⟩
        · exact hrest hw
      | false =>
        rw [wordsBy_next hc h] at hw
        cases hwords : wordsBy gap cut l with
        | nil => rw [hwords] at hw; cases hw
        | cons v vs =>
          rw [hwords] at hw hrest
          rcases List.mem_cons.1 hw with rfl | hw
          · refine ⟨List.cons_ne_nil c v, fun d hd => ?_⟩
            rcases List.mem_cons.1 hd with rfl | hd
            · exact hfirst
            · exact (hrest List.mem_cons_self).2 d hd
          · exact hrest (List.mem_cons_of_mem v hw)

/-- Changing the characters changes the words in the same way, if the gaps and the cuts
    are at the same places. -/
theorem wordsBy_map {gap' : Char → Bool} {cut' : Char → Char → Bool} {f : Char → Char}
    (hgap : ∀ c ∈ l, gap' (f c) = gap c) (hcut : ∀ c ∈ l, ∀ d ∈ l, cut' (f c) (f d) = cut c d) :
    wordsBy gap' cut' (l.map f) = (wordsBy gap cut l).map (List.map f) := by
  induction l with
  | nil => rfl
  | cons c l ih =>
    have ih := ih (fun d hd => hgap d (List.mem_cons_of_mem c hd)) fun d hd e he =>
      hcut d (List.mem_cons_of_mem c hd) e (List.mem_cons_of_mem c he)
    have hc := hgap c List.mem_cons_self
    have hends : endsWord gap' cut' (f c) (l.map f) = endsWord gap cut c l := by
      cases l with
      | nil => rfl
      | cons d l =>
        have hd : d ∈ c :: d :: l := List.mem_cons_of_mem c List.mem_cons_self
        rw [List.map_cons, endsWord_cons, endsWord_cons, hgap d hd,
          hcut c List.mem_cons_self d hd]
    rw [List.map_cons, wordsBy, wordsBy, hc, hends, ih]
    split
    · rfl
    · split
      · rfl
      · cases wordsBy gap cut l <;> rfl

theorem wordsBy_congr {gap' : Char → Bool} (h : ∀ c ∈ l, gap' c = gap c) :
    wordsBy gap' cut l = wordsBy gap cut l := by
  simpa using wordsBy_map (f := id) h fun _ _ _ _ => rfl

end

/-! ## Words between underscores -/

def isUnderscore (c : Char) : Bool := c == '_'

/-- The text is cut nowhere but at its gaps. -/
def uncut (_ _ : Char) : Bool := false

/-- The words between the underscores of a name. -/
def nameWords (s : String) : List String := (splitString '_' s).filter (!·.isEmpty)

theorem filter_splitOn (l : List Char) :
    (splitOn '_' l).filter (!·.isEmpty) = wordsBy isUnderscore uncut l := by
  induction l with
  | nil => rfl
  | cons c l ih =>
    by_cases hc : c = '_'
    · subst hc
      rw [splitOn, if_pos rfl, wordsBy_gap rfl, ← ih]
      rfl
    · have hgap : isUnderscore c = false := by simpa [isUnderscore] using hc
      rw [splitOn, if_neg hc]
      cases l with
      | nil => rw [wordsBy_end hgap rfl]; rfl
      | cons d l =>
        by_cases hd : d = '_'
        · subst hd
          rw [wordsBy_end hgap rfl, ← ih, splitOn, if_pos rfl]
          rfl
        · have hends : endsWord isUnderscore uncut c (d :: l) = false := by
            simp [isUnderscore, uncut, hd]
          obtain ⟨p, ps, hsplit⟩ := List.exists_cons_of_ne_nil (splitOn_ne_nil '_' l)
          rw [wordsBy_next hgap hends, ← ih, splitOn, if_neg hd, hsplit]
          rfl

theorem nameWords_eq (s : String) :
    nameWords s = (wordsBy isUnderscore uncut s.toList).map String.ofList := by
  have hempty (l : List Char) : (String.ofList l).isEmpty = l.isEmpty := by
    rw [Bool.eq_iff_iff, String.isEmpty_iff, List.isEmpty_iff, String.ofList_eq_empty_iff]
  rw [nameWords, splitString, ← filter_splitOn, List.filter_map]
  exact congrArg _ (List.filter_congr fun l _ => congrArg not (hempty l))

/-! ## Separators and capitals -/

/-- A separator or an underscore. -/
def isGap (c : Char) : Bool := isSeparator c || isUnderscore c

/-- A capital that follows a small letter or a digit starts a word. -/
def startsWord (c d : Char) : Bool := isSmall c && d.isUpper

theorem gap_of_alphanum {c : Char} (h : c.isAlphanum = true) : isGap c = false := by
  refine ascii_forall (P := fun c => c.isAlphanum = true → isGap c = false) ?_ c
    (ascii_of_alphanum h) h
  decide +kernel

theorem alphanum_of_small {c : Char} (h : isSmall c = true) : c.isAlphanum = true := by
  unfold isSmall at h
  unfold Char.isAlphanum Char.isAlpha
  rcases Bool.or_eq_true_iff.1 h with h | h
  · rw [h, Bool.or_true, Bool.true_or]
  · rw [h, Bool.or_true]

/-- The words of a text that names are made of. -/
def wordsOf (s : String) : List String := (wordsBy isGap startsWord s.toList).map String.ofList

/-- Writing underscores for runs of characters keeps the words between them. -/
theorem wordsBy_collapse (p : Char → Bool) (inRun : Bool) (l : List Char) :
    wordsBy isUnderscore uncut (collapse p inRun l) =
      wordsBy (fun c => p c || isUnderscore c) uncut l := by
  have hends (c : Char) (l : List Char) : endsWord isUnderscore uncut c (collapse p false l) =
      endsWord (fun c => p c || isUnderscore c) uncut c l := by
    cases l with
    | nil => rfl
    | cons d l => cases hd : p d <;> simp [collapse, hd, isUnderscore]
  induction l generalizing inRun with
  | nil => rfl
  | cons c l ih =>
    cases hc : p c with
    | true =>
      rw [wordsBy_gap (by rw [hc, Bool.true_or]), collapse, if_pos hc]
      cases inRun with
      | true => exact ih true
      | false => exact (wordsBy_gap rfl).trans (ih true)
    | false =>
      rw [collapse, if_neg (by simp [hc]), wordsBy, wordsBy, hends, ih, hc, Bool.false_or]

theorem head?_splitCapitals (l : List Char) : (splitCapitals l).head? = l.head? := by
  fun_cases splitCapitals l <;> rfl

/-- Setting capitals off cuts the words. -/
theorem wordsBy_splitCapitals (l : List Char) :
    wordsBy isGap uncut (splitCapitals l) = wordsBy isGap startsWord l := by
  fun_induction splitCapitals l with
  | case1 => rfl
  | case2 c => rfl
  | case3 c d l h ih =>
    -- `d` is a capital behind a small letter: it gets an underscore, and starts a word
    have hc : isGap c = false := gap_of_alphanum (alphanum_of_small (Bool.and_eq_true_iff.1 h).1)
    rw [wordsBy_end hc rfl, wordsBy_gap rfl, ih, wordsBy_end hc]
    rw [endsWord_cons, startsWord, h, Bool.or_true]
  | case4 c d l h ih =>
    have hends : endsWord isGap uncut c (splitCapitals (d :: l)) =
        endsWord isGap startsWord c (d :: l) := by
      rw [endsWord, head?_splitCapitals]
      simp [uncut, startsWord, h]
    rw [wordsBy, wordsBy, hends, ih]

/-! ## Runs at the ends -/

section

variable {p : Char → Bool} (hp : p '_' = true)

include hp

theorem not_isUnderscore {c : Char} (hc : p c = false) : isUnderscore c = false := by
  rw [isUnderscore, beq_eq_false_iff_ne]
  rintro rfl
  rw [hp] at hc
  cases hc

theorem trimStart_collapse (inRun : Bool) (l : List Char) :
    trimStart isUnderscore (collapse p inRun l) = collapse p true l := by
  induction l generalizing inRun with
  | nil => rfl
  | cons c l ih =>
    cases hc : p c with
    | true =>
      rw [collapse, collapse, if_pos hc, if_pos hc]
      cases inRun with
      | true => exact ih true
      | false => exact ih true
    | false =>
      rw [collapse, collapse, if_neg (by simp [hc]), if_neg (by simp [hc])]
      exact List.dropWhile_cons_of_neg (by simp [not_isUnderscore hp hc])

/-- What is written of a word and what follows it: the words with single underscores
    between them. -/
theorem trimEnd_collapse (l : List Char) :
    trimEnd isUnderscore (collapse p true l) = joinWith '_' (wordsBy p uncut l) ∧
    ∀ c, p c = false →
      trimEnd isUnderscore (c :: collapse p false l) = joinWith '_' (wordsBy p uncut (c :: l)) := by
  -- Both are needed at once: a word that ends here goes on behind the run, and a run
  -- that ends here goes on inside a word.
  induction l with
  | nil =>
    refine ⟨rfl, fun c hc => ?_⟩
    rw [wordsBy_end hc rfl]
    exact trimEnd_cons (not_isUnderscore hp hc) []
  | cons d l ih =>
    obtain ⟨hrun, hword⟩ := ih
    cases hd : p d with
    | true =>
      rw [wordsBy_gap hd, collapse, if_pos hd, if_pos rfl]
      refine ⟨hrun, fun c hc => ?_⟩
      rw [wordsBy_end hc (by simp [hd]), wordsBy_gap hd, collapse, if_pos hd,
        if_neg Bool.false_ne_true, trimEnd_cons (not_isUnderscore hp hc)]
      have hend : trimEnd isUnderscore ('_' :: collapse p true l) =
          if trimEnd isUnderscore (collapse p true l) = [] then []
          else '_' :: trimEnd isUnderscore (collapse p true l) := trimEnd_append ['_'] _
      rw [hend, hrun]
      cases hwords : wordsBy p uncut l with
      | nil => rfl
      | cons w ws =>
        have hne : joinWith '_' (w :: ws) ≠ [] := by
          have hw : w ≠ [] := (mem_wordsBy (hwords ▸ List.mem_cons_self)).1
          cases ws with
          | nil => exact hw
          | cons v vs => exact fun h => hw (List.append_eq_nil_iff.1 h).1
        rw [if_neg hne]
        rfl
    | false =>
      rw [collapse, if_neg (by simp [hd])]
      refine ⟨hword d hd, fun c hc => ?_⟩
      rw [wordsBy_next hc (by simp [hd, uncut]), collapse, if_neg (by simp [hd]),
        trimEnd_cons (not_isUnderscore hp hc), hword d hd]
      obtain ⟨w, ws, hwords⟩ := exists_first_word (l := l) hd
      rw [hwords]
      cases ws <;> rfl

/-- Without the underscores at its ends, a text with underscores for its gaps is the words
    with single underscores between them. -/
theorem trim_collapse (l : List Char) :
    trim isUnderscore (collapse p false l) = joinWith '_' (wordsBy p uncut l) := by
  rw [trim, trimStart_collapse hp, (trimEnd_collapse hp l).1]

end

/-! ## Names without loose underscores -/

/-- Does no underscore stand at an end or behind another one? -/
structure IsTight (l : List Char) : Prop where
  first : l.head? ≠ some '_'
  last : l.getLast? ≠ some '_'
  single : ¬ ['_', '_'] <:+: l

theorem isTight_joinWith {ws : List (List Char)} (h : ∀ w ∈ ws, w ≠ [] ∧ '_' ∉ w) :
    IsTight (joinWith '_' ws) := by
  have hsides {a b : List Char} (hab : joinWith '_' ws = a ++ '_' :: b) :
      [] ∉ splitOn '_' a ∧ [] ∉ splitOn '_' b := by
    have hne : ws ≠ [] := by
      rintro rfl
      cases a <;> cases hab
    have hsplit := splitOn_joinWith '_' hne fun w hw => (h w hw).2
    rw [hab, splitOn_append_sep] at hsplit
    rw [← not_or, ← List.mem_append, hsplit]
    exact fun hnil => (h [] hnil).1 rfl
  refine ⟨fun hfirst => ?_, fun hlast => ?_, fun hsingle => ?_⟩
  · obtain ⟨b, hb⟩ := List.head?_eq_some_iff.1 hfirst
    exact (hsides (a := []) hb).1 List.mem_cons_self
  · obtain ⟨a, ha⟩ := List.getLast?_eq_some_iff.1 hlast
    exact (hsides ha).2 List.mem_cons_self
  · obtain ⟨a, b, hab⟩ := hsingle
    refine (hsides (a := a) (b := '_' :: b) ?_).2 ?_
    · rw [← hab, List.append_assoc]
      rfl
    · rw [splitOn, if_pos rfl]
      exact List.mem_cons_self

/-- Words with underscores between them are found again. -/
theorem wordsBy_joinWith {ws : List (List Char)} (h : ∀ w ∈ ws, w ≠ [] ∧ '_' ∉ w) :
    wordsBy isUnderscore uncut (joinWith '_' ws) = ws := by
  rw [← filter_splitOn]
  cases ws with
  | nil => rfl
  | cons w ws =>
    rw [splitOn_joinWith '_' (List.cons_ne_nil w ws) fun v hv => (h v hv).2, List.filter_eq_self]
    intro v hv
    simpa using (h v hv).1

/-! ## Letters -/

/-- What names are made of: letters and digits of ASCII, separators and underscores. -/
def isNameChar (c : Char) : Bool := c.isAlphanum || isGap c

/-- What is written in snake case. -/
def isSnakeChar (c : Char) : Bool := isSmall c || c == '_'

section

variable {w : List Char}

theorem lowerAfter_ascii (h : ∀ c ∈ w, c.toNat < 128) (before : List Char) :
    lowerAfter before w = w.map Char.toLower := by
  induction w generalizing before with
  | nil => rfl
  | cons c w ih =>
    obtain ⟨hc, hw⟩ := List.forall_mem_cons.1 h
    have hsigma : c ≠ 'Σ' := by
      rintro rfl
      revert hc
      decide
    rw [lowerAfter, if_neg hsigma, lowerChar, if_pos hc, ih hw]
    rfl

theorem toLower_ofList (h : ∀ c ∈ w, c.toNat < 128) :
    toLower (String.ofList w) = String.ofList (w.map Char.toLower) := by
  rw [toLower, String.toList_ofList, lowerAfter_ascii h]

/-- Do two letters differ in nothing but their case? -/
structure IsSameLetter (c d : Char) : Prop where
  ascii : c.toNat < 128 ∧ d.toNat < 128
  lower : c.toLower = d.toLower
  upper : c.toUpper = d.toUpper

theorem capitalize_map {f : Char → Char} (h : ∀ c ∈ w, IsSameLetter (f c) c) :
    capitalize (String.ofList (w.map f)) = capitalize (String.ofList w) := by
  cases w with
  | nil => rfl
  | cons c w =>
    obtain ⟨hc, hw⟩ := List.forall_mem_cons.1 h
    have hmapped : ∀ d ∈ w.map f, d.toNat < 128 := by
      intro d hd
      obtain ⟨e, he, rfl⟩ := List.mem_map.1 hd
      exact (hw e he).ascii.1
    unfold capitalize
    rw [List.map_cons, String.toList_ofList, String.toList_ofList]
    dsimp only
    rw [titleChar, titleChar, if_pos hc.ascii.1, if_pos hc.ascii.2, hc.upper,
      lowerAfter_ascii hmapped, lowerAfter_ascii fun d hd => (hw d hd).ascii.2, List.map_map]
    exact congrArg _ (congrArg _ (List.map_congr_left fun d hd => (hw d hd).lower))

end

theorem map_joinWith (f : Char → Char) (sep : Char) (ws : List (List Char)) :
    (joinWith sep ws).map f = joinWith (f sep) (ws.map (List.map f)) := by
  induction ws with
  | nil => rfl
  | cons w ws ih =>
    cases ws with
    | nil => rfl
    | cons v vs =>
      rw [joinWith, List.map_append, List.map_cons, ih]
      rfl

/-- What a letter or a digit comes to in the other case. -/
theorem sameLetter_of_alphanum {c : Char} (h : c.isAlphanum = true) :
    IsSameLetter c.toLower c ∧ IsSameLetter c.toUpper c := by
  have hall : c.toLower.toNat < 128 ∧ c.toUpper.toNat < 128 ∧ c.toLower.toLower = c.toLower ∧
      c.toLower.toUpper = c.toUpper ∧ c.toUpper.toLower = c.toLower ∧
      c.toUpper.toUpper = c.toUpper := by
    refine ascii_forall (P := fun c => c.isAlphanum = true → c.toLower.toNat < 128 ∧
      c.toUpper.toNat < 128 ∧ c.toLower.toLower = c.toLower ∧ c.toLower.toUpper = c.toUpper ∧
      c.toUpper.toLower = c.toLower ∧ c.toUpper.toUpper = c.toUpper) ?_ c (ascii_of_alphanum h) h
    decide +kernel
  obtain ⟨hlower, hupper, hll, hlu, hul, huu⟩ := hall
  exact ⟨⟨⟨hlower, ascii_of_alphanum h⟩, hll, hlu⟩, ⟨⟨hupper, ascii_of_alphanum h⟩, hul, huu⟩⟩

theorem of_wordChar {c : Char} (h : isWordChar c = true) : isUnderscore c.toLower = isUnderscore c ∧
    isSnakeChar c.toLower = true ∧ isForeign c = isUnderscore c := by
  refine ascii_forall (P := fun c => isWordChar c = true →
    isUnderscore c.toLower = isUnderscore c ∧ isSnakeChar c.toLower = true ∧
      isForeign c = isUnderscore c) ?_ c (ascii_of_wordChar h) h
  decide +kernel

theorem of_snakeChar {c : Char} (h : isSnakeChar c = true) : isWordChar c = true ∧
    c.isUpper = false ∧ isSeparator c = false ∧ c.toLower = c := by
  have hword : isWordChar c = true := by
    rcases Bool.or_eq_true_iff.1 h with h | h
    · rw [isWordChar, alphanum_of_small h, Bool.true_or]
    · rw [isWordChar, h, Bool.or_true]
  refine ⟨hword, ascii_forall (P := fun c => isSnakeChar c = true → c.isUpper = false ∧
    isSeparator c = false ∧ c.toLower = c) ?_ c (ascii_of_wordChar hword) h⟩
  decide +kernel

/-! ## Names in snake case -/

theorem splitCapitals_eq_self {l : List Char} (h : ∀ c ∈ l, c.isUpper = false) :
    splitCapitals l = l := by
  fun_induction splitCapitals l with
  | case1 => rfl
  | case2 => rfl
  | case3 c d l hcd _ =>
    have hd := h d (List.mem_cons_of_mem c List.mem_cons_self)
    rw [hd, Bool.and_false] at hcd
    cases hcd
  | case4 c d l _ ih => rw [ih fun e he => h e (List.mem_cons_of_mem c he)]

theorem collapse_eq_self {p : Char → Bool} {l : List Char} (h : ∀ c ∈ l, p c = false)
    (inRun : Bool) : collapse p inRun l = l := by
  induction l generalizing inRun with
  | nil => rfl
  | cons c l ih =>
    obtain ⟨hc, hl⟩ := List.forall_mem_cons.1 h
    rw [collapse, if_neg (by simp [hc]), ih hl]

/-- A name in snake case stays as it is. -/
theorem snakeCase_eq_self {s : String} (h : ∀ c ∈ s.toList, isSnakeChar c = true) :
    snakeCase s = s := by
  have hchars {c : Char} (hc : c ∈ s.toList) := of_snakeChar (h c hc)
  have hascii : ∀ c ∈ s.toList, c.toNat < 128 := fun c hc => ascii_of_wordChar (hchars hc).1
  have hlower : s.toList.map Char.toLower = s.toList :=
    (List.map_congr_left fun c hc => (hchars hc).2.2.2).trans (List.map_id _)
  rw [snakeCase, splitCapitals_eq_self fun c hc => (hchars hc).2.1,
    collapse_eq_self fun c hc => (hchars hc).2.2.1, toLower_ofList hascii, hlower,
    String.ofList_toList]

section

variable {s : String} (hs : ∀ c ∈ s.toList, isNameChar c = true)

include hs

theorem wordChar_separated :
    ∀ c ∈ collapse isSeparator false (splitCapitals s.toList), isWordChar c = true := by
  intro c hc
  rcases of_mem_collapse hc with rfl | ⟨hc, hsep⟩
  · rfl
  · rcases of_mem_splitCapitals hc with rfl | hc
    · rfl
    · have hname := hs c hc
      rw [isNameChar, isGap, hsep, Bool.false_or] at hname
      exact hname

theorem toList_snakeCase : (snakeCase s).toList =
    (collapse isSeparator false (splitCapitals s.toList)).map Char.toLower := by
  rw [snakeCase, toLower_ofList fun c hc => ascii_of_wordChar (wordChar_separated hs c hc),
    String.toList_ofList]

theorem snakeChar_snakeCase : ∀ c ∈ (snakeCase s).toList, isSnakeChar c = true := by
  rw [toList_snakeCase hs]
  intro c hc
  obtain ⟨d, hd, rfl⟩ := List.mem_map.1 hc
  exact (of_wordChar (wordChar_separated hs d hd)).2.1

theorem mem_words {w : List Char} (hw : w ∈ wordsBy isGap startsWord s.toList) :
    w ≠ [] ∧ ∀ c ∈ w, c.isAlphanum = true := by
  refine (mem_wordsBy hw).imp_right fun h c hc => ?_
  obtain ⟨hmem, hgap⟩ := h c hc
  have hname := hs c hmem
  rwa [isNameChar, hgap, Bool.or_false] at hname

/-- The words of a name in snake case are those of the text. -/
theorem wordsBy_snakeCase : wordsBy isUnderscore uncut (snakeCase s).toList =
    (wordsBy isGap startsWord s.toList).map (List.map Char.toLower) := by
  calc wordsBy isUnderscore uncut (snakeCase s).toList
      = (wordsBy isUnderscore uncut (collapse isSeparator false (splitCapitals s.toList))).map
          (List.map Char.toLower) := by
        rw [toList_snakeCase hs]
        exact wordsBy_map (fun c hc => (of_wordChar (wordChar_separated hs c hc)).1)
          fun _ _ _ _ => rfl
    _ = (wordsBy isGap uncut (splitCapitals s.toList)).map (List.map Char.toLower) :=
        congrArg _ (wordsBy_collapse isSeparator false _)
    _ = (wordsBy isGap startsWord s.toList).map (List.map Char.toLower) := by
        rw [wordsBy_splitCapitals]

/-- A name of a macro consists of the words of the text, with single underscores between
    them. -/
theorem toList_macroCase_words : (macroCase s).toList =
    joinWith '_' ((wordsBy isGap startsWord s.toList).map (List.map Char.toUpper)) := by
  have hforeign : ∀ c ∈ (snakeCase s).toList, isForeign c = isUnderscore c := fun c hc =>
    (of_wordChar (of_snakeChar (snakeChar_snakeCase hs c hc)).1).2.2
  calc (macroCase s).toList
      = (trim isUnderscore (collapse isForeign false (snakeCase s).toList)).map Char.toUpper :=
        toList_macroCase s
    _ = (joinWith '_' (wordsBy isUnderscore uncut (snakeCase s).toList)).map Char.toUpper := by
        rw [trim_collapse rfl, wordsBy_congr hforeign]
    _ = joinWith '_' ((wordsBy isGap startsWord s.toList).map (List.map Char.toUpper)) := by
        rw [map_joinWith, wordsBy_snakeCase hs, List.map_map]
        refine congrArg _ (List.map_congr_left fun w hw => ?_)
        rw [Function.comp_apply, List.map_map]
        exact List.map_congr_left fun c hc =>
          (sameLetter_of_alphanum ((mem_words hs hw).2 c hc)).1.upper

theorem nameWords_snakeCase : nameWords (snakeCase s) = (wordsOf s).map toLower := by
  rw [nameWords_eq, wordsBy_snakeCase hs, wordsOf, List.map_map, List.map_map]
  exact List.map_congr_left fun w hw => (toLower_ofList fun c hc =>
    ascii_of_alphanum ((mem_words hs hw).2 c hc)).symm

theorem mem_upperWords {w : List Char}
    (hw : w ∈ (wordsBy isGap startsWord s.toList).map (List.map Char.toUpper)) :
    w ≠ [] ∧ '_' ∉ w := by
  obtain ⟨v, hv, rfl⟩ := List.mem_map.1 hw
  obtain ⟨hne, hletters⟩ := mem_words hs hv
  refine ⟨by simpa using hne, fun hmem => ?_⟩
  obtain ⟨c, hc, hupper⟩ := List.mem_map.1 hmem
  have hletter := hletters c hc
  have hword : isWordChar c = true := by rw [isWordChar, hletter, Bool.true_or]
  obtain ⟨-, -, hdigit, halpha⟩ := upperChar_wordChar hword
  rw [hupper] at hdigit halpha
  rw [Char.isAlphanum, ← hdigit, ← halpha] at hletter
  cases hletter

theorem nameWords_macroCase : nameWords (macroCase s) = (wordsOf s).map toUpper := by
  rw [nameWords_eq, toList_macroCase_words hs, wordsBy_joinWith fun w => mem_upperWords hs, wordsOf,
    List.map_map, List.map_map]
  exact List.map_congr_left fun w hw => (toUpper_ofList fun c hc =>
    ascii_of_alphanum ((mem_words hs hw).2 c hc)).symm

/-- The case that a word is written in does not matter to its other cases. -/
theorem recased {w : String} (hw : w ∈ wordsOf s) : toLower (toUpper w) = toLower w ∧
    capitalize (toLower w) = capitalize w ∧ capitalize (toUpper w) = capitalize w := by
  obtain ⟨v, hv, rfl⟩ := List.mem_map.1 hw
  have hletters := (mem_words hs hv).2
  have hascii : ∀ c ∈ v, c.toNat < 128 := fun c hc => ascii_of_alphanum (hletters c hc)
  have hupper : ∀ c ∈ v.map Char.toUpper, c.toNat < 128 := by
    intro c hc
    obtain ⟨d, hd, rfl⟩ := List.mem_map.1 hc
    exact (sameLetter_of_alphanum (hletters d hd)).2.ascii.1
  rw [toUpper_ofList hascii, toLower_ofList hupper, toLower_ofList hascii, List.map_map]
  refine ⟨congrArg _ (List.map_congr_left fun c hc => ?_), ?_, ?_⟩
  · exact (sameLetter_of_alphanum (hletters c hc)).2.lower
  · exact capitalize_map fun c hc => (sameLetter_of_alphanum (hletters c hc)).1
  · exact capitalize_map fun c hc => (sameLetter_of_alphanum (hletters c hc)).2

omit hs in
theorem map_recased {f g : String → String} (h : ∀ w ∈ wordsOf s, f (g w) = f w) :
    ((wordsOf s).map g).map f = (wordsOf s).map f := by
  rw [List.map_map]
  refine List.map_congr_left fun w hw => ?_
  rw [Function.comp_apply, h w hw]

end

/-- **Names in all styles are made of the same words.**  For a text of letters and digits
    of ASCII, separators and underscores, a name in snake case has its words in lower case,
    the name of a macro has them in upper case with single underscores between them, and
    a name in Pascal case consists of them capitalized.  Writing a text in snake case
    changes none of its names. -/
theorem words_agree {s : String} (hs : ∀ c ∈ s.toList, isNameChar c = true) :
    nameWords (snakeCase s) = (wordsOf s).map toLower ∧
    nameWords (macroCase s) = (wordsOf s).map toUpper ∧
    (nameWords (macroCase s)).map toLower = nameWords (snakeCase s) ∧
    pascalCase s = String.join ((wordsOf s).map capitalize) ∧
    pascalCase s = String.join ((nameWords (snakeCase s)).map capitalize) ∧
    pascalCase s = String.join ((nameWords (macroCase s)).map capitalize) ∧
    IsTight (macroCase s).toList ∧
    snakeCase (snakeCase s) = snakeCase s ∧
    pascalCase (snakeCase s) = pascalCase s ∧
    macroCase (snakeCase s) = macroCase s := by
  have hsnakeWords := nameWords_snakeCase hs
  have hmacroWords := nameWords_macroCase hs
  have hpascal : pascalCase s = String.join ((nameWords (snakeCase s)).map capitalize) := rfl
  have hlower : ((wordsOf s).map toLower).map capitalize = (wordsOf s).map capitalize :=
    map_recased fun w hw => (recased hs hw).2.1
  have hupper : ((wordsOf s).map toUpper).map capitalize = (wordsOf s).map capitalize :=
    map_recased fun w hw => (recased hs hw).2.2
  have hagain : snakeCase (snakeCase s) = snakeCase s := snakeCase_eq_self (snakeChar_snakeCase hs)
  refine ⟨hsnakeWords, hmacroWords, ?_, ?_, hpascal, ?_, ?_, hagain, ?_, ?_⟩
  · rw [hmacroWords, hsnakeWords]
    exact map_recased fun w hw => (recased hs hw).1
  · rw [hpascal, hsnakeWords, hlower]
  · rw [hpascal, hsnakeWords, hlower, hmacroWords, hupper]
  · rw [toList_macroCase_words hs]
    exact isTight_joinWith fun w => mem_upperWords hs
  · rw [pascalCase, hagain, pascalCase]
  · rw [macroCase, hagain, macroCase]

/-- A text with an underscore beside a separator, and a capital behind a digit. -/
theorem words_agree_header :
    let s := "_myHeader- _v2File.h"
    wordsOf s = ["my", "Header", "v2", "File", "h"] ∧
      nameWords (snakeCase s) = ["my", "header", "v2", "file", "h"] ∧
      nameWords (macroCase s) = ["MY", "HEADER", "V2", "FILE", "H"] ∧
      pascalCase s = "MyHeaderV2FileH" ∧ snakeCase (snakeCase s) = snakeCase s := by
  intro s
  have hwords : wordsOf s = ["my", "Header", "v2", "File", "h"] := by decide +kernel
  have hname : ∀ c ∈ s.toList, isNameChar c = true := List.all_eq_true.1 (by decide +kernel)
  obtain ⟨hsnakeWords, hmacroWords, -, hpascal, -, -, -, hagain, -⟩ := words_agree hname
  rw [hwords] at hsnakeWords hmacroWords hpascal
  refine ⟨hwords, hsnakeWords.trans ?_, hmacroWords.trans ?_, hpascal.trans ?_, hagain⟩
  · decide +kernel
  · decide +kernel
  · decide +kernel

end CxxWriter.Naming
