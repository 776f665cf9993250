/-
  Trimming, lines, and what stands in front of them.

  * `trimEnd_append`: trimming stops within the second of two lists, unless
    nothing of it is left;
  * `lines_cons`, `unlines_append`: cutting and joining at a line feed;
  * `ended ls` are lines with a line feed after each one, `endWith e ls` lines
    with a text at the end of the last one;
  * `marginLines lead t` puts `lead` in front of every line of `t` that is not
    empty (`marginLines_ended`).
-/
import CxxWriter.Text.Blank
import Mathlib.Data.List.DropRight

namespace CxxWriter.Text

/-! ## Trimming -/

section
variable {α : Type} {p : α → Bool}

theorem trimEnd_append (l m : List α) :
    trimEnd p (l ++ m) = if trimEnd p m = [] then trimEnd p l else l ++ trimEnd p m := by
  unfold trimEnd
  rw [List.reverse_append, List.dropWhile_append]
  by_cases h : m.reverse.dropWhile p = []
  · simp [h]
  · simp [h]

theorem trimEnd_cons {a : α} (hp : p a = false) (l : List α) :
    trimEnd p (a :: l) = a :: trimEnd p l := by
  rw [← List.singleton_append, trimEnd_append]
  split
  · next h => rw [h]; simp [trimEnd, hp]
  · rfl

theorem trimEnd_eq_nil {l : List α} : trimEnd p l = [] ↔ ∀ a ∈ l, p a = true :=
  List.rdropWhile_eq_nil_iff

/-- Nothing is trimmed behind a last element that stays. -/
theorem trimEnd_eq_self {l : List α} (h : ∀ a, l.getLast? = some a → p a = false) :
    trimEnd p l = l := by
  refine List.rdropWhile_eq_self_iff.2 fun hl => ?_
  simp [h _ (List.getLast?_eq_some_getLast hl)]

theorem getLast?_trimEnd {l : List α} {a : α} (h : (trimEnd p l).getLast? = some a) :
    p a = false := by
  have hne : trimEnd p l ≠ [] := by
    intro he
    rw [he] at h
    cases h
  have hlast := List.rdropWhile_last_not p l hne
  rw [List.getLast?_eq_some_getLast hne] at h
  cases h
  exact eq_false_of_ne_true hlast

theorem trimEnd_trimEnd (l : List α) : trimEnd p (trimEnd p l) = trimEnd p l :=
  trimEnd_eq_self fun _ => getLast?_trimEnd

/-- An element that stays is still there. -/
theorem mem_trimEnd {l : List α} {a : α} (ha : a ∈ l) (hp : p a = false) : a ∈ trimEnd p l := by
  obtain ⟨b, c, rfl⟩ := List.append_of_mem ha
  rw [trimEnd_append, trimEnd_cons hp]
  simp

theorem mem_of_mem_trimEnd {l : List α} {a : α} (h : a ∈ trimEnd p l) : a ∈ l :=
  (List.rdropWhile_prefix p l).subset h

theorem mem_trim {l : List α} {a : α} (ha : a ∈ l) (hp : p a = false) :
    a ∈ trim p l := by
  refine mem_trimEnd ?_ hp
  rw [← List.takeWhile_append_dropWhile (p := p) (l := l)] at ha
  rcases List.mem_append.1 ha with ha | ha
  · have := List.mem_takeWhile_imp ha
    rw [hp] at this
    cases this
  · exact ha

theorem exists_trimEnd (p : α → Bool) (l : List α) :
    ∃ e, (∀ a ∈ e, p a = true) ∧ l = trimEnd p l ++ e := by
  refine ⟨(l.reverse.takeWhile p).reverse, fun a ha => ?_, ?_⟩
  · exact List.mem_takeWhile_imp (List.mem_reverse.1 ha)
  · rw [trimEnd, ← List.reverse_append, List.takeWhile_append_dropWhile, List.reverse_reverse]

theorem trimStart_ne_nil {l : List α} (h : ∃ a ∈ l, p a = false) : trimStart p l ≠ [] := by
  obtain ⟨a, ha, hp⟩ := h
  intro he
  rw [List.dropWhile_eq_nil_iff.1 he a ha] at hp
  cases hp

/-- Nothing is trimmed behind an element that stays. -/
theorem trimStart_append {l : List α} (h : ∃ a ∈ l, p a = false) (m : List α) :
    trimStart p (l ++ m) = trimStart p l ++ m := by
  have hne : l.dropWhile p ≠ [] := trimStart_ne_nil h
  rw [trimStart, List.dropWhile_append, if_neg (by rwa [List.isEmpty_iff])]
  rfl

/-- If anything stays in front, it starts with what is not trimmed. -/
theorem head?_trimStart {l : List α} {a : α} (h : (trimStart p l).head? = some a) : p a = false := by
  have hd := List.head?_dropWhile_not p l
  rw [← trimStart, h] at hd
  simpa using hd

theorem head?_trimStart_trim (p : α → Bool) (l : List α) :
    (trimStart p (trim p l)).head? = (trimStart p l).head? := by
  rw [trim]
  cases hs : trimStart p l with
  | nil => rfl
  | cons a r =>
    have ha : p a = false := head?_trimStart (l := l) (by rw [hs]; rfl)
    rw [trimEnd_cons ha, trimStart, List.dropWhile_cons_of_neg (by simp [ha])]
    rfl

/-- What stays in front of a list is in it, or is the first element behind it. -/
theorem head?_trimStart_append {l r : List α} {a c : α} (ha : p a = false)
    (h : (trimStart p (l ++ a :: r)).head? = some c) : c ∈ l ∨ c = a := by
  rw [trimStart, List.dropWhile_append, List.dropWhile_cons_of_neg (by simp [ha])] at h
  split at h
  · exact .inr (Option.some.inj h).symm
  · next hne =>
    rw [List.head?_append_of_ne_nil _ fun he => hne (by rw [he]; rfl)] at h
    exact .inl ((List.dropWhile_suffix p).subset (List.mem_of_head? h))

end

/-! ## Lines -/

/-- The pieces before a separator and those behind it. -/
theorem splitOn_append_sep {α : Type} [DecidableEq α] (sep : α) (l t : List α) :
    splitOn sep (l ++ sep :: t) = splitOn sep l ++ splitOn sep t := by
  induction l with
  | nil => simp [splitOn]
  | cons c l ih =>
    rw [List.cons_append, splitOn, splitOn]
    split
    · rw [List.cons_append, ih]
    · obtain ⟨k, ks, hk⟩ := List.exists_cons_of_ne_nil (splitOn_ne_nil sep l)
      rw [ih, hk]
      rfl

theorem lines_cons {l : List Char} (h : '\n' ∉ l) (t : List Char) :
    lines (l ++ '\n' :: t) = l :: lines t := splitOn_append _ h t

/-- A text is its first line, or goes on after a line feed. -/
theorem first_line (t : List Char) :
    (t.dropWhile (· != '\n') = [] ∧ lines t = [t.takeWhile (· != '\n')]) ∨
    ∃ r, t.dropWhile (· != '\n') = '\n' :: r ∧ lines t = t.takeWhile (· != '\n') :: lines r := by
  have hn : '\n' ∉ t.takeWhile (· != '\n') := fun h => by simpa using List.mem_takeWhile_imp h
  have ht := List.takeWhile_append_dropWhile (p := (· != '\n')) (l := t)
  cases hd : t.dropWhile (· != '\n') with
  | nil =>
    rw [hd, List.append_nil] at ht
    refine .inl ⟨rfl, ?_⟩
    rw [ht] at hn ⊢
    exact splitOn_of_not_mem _ hn
  | cons c r =>
    have hc : c = '\n' := by
      have := List.head?_dropWhile_not (p := (· != '\n')) (l := t)
      simpa [hd] using this
    subst hc
    refine .inr ⟨r, rfl, ?_⟩
    rw [hd] at ht
    conv_lhs => rw [← ht]
    exact lines_cons hn r

/-- A text without line feeds joins the first line of what it is in front of. -/
theorem lines_append_of_not_mem {m : List Char} (h : '\n' ∉ m) {t l : List Char}
    {ls : List (List Char)} (ht : lines t = l :: ls) : lines (m ++ t) = (m ++ l) :: ls := by
  induction m with
  | nil => exact ht
  | cons c m ih =>
    obtain ⟨hc, hm⟩ := List.ne_and_not_mem_of_not_mem_cons h
    have ih : splitOn '\n' (m ++ t) = (m ++ l) :: ls := ih hm
    rw [lines, List.cons_append, splitOn, if_neg (Ne.symm hc), ih]
    rfl

theorem not_mem_of_mem_lines {t l : List Char} (h : l ∈ lines t) : '\n' ∉ l := by
  induction t generalizing l with
  | nil => simp_all [splitOn]
  | cons c t ih =>
    simp only [splitOn] at h
    by_cases hc : c = '\n'
    · rw [if_pos hc] at h
      rcases List.mem_cons.1 h with rfl | h
      · simp
      · exact ih h
    · rw [if_neg hc] at h
      cases hs : splitOn '\n' t with
      | nil => exact absurd hs (splitOn_ne_nil _ t)
      | cons m ms =>
        rw [hs] at h
        rcases List.mem_cons.1 h with rfl | h
        · have hm : '\n' ∉ m := ih (by simp [lines, hs])
          simp [hm, Ne.symm hc]
        · exact ih (by simp [lines, hs, h])

/-- The characters of the lines are those of the text. -/
theorem mem_of_mem_line {t l : List Char} {c : Char} (hl : l ∈ lines t) (hc : c ∈ l) : c ∈ t := by
  induction t generalizing l with
  | nil => simp_all [splitOn]
  | cons a t ih =>
    simp only [splitOn] at hl
    by_cases ha : a = '\n'
    · rw [if_pos ha] at hl
      rcases List.mem_cons.1 hl with rfl | hl
      · simp at hc
      · exact List.mem_cons_of_mem _ (ih hl hc)
    · rw [if_neg ha] at hl
      cases hs : splitOn '\n' t with
      | nil => exact absurd hs (splitOn_ne_nil _ t)
      | cons m ms =>
        rw [hs] at hl
        rcases List.mem_cons.1 hl with rfl | hl
        · rcases List.mem_cons.1 hc with rfl | hc
          · simp
          · exact List.mem_cons_of_mem _ (ih (by simp [lines, hs]) hc)
        · exact List.mem_cons_of_mem _ (ih (by simp [lines, hs, hl]) hc)

@[simp] theorem unlines_singleton (l : List Char) : unlines [l] = l := rfl

@[simp] theorem unlines_cons_cons (l m : List Char) (ls : List (List Char)) :
    unlines (l :: m :: ls) = l ++ '\n' :: unlines (m :: ls) := rfl

theorem mem_unlines {ls : List (List Char)} {c : Char} (h : c ∈ unlines ls) :
    c = '\n' ∨ ∃ l ∈ ls, c ∈ l := by
  induction ls with
  | nil => simp [joinWith] at h
  | cons l ls ih =>
    cases ls with
    | nil => exact .inr ⟨l, by simp, h⟩
    | cons m ms =>
      simp only [unlines_cons_cons, List.mem_append, List.mem_cons] at h
      rcases h with h | rfl | h
      · exact .inr ⟨l, by simp, h⟩
      · exact .inl rfl
      · rcases ih h with h | ⟨k, hk, h⟩
        · exact .inl h
        · exact .inr ⟨k, List.mem_cons_of_mem _ hk, h⟩

/-- Lines with a line feed after each one. -/
def ended (ls : List (List Char)) : List Char := ls.flatMap (· ++ ['\n'])

@[simp] theorem ended_nil : ended [] = [] := rfl

@[simp] theorem ended_cons (l : List Char) (ls : List (List Char)) :
    ended (l :: ls) = l ++ '\n' :: ended ls := by
  simp [ended]

@[simp] theorem ended_append (ls ms : List (List Char)) : ended (ls ++ ms) = ended ls ++ ended ms :=
  List.flatMap_append

theorem unlines_append {ms : List (List Char)} (ls : List (List Char)) (hm : ms ≠ []) :
    unlines (ls ++ ms) = ended ls ++ unlines ms := by
  induction ls with
  | nil => rfl
  | cons l ls ih =>
    obtain ⟨k, ks, hk⟩ := List.exists_cons_of_ne_nil (List.append_ne_nil_of_right_ne_nil ls hm)
    rw [hk] at ih
    rw [List.cons_append, hk, unlines_cons_cons, ih, ended_cons]
    simp

theorem unlines_concat (ls : List (List Char)) (l : List Char) :
    unlines (ls ++ [l]) = ended ls ++ l :=
  unlines_append ls (by simp)

theorem unlines_ended {ls : List (List Char)} (h : ls ≠ []) : unlines ls ++ ['\n'] = ended ls := by
  obtain ⟨ms, l, rfl⟩ := (List.eq_nil_or_concat ls).resolve_left h
  simp [unlines_concat]

theorem lines_ended {ls : List (List Char)} (h : ∀ l ∈ ls, '\n' ∉ l) :
    lines (ended ls) = ls ++ [[]] := by
  induction ls with
  | nil => rfl
  | cons l ls ih =>
    rw [ended_cons, lines_cons (h l (by simp)), ih fun m hm => h m (List.mem_cons_of_mem l hm)]
    rfl

/-! ## The end of the last line -/

/-- Lines with a text at the end of the last one. -/
def endWith (e : List Char) : List (List Char) → List (List Char)
  | [] => []
  | [l] => [l ++ e]
  | l :: m :: ls => l :: endWith e (m :: ls)

theorem endWith_concat (e : List Char) (ls : List (List Char)) (l : List Char) :
    endWith e (ls ++ [l]) = ls ++ [l ++ e] := by
  induction ls with
  | nil => rfl
  | cons m ls ih =>
    cases ls with
    | nil => rfl
    | cons k ls => simpa [endWith] using ih

theorem endWith_append (e : List Char) (ls : List (List Char)) {ms : List (List Char)} (h : ms ≠ []) :
    endWith e (ls ++ ms) = ls ++ endWith e ms := by
  obtain ⟨ks, l, rfl⟩ := (List.eq_nil_or_concat ms).resolve_left h
  rw [List.concat_eq_append, ← List.append_assoc, endWith_concat, endWith_concat, List.append_assoc]

@[simp] theorem endWith_nil (ls : List (List Char)) : endWith [] ls = ls := by
  rcases List.eq_nil_or_concat ls with rfl | ⟨ms, m, rfl⟩
  · rfl
  · rw [List.concat_eq_append, endWith_concat, List.append_nil]

theorem ended_endWith (e : List Char) {ls : List (List Char)} (h : ls ≠ []) :
    ended (endWith e ls) = unlines ls ++ (e ++ ['\n']) := by
  obtain ⟨ms, l, rfl⟩ := (List.eq_nil_or_concat ls).resolve_left h
  simp [endWith_concat, unlines_concat]

theorem mem_endWith {e l : List Char} {ls : List (List Char)} (h : l ∈ endWith e ls) :
    l ∈ ls ∨ ∃ m ∈ ls, l = m ++ e := by
  rcases List.eq_nil_or_concat ls with rfl | ⟨ms, m, rfl⟩
  · cases h
  · rw [List.concat_eq_append, endWith_concat] at h
    rcases List.mem_append.1 h with h | h
    · exact .inl (by simp [h])
    · exact .inr ⟨m, by simp, List.mem_singleton.1 h⟩

/-! ## Margins -/

/-- A line that is not empty with `lead` in front of it. -/
def marginLine (lead l : List Char) : List Char := if l = [] then [] else lead ++ l

/-- A text with `lead` in front of every line that is not empty. -/
def marginLines (lead t : List Char) : List Char := unlines ((lines t).map (marginLine lead))

@[simp] theorem marginLine_nil (lead : List Char) : marginLine lead [] = [] := rfl

theorem marginLine_of_ne {l : List Char} (lead : List Char) (h : l ≠ []) :
    marginLine lead l = lead ++ l := if_neg h

/-- What follows on a line that is not empty does not move the margin. -/
theorem marginLine_append {l : List Char} (lead m : List Char) (h : l ≠ []) :
    marginLine lead (l ++ m) = marginLine lead l ++ m := by
  rw [marginLine_of_ne lead h, marginLine_of_ne lead (by simp [h]), List.append_assoc]

/-- Nor does it move it on the last line. -/
theorem endWith_margin (lead e : List Char) {ls : List (List Char)}
    (h : ∀ l, ls.getLast? = some l → l ≠ []) :
    endWith e (ls.map (marginLine lead)) = (endWith e ls).map (marginLine lead) := by
  rcases List.eq_nil_or_concat ls with rfl | ⟨ms, m, rfl⟩
  · rfl
  · have hm : m ≠ [] := h m (by simp)
    simp [endWith_concat, marginLine_append lead e hm]

theorem marginLines_ended {ls : List (List Char)} (lead : List Char) (h : ∀ l ∈ ls, '\n' ∉ l) :
    marginLines lead (ended ls) = ended (ls.map (marginLine lead)) := by
  rw [marginLines, lines_ended h, List.map_append, List.map_singleton, marginLine_nil,
    unlines_concat, List.append_nil]

end CxxWriter.Text
