/-
  The delimiters of a text, and how deep its lines are indented.

  * a `Scope` is what may be open in a text: brackets, or a guard from `#ifndef` to
    `#endif`;
  * `afterText`, `afterLine` and `afterLines` are the scopes that are open behind
    characters and lines.  There are none if something else is closed than what
    was opened last;
  * `Runs st ls st'`: lines lead from the scopes `st` to the scopes `st'`, and are
    all indented by a tab for each delimiter that is open;
  * `Leads.runs`: so does a fragment on a single line.
-/
import CxxWriter.Proofs.Margin
import CxxWriter.Proofs.Layout

namespace CxxWriter

open Block Text
open Buffer (blockLines)

/-- What is open in a text. -/
inductive Scope where
  | bracketed (b : Brackets)
  /-- What depends on a macro. -/
  | guarded
deriving DecidableEq, Repr

namespace Scope

/-! ## Scopes -/

/-- How many delimiters are open. -/
def levels (st : List Scope) : Nat := st.countP (· != .guarded)

@[simp] theorem levels_bracketed (b : Brackets) (st : List Scope) :
    levels (.bracketed b :: st) = levels st + 1 :=
  List.countP_cons_of_pos rfl

@[simp] theorem levels_guarded (st : List Scope) : levels (.guarded :: st) = levels st :=
  List.countP_cons_of_neg (by decide)

/-- What is open once a scope is closed, which has to be the innermost one. -/
def leave? (s : Scope) : List Scope → Option (List Scope)
  | [] => none
  | t :: st => if t = s then some st else none

@[simp] theorem leave?_self (s : Scope) (st : List Scope) : leave? s (s :: st) = some st := if_pos rfl

/-- What is open behind a character. -/
def afterChar (st : List Scope) (c : Char) : Option (List Scope) :=
  if c = '[' then some (.bracketed .array :: st)
  else if c = '\x7b' then some (.bracketed .struct :: st)
  else if c = ']' then leave? (.bracketed .array) st
  else if c = '\x7d' then leave? (.bracketed .struct) st
  else some st

/-- What is open behind a text. -/
def afterText (st : List Scope) (t : List Char) : Option (List Scope) := t.foldlM afterChar st

/-- What is open behind the directive that a text may start with. -/
def afterDirective (st : List Scope) (t : List Char) : Option (List Scope) :=
  if "#ifndef".toList <+: t then some (.guarded :: st)
  else if "#endif".toList <+: t then leave? .guarded st
  else some st

/-- A line without the tabs at its start. -/
def untabbed (l : List Char) : List Char := l.dropWhile (· == '\t')

/-- What is open behind a line. -/
def afterLine (st : List Scope) (l : List Char) : Option (List Scope) :=
  (afterDirective st (untabbed l)).bind (afterText · l)

/-- What is open behind lines. -/
def afterLines (st : List Scope) (ls : List (List Char)) : Option (List Scope) := ls.foldlM afterLine st

/-- Is a character a delimiter? -/
def isDelimiter (c : Char) : Bool := c == '[' || c == '\x7b' || c == ']' || c == '\x7d'

/-- Does a text close what it opens, and nothing else? -/
def isNested (t : List Char) : Bool := afterText [] t == some []

section
variable {st st' more : List Scope} {t l m e : List Char}

theorem afterText_append (st : List Scope) (t u : List Char) :
    afterText st (t ++ u) = (afterText st t).bind (afterText · u) :=
  List.foldlM_append

theorem afterText_cons (st : List Scope) (c : Char) (t : List Char) :
    afterText st (c :: t) = (afterChar st c).bind (afterText · t) :=
  List.foldlM_cons

theorem afterChar_plain (st : List Scope) {c : Char} (h : isDelimiter c = false) :
    afterChar st c = some st := by
  simp only [isDelimiter, Bool.or_eq_false_iff, beq_eq_false_iff_ne] at h
  obtain ⟨⟨⟨h₁, h₂⟩, h₃⟩, h₄⟩ := h
  rw [afterChar, if_neg h₁, if_neg h₂, if_neg h₃, if_neg h₄]

/-- A text without delimiters opens and closes nothing. -/
theorem afterText_plain (st : List Scope) (h : ∀ c ∈ t, isDelimiter c = false) :
    afterText st t = some st := by
  induction t with
  | nil => rfl
  | cons c t ih =>
    rw [afterText_cons, afterChar_plain st (h c List.mem_cons_self)]
    exact ih fun a ha => h a (List.mem_cons_of_mem c ha)

theorem isDelimiter_of_isSpace {c : Char} (h : isSpace c = true) : isDelimiter c = false := by
  cases hd : isDelimiter c with
  | false => rfl
  | true =>
    simp only [isDelimiter, Bool.or_eq_true, beq_iff_eq] at hd
    rcases hd with ((rfl | rfl) | rfl) | rfl <;> cases h

theorem afterText_space (st : List Scope) (h : ∀ c ∈ t, isSpace c = true) :
    afterText st t = some st :=
  afterText_plain st fun c hc => isDelimiter_of_isSpace (h c hc)

theorem leave?_append {s : Scope} (h : leave? s st = some st') :
    leave? s (st ++ more) = some (st' ++ more) := by
  cases st with
  | nil => cases h
  | cons t st =>
    rw [leave?] at h
    split at h
    · next ht =>
      cases h
      rw [List.cons_append, leave?, if_pos ht]
    · cases h

theorem afterChar_append {c : Char} (h : afterChar st c = some st') :
    afterChar (st ++ more) c = some (st' ++ more) := by
  unfold afterChar at h ⊢
  split_ifs at h ⊢
  · cases h
    rfl
  · cases h
    rfl
  · exact leave?_append h
  · exact leave?_append h
  · cases h
    rfl

/-- Scopes further out do not matter. -/
theorem afterText_more (more : List Scope) (h : afterText st t = some st') :
    afterText (st ++ more) t = some (st' ++ more) := by
  induction t generalizing st with
  | nil =>
    cases h
    rfl
  | cons c t ih =>
    rw [afterText_cons] at h ⊢
    obtain ⟨m, hm, ht⟩ := Option.bind_eq_some_iff.1 h
    rw [afterChar_append hm]
    exact ih ht

theorem afterText_nested (st : List Scope) (h : isNested t = true) : afterText st t = some st :=
  afterText_more st (beq_iff_eq.1 h)

/-- A nested text does not start with a closing delimiter. -/
theorem isNested_cons {c : Char} (h : isNested (c :: t) = true) : c ≠ ']' ∧ c ≠ '\x7d' := by
  refine ⟨?_, ?_⟩ <;>
  · rintro rfl
    rw [isNested, afterText_cons] at h
    cases h

theorem isNested_trimStart (h : isNested t = true) : isNested (trimStart isBlank t) = true := by
  have hblank : afterText [] (t.takeWhile isBlank) = some [] :=
    afterText_space [] fun c hc => isSpace_of_isBlank (List.mem_takeWhile_imp hc)
  rw [isNested, ← List.takeWhile_append_dropWhile (p := isBlank) (l := t), afterText_append, hblank] at h
  exact h

/-! ## Lines -/

/-- How many tabs a line starts with. -/
def tabs (l : List Char) : Nat := (l.takeWhile (· == '\t')).length

/-- How many delimiters are closed by the first character of a text. -/
def closings (t : List Char) : Nat := if t.head?.any (fun c => c == ']' || c == '\x7d') then 1 else 0

/-- Is a line that starts in these scopes empty, or indented by a tab for each
    delimiter that is open and not closed by the start of the line? -/
def IsIndented (st : List Scope) (l : List Char) : Prop :=
  l = [] ∨ tabs l + closings (untabbed l) = levels st

/-- Do lines lead from scopes to others, each one indented as it is nested? -/
inductive Runs : List Scope → List (List Char) → List Scope → Prop
  | nil (st : List Scope) : Runs st [] st
  | cons {st st' st'' : List Scope} {l : List Char} {ls : List (List Char)} : '\n' ∉ l →
      IsIndented st l → afterLine st l = some st' → Runs st' ls st'' → Runs st (l :: ls) st''

namespace Runs

variable {st' st'' : List Scope} {ls ms : List (List Char)}

theorem single (hn : '\n' ∉ l) (hi : IsIndented st l) (h : afterLine st l = some st') :
    Runs st [l] st' :=
  .cons hn hi h (.nil st')

theorem append (h : Runs st ls st') (h' : Runs st' ms st'') : Runs st (ls ++ ms) st'' := by
  induction h with
  | nil => exact h'
  | cons hn hi hl _ ih => exact .cons hn hi hl (ih h')

/-- Lines that each lead back to where they start. -/
theorem of_forall (h : ∀ l ∈ ls, Runs st [l] st) : Runs st ls st := by
  induction ls with
  | nil => exact .nil st
  | cons l ls ih =>
    exact (h l List.mem_cons_self).append (ih fun m hm => h m (List.mem_cons_of_mem l hm))

theorem newline (h : Runs st ls st') : ∀ l ∈ ls, '\n' ∉ l := by
  induction h with
  | nil => exact fun _ h => absurd h List.not_mem_nil
  | cons hn _ _ _ ih => exact List.forall_mem_cons.2 ⟨hn, ih⟩

theorem afterLines (h : Runs st ls st') : afterLines st ls = some st' := by
  induction h with
  | nil => rfl
  | cons _ _ hl _ ih =>
    rw [Scope.afterLines, List.foldlM_cons, hl]
    exact ih

/-- Every line is indented as deep as it is nested. -/
theorem indented (h : Runs st ls st') {pre post : List (List Char)} (hl : ls = pre ++ l :: post) :
    ∃ m, Scope.afterLines st pre = some m ∧ IsIndented m l := by
  induction h generalizing pre with
  | nil => simp at hl
  | @cons st₁ st₂ st₃ k ks _ hi hk _ ih =>
    cases pre with
    | nil =>
      cases hl
      exact ⟨_, rfl, hi⟩
    | cons p pre =>
      obtain ⟨rfl, hks⟩ := List.cons.inj hl
      obtain ⟨m, hm, hind⟩ := ih hks
      refine ⟨m, ?_, hind⟩
      rw [Scope.afterLines, List.foldlM_cons, hk]
      exact hm

end Runs

/-- A line without anything on it. -/
theorem runs_gap (st : List Scope) : Runs st [[]] st := .single List.not_mem_nil (.inl rfl) rfl

/-! ## The start of a line -/

/-- May a text stand behind a line, without making a directive of it? -/
def IsTail (e : List Char) : Prop := ∀ c, e.head? = some c → c ∉ "#ifndef".toList ∧ c ∉ "#endif".toList

theorem isTail_nil : IsTail [] := fun _ h => nomatch h

theorem isTail_cons {c : Char} (h : c ∉ "#ifndef".toList ∧ c ∉ "#endif".toList) (e : List Char) :
    IsTail (c :: e) := by
  rintro _ ⟨⟩
  exact h

theorem isTail_space (h : ∀ c ∈ e, isSpace c = true) : IsTail e := by
  intro c hc
  have hs := h c (List.mem_of_mem_head? hc)
  have hno {w : List Char} (hw : w.all (!isSpace ·) = true) : c ∉ w := fun hm => by
    have hc := List.all_eq_true.1 hw c hm
    rw [hs] at hc
    cases hc
  exact ⟨hno rfl, hno rfl⟩

theorem prefix_append_iff {w r : List Char} (h : ∀ c, r.head? = some c → c ∉ w) :
    w <+: m ++ r ↔ w <+: m := by
  refine ⟨fun hw => ?_, fun hw => hw.trans (List.prefix_append m r)⟩
  rcases List.prefix_or_prefix_of_prefix hw (List.prefix_append m r) with hm | ⟨k, rfl⟩
  · exact hm
  · cases k with
    | nil => exact ⟨[], by simp⟩
    | cons c k =>
      obtain ⟨r', rfl⟩ := (List.prefix_append_right_inj m).1 hw
      exact absurd (List.mem_append_right m List.mem_cons_self) (h c rfl)

theorem afterDirective_append (st : List Scope) (he : IsTail e) :
    afterDirective st (m ++ e) = afterDirective st m := by
  simp only [afterDirective, prefix_append_iff fun c hc => (he c hc).1,
    prefix_append_iff fun c hc => (he c hc).2]

theorem closings_append (hm : m ≠ []) (e : List Char) : closings (m ++ e) = closings m := by
  rw [closings, List.head?_append_of_ne_nil _ hm, closings]

/-- What is not to be dropped remains, with all that follows. -/
theorem dropWhile_around {p : Char → Bool} {pre : List Char} (hpre : ∀ c ∈ pre, p c = true)
    (hm : ∃ c, m.head? = some c ∧ p c = false) (e : List Char) :
    (pre ++ (m ++ e)).dropWhile p = m ++ e := by
  obtain ⟨c, hc, hp⟩ := hm
  cases m with
  | nil => cases hc
  | cons a m =>
    cases hc
    rw [List.dropWhile_append_of_pos hpre, List.cons_append, List.dropWhile_cons_of_neg (by simp [hp])]

/-- A line that starts in scopes, behind a tab for each of the delimiters. -/
theorem runs_line {st st' : List Scope} {depth : Nat} (hm : ∃ c, m.head? = some c ∧ c ≠ '\t')
    (hn : '\n' ∉ m) (hd : depth + closings m = levels st)
    (h : (afterDirective st m).bind (afterText · m) = some st') :
    Runs st [copies depth ['\t'] ++ m] st' := by
  have hstart : m.head? ≠ some '\t' := by
    obtain ⟨c, hc, ht⟩ := hm
    rw [hc]
    exact fun h => ht (Option.some.inj h)
  obtain ⟨hfront, hbody⟩ := span_tabs depth hstart
  have htabs : tabs (copies depth ['\t'] ++ m) = depth := by
    rw [tabs, hfront, copies_singleton, List.length_replicate]
  refine .single ?_ (.inr ?_) ?_
  · rw [List.mem_append, not_or]
    exact ⟨fun hc => by simpa using copies_tab depth _ hc, hn⟩
  · rw [untabbed, hbody, htabs, hd]
  · rw [afterLine, untabbed, hbody, ← h]
    congr 1
    funext u
    rw [afterText_append, afterText_space u (copies_space depth), Option.bind_some]

/-! ## Fragments on a line -/

/-- A single line loses the blanks at its ends. -/
theorem unindent_single {t : List Char} (hn : '\n' ∉ t) (hink : ∃ c ∈ t, isBlank c = false) :
    unindent t = trim isBlank t ∧ ∃ c, (trim isBlank t).head? = some c ∧ isBlank c = false := by
  have hsplit := List.takeWhile_append_dropWhile (p := isBlank) (l := t)
  obtain ⟨e, he, ht⟩ := exists_trimEnd isBlank (trimStart isBlank t)
  rw [← trim] at ht
  rw [← trimStart, ht] at hsplit
  obtain ⟨c, hc, hb⟩ := hink
  have hmem : c ∈ trim isBlank t := mem_trim hc hb
  obtain ⟨a, r, har⟩ := List.exists_cons_of_ne_nil (List.ne_nil_of_mem hmem)
  have ha : isBlank a = false := head?_trimStart (l := t) (by rw [ht, har]; rfl)
  have hhead : (trim isBlank t).head? = some a := by rw [har]; rfl
  have hline : '\n' ∉ trim isBlank t := fun h =>
    hn ((List.dropWhile_suffix _).subset (mem_of_mem_trimEnd h))
  have hlast : ∀ b, (trim isBlank t).getLast? = some b → isBlank b = false := fun b hb =>
    getLast?_trimEnd hb
  have hblank : isBlankLine (trim isBlank t) = false :=
    List.all_eq_false.2 ⟨c, hmem, by simpa using hb⟩
  have hmargin : ∀ b ∈ t.takeWhile isBlank, isBlank b = true := fun b hb => List.mem_takeWhile_imp hb
  have hvariant : IsVariant [trim isBlank t] t := by
    refine ⟨_, [], [t.takeWhile isBlank ++ trim isBlank t], e, [], fun _ h => absurd h List.not_mem_nil,
      .cons ⟨?_, .inr ⟨hblank, _, rfl, hmargin, rfl⟩⟩ .nil, he, ?_⟩
    · rw [List.mem_append, not_or]
      exact ⟨fun h => hn ((List.takeWhile_prefix _).subset h), hline⟩
    · show t = (t.takeWhile isBlank ++ trim isBlank t) ++ e
      rw [List.append_assoc, hsplit]
  have hblock : IsBlock [trim isBlank t] :=
    ⟨by simpa using hline, ⟨_, rfl, hblank⟩, ⟨_, rfl, hblank⟩⟩
  refine ⟨?_, a, hhead, ha⟩
  rw [unindent_variant hblock hvariant, unlines_singleton, unindent_line hline hhead ha hlast]

/-- A line with ink is written without white space at its ends. -/
theorem exists_inner {t : List Char} (hn : '\n' ∉ t) (hink : ∃ c ∈ t, isSpace c = false) :
    ∃ pre m post, t = pre ++ (m ++ post) ∧ (∀ c ∈ pre, isBlank c = true) ∧
      (∀ c ∈ post, isSpace c = true) ∧ (∃ c, m.head? = some c ∧ isBlank c = false) ∧
      ∀ depth unit, blockLines depth unit t = [copies depth unit ++ m] := by
  obtain ⟨c, hc, hs⟩ := hink
  have hb : isBlank c = false := by
    cases h : isBlank c with
    | false => rfl
    | true => rw [isSpace_of_isBlank h] at hs; cases hs
  obtain ⟨hu, a, ha, hab⟩ := unindent_single hn ⟨c, hc, hb⟩
  obtain ⟨e, he, hx⟩ := exists_trimEnd isBlank (trimStart isBlank t)
  rw [← trim] at hx
  obtain ⟨e', he', hm⟩ := exists_trimEnd isSpace (trim isBlank t)
  have hne : trimEnd isSpace (trim isBlank t) ≠ [] :=
    List.ne_nil_of_mem (mem_trimEnd (mem_trim hc hb) hs)
  refine ⟨t.takeWhile isBlank, trimEnd isSpace (trim isBlank t), e' ++ e, ?_,
    fun b hb => List.mem_takeWhile_imp hb, ?_, ⟨a, ?_, hab⟩, fun depth unit => ?_⟩
  · rw [← List.append_assoc _ e' e, ← hm, ← hx, trimStart, List.takeWhile_append_dropWhile]
  · intro b hb
    rcases List.mem_append.1 hb with hb | hb
    · exact he' b hb
    · exact isSpace_of_isBlank (he b hb)
  · rw [hm, List.head?_append_of_ne_nil _ hne] at ha
    exact ha
  · have hline : '\n' ∉ trim isBlank t := fun h =>
      hn ((List.dropWhile_suffix _).subset (mem_of_mem_trimEnd h))
    have hspaces : convertSpaces unit (trim isBlank t) = trim isBlank t := by
      refine convertSpaces_line unit ?_
      rw [ha]
      rintro ⟨⟩
      cases hab
    rw [blockLines, hu, lines, splitOn_of_not_mem _ hline, List.map_singleton, formatLine, hspaces,
      leadLine, trimEnd_append, if_neg hne]

/-- Does a fragment on a single line lead from scopes to others, and does its
    start close `k` delimiters?  Blanks in front of it do not count. -/
structure Leads (k : Nat) (st : List Scope) (t : List Char) (st' : List Scope) : Prop where
  line : '\n' ∉ t
  ink : ∃ c ∈ t, isSpace c = false
  closings : closings (trimStart isBlank t) = k
  scopes : (afterDirective st (trimStart isBlank t)).bind (afterText · t) = some st'

/-- What may be evaluated need not be proved. -/
theorem leads_of_eq {k : Nat} {st st' : List Scope} {t : String} (hn : t.toList.contains '\n' = false)
    (hi : t.toList.any (!isSpace ·) = true) (hk : closings (trimStart isBlank t.toList) = k)
    (hs : (afterDirective st (trimStart isBlank t.toList)).bind (afterText · t.toList) = some st') :
    Leads k st t.toList st' := by
  obtain ⟨c, hc, hsolid⟩ := List.any_eq_true.1 hi
  exact ⟨by simpa using hn, ⟨c, hc, by simpa using hsolid⟩, hk, hs⟩

/-- Such a fragment, with a text behind it that has no part in a directive. -/
theorem Leads.runs {k depth : Nat} {st st' st'' : List Scope} {t e : List Char} (h : Leads k st t st')
    (hd : depth + k = levels st) (hn : '\n' ∉ e) (he : IsTail e) (hs : afterText st' e = some st'') :
    Runs st (endWith e (blockLines depth ['\t'] t)) st'' := by
  obtain ⟨pre, m, post, rfl, hpre, hpost, ⟨a, ha, hab⟩, hlines⟩ := exists_inner h.line h.ink
  have hne : m ≠ [] := by
    rintro rfl
    cases ha
  have hpost' := isTail_space hpost
  have htrim : trimStart isBlank (pre ++ (m ++ post)) = m ++ post := dropWhile_around hpre ⟨a, ha, hab⟩ post
  have hline := h.line
  have hk := h.closings
  have hscopes := h.scopes
  rw [htrim, closings_append hne] at hk
  rw [htrim, afterDirective_append st hpost'] at hscopes
  simp only [List.mem_append, not_or] at hline
  rw [hlines, endWith, List.append_assoc]
  refine runs_line ⟨a, ?_, ?_⟩ ?_ ?_ ?_
  · rw [List.head?_append_of_ne_nil _ hne, ha]
  · rintro rfl
    cases hab
  · rw [List.mem_append, not_or]
    exact ⟨hline.2.1, hn⟩
  · rw [closings_append hne, hk, hd]
  · rw [afterDirective_append st he]
    obtain ⟨u, hu, hut⟩ := Option.bind_eq_some_iff.1 hscopes
    -- White space around the fragment leads nowhere.
    have hmid : afterText u m = some st' := by
      rw [afterText_append, afterText_space u fun c hc => isSpace_of_isBlank (hpre c hc),
        Option.bind_some, afterText_append] at hut
      obtain ⟨v, hv, hvp⟩ := Option.bind_eq_some_iff.1 hut
      rw [afterText_space v hpost] at hvp
      rw [hv, hvp]
    rw [hu, Option.bind_some, afterText_append, hmid]
    exact hs

end

end Scope

end CxxWriter
