/-
  Where a declaration is split.

  * `IsCall t name rest`: the text `t` starts with a name, white space and an opening
    parenthesis; `firstCall?_eq_some_iff` finds the first place where one starts;
  * `IsFirstCall t before rest`: the parenthesis between `before` and `rest` is the
    first one behind a token;
  * `split_at_first_call`: a declaration is split at that parenthesis, if there is one,
    and is refused otherwise;
  * `parts_split_again`: the parts of a declaration are split as the declaration was.
-/
import CxxWriter.Proofs.Action
import CxxWriter.Proofs.Margin
import CxxWriter.Proofs.Naming
import CxxWriter.Proofs.Within

namespace CxxWriter

open Text

namespace Text

variable {α : Type} (p : α → Bool) (l : List α)

/-- What is trimmed at both ends of a list. -/
theorem exists_trim : ∃ v w, l = v ++ trim p l ++ w ∧ ∀ a ∈ v ++ w, p a = true := by
  obtain ⟨w, hw, hend⟩ := exists_trimEnd p (trimStart p l)
  refine ⟨l.takeWhile p, w, ?_, fun a ha => ?_⟩
  · rw [List.append_assoc, trim, ← hend]
    exact List.takeWhile_append_dropWhile.symm
  · exact (List.mem_append.1 ha).elim (fun ha => List.mem_takeWhile_imp ha) (hw a)

/-- Nothing but what is put behind a trimmed list is trimmed from it again. -/
theorem trim_trim {w : List α} (hw : ∀ a ∈ w, p a = true) : trim p (trim p l ++ w) = trim p l := by
  rcases eq_or_ne (trim p l) [] with hnil | hne
  · rw [hnil, List.nil_append, trim, trimStart, List.dropWhile_eq_nil_iff.2 hw]
    rfl
  · obtain ⟨a, m, hm⟩ := List.exists_cons_of_ne_nil hne
    obtain ⟨e, -, he⟩ := exists_trimEnd p (trimStart p l)
    have hfirst : p a = false := by
      refine head?_trimStart (l := l) ?_
      rw [he, ← trim, hm]
      rfl
    obtain ⟨b, hb⟩ := Option.isSome_iff_exists.1 (List.getLast?_isSome.2 hne)
    have htrim : trim p ([] ++ (trim p l ++ w)) = trim p l :=
      trim_between (fun _ h => absurd h List.not_mem_nil) hw ⟨a, by rw [hm]; rfl, hfirst⟩
        ⟨b, hb, getLast?_trimEnd hb⟩
    exact htrim

end Text

namespace Declaration

open Reporting (Tells declaration tells_declaration tells_declaration_none of_tells_declaration)

variable {t u before rest name lead gap : List Char}

/-! ## Calls -/

theorem isSpace_token {c : Char} (h : isToken c = true) : isSpace c = false := by
  simp only [isToken, Bool.or_eq_true, beq_iff_eq] at h
  obtain (((((((h | rfl) | rfl) | rfl) | rfl) | rfl) | rfl) | rfl) := h
  · exact Naming.isSpace_wordChar (by rw [Naming.isWordChar, h, Bool.true_or])
  all_goals decide

/-- Does a text start with a name, white space and an opening parenthesis? -/
def IsCall (t name rest : List Char) : Prop :=
  ∃ gap, t = name ++ gap ++ '(' :: rest ∧ name ≠ [] ∧ (∀ c ∈ name, isToken c = true) ∧
    ∀ c ∈ gap, isSpace c = true

theorem afterParen?_eq_some_iff :
    afterParen? t = some rest ↔ ∃ gap, t = gap ++ '(' :: rest ∧ ∀ c ∈ gap, isSpace c = true := by
  unfold afterParen?
  constructor
  · intro h
    split at h
    · next r hd =>
      cases h
      refine ⟨t.takeWhile isSpace, ?_, fun c hc => List.mem_takeWhile_imp hc⟩
      rw [← hd, List.takeWhile_append_dropWhile]
    · cases h
  · rintro ⟨gap, rfl, hgap⟩
    rw [List.dropWhile_append_of_pos hgap, List.dropWhile_cons_of_neg (by decide)]
    rfl

/-- A name ends where no token character follows, so that there is one way at most to
    read a call. -/
theorem call?_eq_some_iff : call? t = some (name, rest) ↔ IsCall t name rest := by
  constructor
  · intro h
    obtain ⟨rfl, hrest⟩ := eq_of_call? h
    obtain ⟨gap, hd, hgap⟩ := afterParen?_eq_some_iff.1 hrest
    refine ⟨gap, ?_, fun hnil => ?_, fun c hc => List.mem_takeWhile_imp hc, hgap⟩
    · rw [List.append_assoc, ← hd, List.takeWhile_append_dropWhile]
    · rw [call?, hnil] at h
      cases h
  · rintro ⟨gap, rfl, hne, hname, hgap⟩
    obtain ⟨c, l, hl, hc⟩ : ∃ c l, gap ++ '(' :: rest = c :: l ∧ isToken c = false := by
      cases gap with
      | nil => exact ⟨'(', rest, rfl, by decide⟩
      | cons c gap =>
        refine ⟨c, gap ++ '(' :: rest, rfl, eq_false_of_ne_true fun hc => ?_⟩
        have hs := hgap c List.mem_cons_self
        rw [isSpace_token hc] at hs
        cases hs
    have htake : (name ++ c :: l).takeWhile isToken = name := by
      rw [List.takeWhile_append_of_pos hname, List.takeWhile_cons_of_neg (by simp [hc]), List.append_nil]
    have hdrop : (name ++ c :: l).dropWhile isToken = c :: l := by
      rw [List.dropWhile_append_of_pos hname, List.dropWhile_cons_of_neg (by simp [hc])]
    have hparen : afterParen? (c :: l) = some rest := afterParen?_eq_some_iff.2 ⟨gap, hl.symm, hgap⟩
    rw [List.append_assoc, hl, call?, htake, hdrop, hparen, if_neg (by simpa using hne)]
    rfl

/-- Where there is a call, the first one is found there or before. -/
theorem exists_firstCall? (h : IsCall u name rest) (lead : List Char) :
    ∃ lead' p, firstCall? (lead ++ u) = some (lead', p) ∧ lead'.length ≤ lead.length := by
  have hcall := call?_eq_some_iff.2 h
  induction lead with
  | nil =>
    obtain ⟨c, l, rfl⟩ : ∃ c l, u = c :: l := by
      cases u with
      | nil => cases hcall
      | cons c l => exact ⟨c, l, rfl⟩
    refine ⟨[], (name, rest), ?_, Nat.le_refl _⟩
    rw [List.nil_append, firstCall?_cons, hcall]
  | cons c lead ih =>
    obtain ⟨lead', p, hp, hlen⟩ := ih
    rw [List.cons_append, firstCall?_cons]
    split
    · next n r _ => exact ⟨[], (n, r), rfl, Nat.zero_le _⟩
    · rw [hp]
      exact ⟨c :: lead', p, rfl, Nat.succ_le_succ hlen⟩

/-- **The first call** is the one with the least text before it. -/
theorem firstCall?_eq_some_iff : firstCall? t = some (lead, name, rest) ↔
    ∃ u, t = lead ++ u ∧ IsCall u name rest ∧
      ∀ lead' u' name' rest', t = lead' ++ u' → IsCall u' name' rest' →
        lead.length ≤ lead'.length := by
  constructor
  · intro h
    obtain ⟨u, hu, hcall⟩ := exists_of_firstCall? h
    refine ⟨u, hu, call?_eq_some_iff.1 hcall, fun lead' u' name' rest' ht hcall' => ?_⟩
    obtain ⟨l, p, hp, hlen⟩ := exists_firstCall? hcall' lead'
    rw [← ht, h] at hp
    cases hp
    exact hlen
  · rintro ⟨u, rfl, hcall, hfirst⟩
    obtain ⟨lead', ⟨name', rest'⟩, hp, hlen⟩ := exists_firstCall? hcall lead
    obtain ⟨u', hu', hcall'⟩ := exists_of_firstCall? hp
    have hle := hfirst lead' u' name' rest' hu' (call?_eq_some_iff.1 hcall')
    obtain ⟨rfl, rfl⟩ := List.append_inj hu' (Nat.le_antisymm hle hlen)
    rw [call?_eq_some_iff.2 hcall] at hcall'
    cases hcall'
    exact hp

/-! ## Parentheses behind tokens -/

/-- Does a text end, before white space, with a character of a token? -/
def endsInToken (t : List Char) : Bool := (trimEnd isSpace t).getLast?.any isToken

/-- Is there an opening parenthesis behind a token? -/
def HasCall (t : List Char) : Prop := ∃ before rest, t = before ++ '(' :: rest ∧ endsInToken before = true

/-- Is the parenthesis between `before` and `rest` the first one behind a token? -/
structure IsFirstCall (t before rest : List Char) : Prop where
  split : t = before ++ '(' :: rest
  token : endsInToken before = true
  first : ∀ b r, t = b ++ '(' :: r → endsInToken b = true → before.length ≤ b.length

/-- The longest run of token characters that a text ends with, before white space. -/
def lastToken (t : List Char) : List Char := (trimEnd isSpace t).rtakeWhile isToken

/-- What is in front of that run. -/
def beforeToken (t : List Char) : List Char := (trimEnd isSpace t).rdropWhile isToken

/-- The declaration that is split at a parenthesis. -/
def splitAt (before rest : List Char) : Declaration where
  returnType := String.ofList (trim isSpace (beforeToken before))
  name := String.ofList (lastToken before)
  signature := String.ofList (trim isSpace (lastToken before ++ '(' :: rest))

/-- Is a text made of the parts of a declaration, with white space around them? -/
def IsMadeOf (t : List Char) (d : Declaration) : Prop :=
  ∃ w₁ w₂ w₃ tail w₄, t = w₁ ++ d.returnType.toList ++ w₂ ++ d.name.toList ++ w₃ ++ '(' :: tail ++ w₄ ∧
    d.signature.toList = d.name.toList ++ '(' :: tail ∧ ∀ c ∈ w₁ ++ w₂ ++ w₃ ++ w₄, isSpace c = true

/-- A run of token characters, behind what does not end with one. -/
structure IsRun (lead name : List Char) : Prop where
  ne_nil : name ≠ []
  token : ∀ c ∈ name, isToken c = true
  longest : ∀ c, lead.getLast? = some c → isToken c = false

theorem trimEnd_token (hne : name ≠ []) (hn : ∀ c ∈ name, isToken c = true)
    (hgap : ∀ c ∈ gap, isSpace c = true) (lead : List Char) :
    trimEnd isSpace (lead ++ name ++ gap) = lead ++ name := by
  rw [trimEnd_append, if_pos (trimEnd_eq_nil.2 hgap)]
  refine trimEnd_eq_self fun c hc => isSpace_token (hn c ?_)
  rw [List.getLast?_append_of_ne_nil _ hne] at hc
  exact List.mem_of_getLast? hc

theorem endsInToken_append (hne : name ≠ []) (hn : ∀ c ∈ name, isToken c = true)
    (hgap : ∀ c ∈ gap, isSpace c = true) (lead : List Char) :
    endsInToken (lead ++ name ++ gap) = true := by
  rw [endsInToken, trimEnd_token hne hn hgap, List.getLast?_append_of_ne_nil _ hne,
    List.getLast?_eq_some_getLast hne]
  exact hn _ (List.getLast_mem hne)

/-- What a text ends with before white space is a run of token characters, if there is
    one at all. -/
theorem isRun_lastToken (h : endsInToken t = true) : IsRun (beforeToken t) (lastToken t) ∧
    ∃ gap, t = beforeToken t ++ lastToken t ++ gap ∧ ∀ c ∈ gap, isSpace c = true := by
  obtain ⟨c, hlast, hc⟩ := (Option.any_eq_true _ _).1 h
  obtain ⟨l, hl⟩ := List.getLast?_eq_some_iff.1 hlast
  obtain ⟨gap, hgap, ht⟩ := exists_trimEnd isSpace t
  refine ⟨⟨?_, fun a ha => List.mem_rtakeWhile_imp ha, fun a ha => getLast?_trimEnd (p := isToken) ha⟩,
    gap, ?_, hgap⟩
  · rw [lastToken, hl, List.rtakeWhile_concat_pos _ _ _ hc]
    exact List.concat_ne_nil _ _
  · rw [beforeToken, lastToken, List.rdropWhile_append_rtakeWhile]
    exact ht

/-- A parenthesis behind a token is the one of a call, whose name is the token. -/
theorem exists_isCall (h : endsInToken before = true) (rest : List Char) :
    ∃ lead u name, before ++ '(' :: rest = lead ++ u ∧ IsCall u name rest ∧
      lead.length < before.length := by
  obtain ⟨hrun, gap, hbefore, hgap⟩ := isRun_lastToken h
  refine ⟨beforeToken before, lastToken before ++ gap ++ '(' :: rest, lastToken before, ?_,
    ⟨gap, rfl, hrun.ne_nil, hrun.token, hgap⟩, ?_⟩
  · conv_lhs => rw [hbefore]
    simp only [List.append_assoc]
  · have hlen := congrArg List.length hbefore
    have hname := List.length_pos_iff.2 hrun.ne_nil
    rw [List.length_append, List.length_append] at hlen
    omega

theorem IsRun.parts (h : IsRun lead name) (hgap : ∀ c ∈ gap, isSpace c = true) :
    beforeToken (lead ++ name ++ gap) = lead ∧ lastToken (lead ++ name ++ gap) = name := by
  rw [beforeToken, lastToken, trimEnd_token h.ne_nil h.token hgap]
  have hlead : trimEnd isToken lead = lead := trimEnd_eq_self h.longest
  have hdrop : (lead ++ name).rdropWhile isToken = lead := by
    show trimEnd isToken (lead ++ name) = lead
    rw [trimEnd_append, if_pos (trimEnd_eq_nil.2 h.token), hlead]
  refine ⟨hdrop, ?_⟩
  have hsplit := List.rdropWhile_append_rtakeWhile (p := isToken) (l := lead ++ name)
  rw [hdrop] at hsplit
  exact List.append_cancel_left hsplit

/-- A parenthesis that is found before the end of `m`, which has none, is in front
    of `m`. -/
theorem paren_in_front {a : Char} {l m b r : List Char} (hm : a ∉ m)
    (h : l ++ m ++ a :: rest = b ++ a :: r) : (∃ x, l = b ++ a :: x) ∨ (l ++ m).length ≤ b.length := by
  obtain ⟨x, rfl, -⟩ | ⟨x, hx, hr⟩ := List.append_eq_append_iff.1 h
  · exact .inr (List.prefix_append _ _).length_le
  · cases x with
    | nil =>
      rw [hx, List.append_nil]
      exact .inr (Nat.le_refl _)
    | cons c x =>
      obtain rfl : a = c := List.head_eq_of_cons_eq hr
      obtain ⟨y, rfl, hy⟩ | ⟨y, rfl, hy⟩ := List.append_eq_append_iff.1 hx
      · rw [hy] at hm
        exact absurd (List.mem_append_right _ List.mem_cons_self) hm
      · cases y with
        | nil =>
          rw [List.nil_append] at hy
          rw [← hy] at hm
          exact absurd List.mem_cons_self hm
        | cons c y =>
          obtain rfl : a = c := List.head_eq_of_cons_eq hy
          exact .inl ⟨y, rfl⟩

/-- No parenthesis is in names or in white space. -/
theorem paren_not_mem {l : List Char} (h : ∀ c ∈ l, isToken c = true ∨ isSpace c = true) : '(' ∉ l :=
  fun hm => (h _ hm).elim (by decide) (by decide)

theorem IsFirstCall.unique {b r : List Char} (h : IsFirstCall t before rest) (h' : IsFirstCall t b r) :
    before = b ∧ rest = r := by
  have hlen := Nat.le_antisymm (h.first b r h'.split h'.token) (h'.first before rest h.split h.token)
  obtain ⟨hb, hr⟩ := List.append_inj (h.split.symm.trans h'.split) hlen
  exact ⟨hb, List.tail_eq_of_cons_eq hr⟩

/-- The first call ends with the first parenthesis behind a token. -/
theorem exists_isFirstCall (h : firstCall? t = some (lead, name, rest)) :
    ∃ before, IsFirstCall t before rest ∧ IsRun lead name ∧
      ∃ gap, before = lead ++ name ++ gap ∧ ∀ c ∈ gap, isSpace c = true := by
  obtain ⟨u, rfl, ⟨gap, rfl, hne, hn, hgap⟩, hfirst⟩ := firstCall?_eq_some_iff.1 h
  have hparen : '(' ∉ name ++ gap :=
    paren_not_mem (List.forall_mem_append.2 ⟨fun c hc => .inl (hn c hc), fun c hc => .inr (hgap c hc)⟩)
  refine ⟨lead ++ name ++ gap, ⟨by simp, endsInToken_append hne hn hgap lead, fun b r hb htoken => ?_⟩,
    ⟨hne, hn, fun c hc => eq_false_of_ne_true fun htoken => ?_⟩, gap, rfl, hgap⟩
  · -- An earlier parenthesis would be in front of the name, and its call as well.
    obtain ⟨lead', u', name', hu', hcall, hlead'⟩ := exists_isCall htoken r
    have hle := hfirst lead' u' name' r (hb.trans hu') hcall
    have hb : lead ++ (name ++ gap) ++ '(' :: rest = b ++ '(' :: r := by
      rw [← hb, List.append_assoc]
    rw [List.append_assoc]
    refine (paren_in_front hparen hb).resolve_left ?_
    rintro ⟨x, rfl⟩
    rw [List.length_append] at hle
    omega
  · -- The call would start with the character in front of the name.
    obtain ⟨l, rfl⟩ := List.getLast?_eq_some_iff.1 hc
    have hcall : IsCall (c :: name ++ gap ++ '(' :: rest) (c :: name) rest :=
      ⟨gap, rfl, List.cons_ne_nil _ _, List.forall_mem_cons.2 ⟨htoken, hn⟩, hgap⟩
    have hle := hfirst l _ _ _ (by simp) hcall
    rw [List.length_append, List.length_singleton] at hle
    omega

/-- Where there is a parenthesis behind a token, there is a first one. -/
theorem exists_of_hasCall (h : HasCall t) : ∃ lead name rest, firstCall? t = some (lead, name, rest) := by
  obtain ⟨before, rest, rfl, htoken⟩ := h
  obtain ⟨lead, u, name, hu, hcall, -⟩ := exists_isCall htoken rest
  obtain ⟨l, p, hp, -⟩ := exists_firstCall? hcall lead
  exact ⟨l, p.1, p.2, by rw [hu, hp]⟩

theorem IsFirstCall.hasCall (h : IsFirstCall t before rest) : HasCall t :=
  ⟨before, rest, h.split, h.token⟩

/-! ## Splitting -/

variable {s : String} {d : Declaration}

/-- **A text is split at the first parenthesis behind a token.** -/
theorem split?_eq_some_iff : split? s = some d ↔
    ∃ before rest, IsFirstCall s.toList before rest ∧ d = splitAt before rest := by
  have hsplit {lead name rest : List Char} (h : firstCall? s.toList = some (lead, name, rest)) :
      ∃ before, IsFirstCall s.toList before rest ∧ split? s = some (splitAt before rest) := by
    obtain ⟨before, hfirst, hrun, gap, hgap, hspace⟩ := exists_isFirstCall h
    obtain ⟨hlead, hname⟩ := hrun.parts hspace
    rw [← hgap] at hlead hname
    refine ⟨before, hfirst, ?_⟩
    rw [split?, h, splitAt, hlead, hname]
    rfl
  constructor
  · intro h
    obtain ⟨⟨lead, name, rest⟩, hfirst, -⟩ := Option.map_eq_some_iff.1 h
    obtain ⟨before, hbefore, hd⟩ := hsplit hfirst
    exact ⟨before, rest, hbefore, Option.some.inj (h.symm.trans hd)⟩
  · rintro ⟨before, rest, hfirst, rfl⟩
    obtain ⟨lead, name, r, h⟩ := exists_of_hasCall hfirst.hasCall
    obtain ⟨b, hb, hd⟩ := hsplit h
    obtain ⟨rfl, rfl⟩ := hfirst.unique hb
    exact hd

theorem split?_eq_none_iff : split? s = none ↔ ¬ HasCall s.toList := by
  constructor
  · intro h hcall
    obtain ⟨lead, name, rest, hfirst⟩ := exists_of_hasCall hcall
    rw [split?, hfirst] at h
    cases h
  · intro h
    rw [Option.eq_none_iff_forall_ne_some]
    intro d hd
    obtain ⟨before, rest, hfirst, -⟩ := split?_eq_some_iff.1 hd
    exact h hfirst.hasCall

/-- A signature starts with the name, and loses white space at its end only. -/
theorem splitAt_eq (h : IsRun lead name) (hgap : ∀ c ∈ gap, isSpace c = true) (rest : List Char) :
    splitAt (lead ++ name ++ gap) rest = ⟨String.ofList (trim isSpace lead), String.ofList name,
      String.ofList (name ++ '(' :: trimEnd isSpace rest)⟩ := by
  obtain ⟨hlead, hname⟩ := h.parts hgap
  obtain ⟨c, n, rfl⟩ := List.exists_cons_of_ne_nil h.ne_nil
  have hc : isSpace c = false := isSpace_token (h.token c List.mem_cons_self)
  have hstart : trimStart isSpace (c :: n ++ '(' :: rest) = c :: n ++ '(' :: rest :=
    List.dropWhile_cons_of_neg (by simp [hc])
  have hend : trimEnd isSpace ('(' :: rest) = '(' :: trimEnd isSpace rest := trimEnd_cons (by decide) rest
  have hsignature : trim isSpace (c :: n ++ '(' :: rest) = c :: n ++ '(' :: trimEnd isSpace rest := by
    rw [trim, hstart, trimEnd_append, hend, if_neg (List.cons_ne_nil _ _)]
  rw [splitAt, hlead, hname, hsignature]

/-- Nothing of a declaration is lost but white space. -/
theorem IsFirstCall.isMadeOf (h : IsFirstCall t before rest) : IsMadeOf t (splitAt before rest) := by
  obtain ⟨hrun, gap, hbefore, hgap⟩ := isRun_lastToken h.token
  obtain ⟨w₁, w₂, hlead, hw⟩ := exists_trim isSpace (beforeToken before)
  obtain ⟨w₄, hw₄, hrest⟩ := exists_trimEnd isSpace rest
  have hsplit := splitAt_eq hrun hgap rest
  rw [← hbefore] at hsplit
  refine ⟨w₁, w₂, gap, trimEnd isSpace rest, w₄, ?_, ?_, ?_⟩
  · rw [hsplit, String.toList_ofList, String.toList_ofList, ← hlead, List.append_assoc _ _ w₄,
      List.cons_append, ← hrest, ← hbefore]
    exact h.split
  · rw [hsplit, String.toList_ofList, String.toList_ofList]
  · intro c hc
    rw [List.append_assoc (w₁ ++ w₂)] at hc
    rcases List.mem_append.1 hc with hc | hc
    · exact hw c hc
    · exact (List.mem_append.1 hc).elim (hgap c) (hw₄ c)

theorem tells_ok_iff : Tells (declaration (.text s)) (.ok d) [] ↔ split? s = some d := by
  constructor
  · intro h
    obtain ⟨t, ht, hd⟩ := of_tells_declaration h
    cases ht
    exact hd
  · exact tells_declaration rfl

/-- How a text is refused that is no declaration. -/
def Refuses (s : String) : Prop := Tells (declaration (.text s)) (.error (.noCall s))
  [⟨.error, .declaration, "Malformed declaration: " ++ Text.quote s⟩]

theorem refuses_iff : Refuses s ↔ split? s = none := by
  constructor
  · intro h
    rw [Option.eq_none_iff_forall_ne_some]
    intro d hd
    have hrun := h []
    rw [tells_declaration rfl hd] at hrun
    cases hrun
  · exact tells_declaration_none rfl

/-- **A declaration is split at its first call.**  There is a result exactly if some
    parenthesis is behind a token, with nothing but white space between the two.  At the
    first one the text is split: the name is the longest run of token characters that
    ends there, the return type is what stands before the run, and the signature is the
    name with the parenthesis and what is behind it; nothing else is lost but white
    space.  Any other text is refused. -/
theorem split_at_first_call (s : String) :
    ((∃ d, Tells (declaration (.text s)) (.ok d) []) ↔ HasCall s.toList) ∧
    (∀ d, Tells (declaration (.text s)) (.ok d) [] ↔
      ∃ before rest, IsFirstCall s.toList before rest ∧ d = splitAt before rest ∧ IsMadeOf s.toList d) ∧
    (Refuses s ↔ ¬ HasCall s.toList) := by
  refine ⟨?_, fun d => ?_, ?_⟩
  · simp only [tells_ok_iff]
    rw [← Option.isSome_iff_exists, ← Option.ne_none_iff_isSome, Ne, split?_eq_none_iff, not_not]
  · rw [tells_ok_iff, split?_eq_some_iff]
    constructor
    · rintro ⟨before, rest, h, rfl⟩
      exact ⟨before, rest, h, rfl, h.isMadeOf⟩
    · rintro ⟨before, rest, h, rfl, -⟩
      exact ⟨before, rest, h, rfl⟩
  · rw [refuses_iff, split?_eq_none_iff]

/-- A name with blanks behind it, between parentheses that have none. -/
example : split? "(void) bool Foo::operator \t()(int x) const" =
    some ⟨"(void) bool", "Foo::operator", "Foo::operator()(int x) const"⟩ := by decide +kernel

/-! ## Splitting the parts -/

theorem endsInToken_behind (h : endsInToken t = true) (l : List Char) :
    endsInToken (l ++ t) = true := by
  obtain ⟨hrun, gap, ht, hgap⟩ := isRun_lastToken h
  rw [ht, ← List.append_assoc, ← List.append_assoc]
  exact endsInToken_append hrun.ne_nil hrun.token hgap _

/-- Behind a text without a call, the first parenthesis behind a token is the first. -/
theorem isFirstCall_behind {l m : List Char} (hl : ¬ HasCall l) (hm : '(' ∉ m)
    (htoken : endsInToken (l ++ m) = true) (rest : List Char) :
    IsFirstCall (l ++ m ++ '(' :: rest) (l ++ m) rest := by
  refine ⟨rfl, htoken, fun b r hb hbefore => (paren_in_front hm hb).resolve_left ?_⟩
  rintro ⟨x, rfl⟩
  exact hl ⟨b, x, rfl, hbefore⟩

/-- No call is in the return type. -/
theorem IsFirstCall.not_hasCall (h : IsFirstCall t before rest) :
    ¬ HasCall (trim isSpace (beforeToken before)) := by
  rintro ⟨b, r, hb, htoken⟩
  obtain ⟨-, gap, hbefore, -⟩ := isRun_lastToken h.token
  obtain ⟨v, w, hlead, -⟩ := exists_trim isSpace (beforeToken before)
  have hlong : before = (v ++ b) ++ '(' :: (r ++ w ++ lastToken before ++ gap) := by
    conv_lhs => rw [hbefore, hlead, hb]
    simp only [List.append_assoc, List.cons_append]
  have ht : t = (v ++ b) ++ '(' :: (r ++ w ++ lastToken before ++ gap ++ '(' :: rest) := by
    rw [h.split]
    conv_lhs => rw [hlong]
    simp only [List.append_assoc, List.cons_append]
  have hle := h.first _ _ ht (endsInToken_behind htoken v)
  have hlen := congrArg List.length hlong
  rw [List.length_append, List.length_cons] at hlen
  omega

/-- A name in front of a parenthesis is found behind a text without a call. -/
theorem split?_behind {l w : List Char} (hl : ¬ HasCall l) (hw : ∀ c ∈ w, isSpace c = true)
    (hrun : IsRun (l ++ w) name) (rest : List Char) :
    split? (String.ofList (l ++ w ++ name ++ '(' :: rest)) = some ⟨String.ofList (trim isSpace (l ++ w)),
      String.ofList name, String.ofList (name ++ '(' :: trimEnd isSpace rest)⟩ := by
  have hnone : ∀ c ∈ ([] : List Char), isSpace c = true := fun _ h => absurd h List.not_mem_nil
  have htoken := endsInToken_append hrun.ne_nil hrun.token hnone (l ++ w)
  have hd := splitAt_eq hrun hnone rest
  rw [List.append_nil] at htoken hd
  have hparen : '(' ∉ w ++ name :=
    paren_not_mem (List.forall_mem_append.2 ⟨fun c hc => .inr (hw c hc), fun c hc => .inl (hrun.token c hc)⟩)
  rw [List.append_assoc] at htoken
  have hfirst := isFirstCall_behind hl hparen htoken rest
  rw [← List.append_assoc] at hfirst
  exact split?_eq_some_iff.2 ⟨_, rest, by rwa [String.toList_ofList], hd.symm⟩

/-- **Splitting is stable.**  Let a declaration be split into a return type and a
    signature.  The two with a space between them are split in the same way; the
    signature alone is split into no return type and itself; and the return type alone
    is refused. -/
theorem parts_split_again {v : Value} (h : Tells (declaration v) (.ok d) []) :
    Tells (declaration (.text (d.returnType ++ " " ++ d.signature))) (.ok d) [] ∧
    Tells (declaration (.text d.signature)) (.ok { d with returnType := "" }) [] ∧
    Refuses d.returnType := by
  obtain ⟨t, -, ht⟩ := of_tells_declaration h
  obtain ⟨before, rest, hfirst, hd⟩ := split?_eq_some_iff.1 ht
  obtain ⟨hrun, gap, hbefore, hgap⟩ := isRun_lastToken hfirst.token
  have hparts := splitAt_eq hrun hgap rest
  rw [← hbefore, ← hd] at hparts
  have hno := hfirst.not_hasCall
  rw [hparts, tells_ok_iff, tells_ok_iff, refuses_iff, split?_eq_none_iff]
  refine ⟨?_, ?_, ?_⟩
  · have hspace : ∀ c ∈ [' '], isSpace c = true := List.forall_mem_singleton.2 rfl
    have hrun' : IsRun (trim isSpace (beforeToken before) ++ [' ']) (lastToken before) := by
      refine ⟨hrun.ne_nil, hrun.token, fun c hc => ?_⟩
      rw [List.getLast?_concat] at hc
      cases hc
      decide
    have hsplit := split?_behind hno hspace hrun' (trimEnd isSpace rest)
    rw [trim_trim _ _ hspace, trimEnd_trimEnd, List.append_assoc _ (lastToken before), String.ofList_append,
      String.ofList_append] at hsplit
    exact hsplit
  · have hrun' : IsRun ([] ++ []) (lastToken before) := ⟨hrun.ne_nil, hrun.token, by rintro c ⟨⟩⟩
    have hsplit := split?_behind (by rintro ⟨_ | _, _, ⟨⟩, -⟩) (by simp) hrun' (trimEnd isSpace rest)
    rw [trimEnd_trimEnd] at hsplit
    exact hsplit
  · rwa [String.toList_ofList]

/-- Parentheses that no token is in front of, and white space beyond ASCII before the one
    that has the name. -/
theorem parts_split_again_pointer :
    let v := Value.text "\t( (unused) )\tchar *find \u00a0\n(int (*)(char)) const \n"
    let d : Declaration := ⟨"( (unused) )\tchar *", "find", "find(int (*)(char)) const"⟩
    Tells (declaration v) (.ok d) [] ∧
    Tells (declaration (.text "( (unused) )\tchar * find(int (*)(char)) const")) (.ok d) [] ∧
    Tells (declaration (.text "find(int (*)(char)) const"))
      (.ok ⟨"", "find", "find(int (*)(char)) const"⟩) [] ∧
    Refuses "( (unused) )\tchar *" := by
  intro v d
  have h : Tells (declaration v) (.ok d) [] := tells_ok_iff.2 (by decide +kernel)
  have hjoin : d.returnType ++ " " ++ d.signature = "( (unused) )\tchar * find(int (*)(char)) const" := by
    decide +kernel
  obtain ⟨hparts, hsignature, hreturn⟩ := parts_split_again h
  rw [hjoin] at hparts
  exact ⟨h, hparts, hsignature, hreturn⟩

end Declaration

end CxxWriter
