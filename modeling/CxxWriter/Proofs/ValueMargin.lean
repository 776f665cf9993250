/-
  The margin of a value.

  * `spaced k before after v`: the text `v` with `k` more spaces in front of the
    lines that are not blank, and with blank lines before and after;
  * `respaced_spaced`: as the initial value of a member it stands for `v`;
  * `blockLines_assigned`: the value of a declaration is cut into lines behind the
    declaration, all of which are written;
  * `value_margin_iff`: so a declaration with such a value is written as with `v`
    only if nothing was added.
-/
import CxxWriter.Proofs.Assignment
import CxxWriter.Proofs.Formatted
import CxxWriter.Proofs.Respaced
import CxxWriter.Proofs.Word

namespace CxxWriter

open Text
open Buffer (blockLines blockOf)

namespace Block

/-! ## Values with a margin -/

/-- Spaces in front of a line that is not blank. -/
def indentLine (k : Nat) (l : List Char) : List Char :=
  if isBlankLine l then l else List.replicate k ' ' ++ l

/-- A text behind a margin, with lines before and after. -/
def spaced (k : Nat) (before after : List (List Char)) (v : String) : String :=
  String.ofList (unlines (before ++ (lines v.toList).map (indentLine k) ++ after))

variable {k : Nat} {l : List Char} {before after : List (List Char)}

theorem newline_indentLine (h : '\n' ∉ l) : '\n' ∉ indentLine k l := by
  unfold indentLine
  split
  · exact h
  · simp [h]

theorem isShifted_indentLine (h : '\n' ∉ l) : IsShifted k l (indentLine k l) := by
  refine ⟨newline_indentLine h, ?_⟩
  unfold indentLine
  cases hb : isBlankLine l with
  | true => exact .inl ⟨rfl, hb⟩
  | false =>
    refine .inr ⟨rfl, List.replicate k ' ', List.length_replicate, fun c hc => ?_, rfl⟩
    rw [List.eq_of_mem_replicate hc]
    rfl

@[simp] theorem indentLine_zero (l : List Char) : indentLine 0 l = l := ite_self l

theorem spaced_nothing (v : String) : spaced 0 [] [] v = v := by
  have hmap : (lines v.toList).map (indentLine 0) = lines v.toList :=
    (List.map_congr_left fun l _ => indentLine_zero l).trans (List.map_id _)
  rw [spaced, List.nil_append, List.append_nil, hmap, unlines, joinWith_splitOn, String.ofList_toList]

/-- The margin is one that does not matter. -/
theorem respaced_spaced {v : String} (hv : IsBlock (lines v.toList))
    (hblank : ∀ l ∈ before ++ after, isBlankLine l = true ∧ '\n' ∉ l) (k : Nat) :
    Value.Respaced (.text v) (.text (spaced k before after v)) := by
  refine .block hv (joinWith_splitOn '\n' v.toList).symm ⟨k, before, (lines v.toList).map (indentLine k),
    [], after, hblank, ?_, fun _ h => absurd h List.not_mem_nil, ?_⟩
  · rw [List.forall₂_map_right_iff, List.forall₂_same]
    exact fun l hl => isShifted_indentLine (hv.line l hl)
  · rw [spaced, String.toList_ofList, endWith_nil]

/-! ## Lines of an assignment -/

theorem length_takeWhile_le (p : Char → Bool) {a : Char} (ha : p a = false) (l r : List Char) :
    ((l ++ a :: r).takeWhile p).length ≤ l.length := by
  rw [List.takeWhile_append]
  split
  · rw [List.takeWhile_cons_of_neg (by simp [ha]), List.append_nil]
  · exact (List.takeWhile_prefix p).length_le

/-- A margin ends in front of a character that is not blank. -/
theorem exists_dropMargin {a : Char} (ha : isBlank a = false) {width : Nat} {p r : List Char}
    (h : width ≤ margin (p ++ a :: r)) : ∃ q, dropMargin width (p ++ a :: r) = q ++ a :: r := by
  have hink : isBlankLine (p ++ a :: r) = false := isBlankLine_eq_false.2 ⟨a, by simp, ha⟩
  have hle : width ≤ p.length := h.trans (length_takeWhile_le _ ha p r)
  rw [dropMargin, hink, if_neg (by simp), List.drop_append_of_le_length hle]
  exact ⟨_, rfl⟩

/-- What follows a character that is no white space is written as it is. -/
theorem exists_formatLine {a : Char} (ha : isSpace a = false) (lead unit p r : List Char) :
    ∃ q, formatLine lead unit (p ++ a :: r) = q ++ a :: trimEnd isSpace r := by
  have hspace : (a == ' ') = false := by
    rw [beq_eq_false_iff_ne]
    rintro rfl
    cases ha
  obtain ⟨q, hq⟩ : ∃ q, convertSpaces unit (p ++ a :: r) = q ++ a :: r := by
    unfold convertSpaces
    dsimp only
    split
    · rw [List.drop_append_of_le_length (length_takeWhile_le (· == ' ') hspace p r), ← List.append_assoc]
      exact ⟨_, rfl⟩
    · exact ⟨p, rfl⟩
  refine ⟨lead ++ q, ?_⟩
  rw [formatLine, hq, leadLine, ← List.append_assoc, trimEnd_append, trimEnd_cons ha,
    if_neg (List.cons_ne_nil _ _)]

/-- Lines behind a text, with another one behind them. -/
theorem lines_assigned {d e : List Char} {ls : List (List Char)} (hd : '\n' ∉ d)
    (hl : ∀ m ∈ l :: ls, '\n' ∉ m) (he : '\n' ∉ e) :
    lines (d ++ unlines (l :: ls) ++ e) = endWith e ((d ++ l) :: ls) := by
  have hfront : d ++ unlines (l :: ls) = unlines ((d ++ l) :: ls) := by
    cases ls with
    | nil => rfl
    | cons m ls => simp
  have hall : ∀ m ∈ (d ++ l) :: ls, '\n' ∉ m := by
    refine List.forall_mem_cons.2 ⟨?_, fun m hm => hl m (List.mem_cons_of_mem l hm)⟩
    rw [List.mem_append, not_or]
    exact ⟨hd, hl l List.mem_cons_self⟩
  have hends : ∀ m ∈ endWith e ((d ++ l) :: ls), '\n' ∉ m := by
    intro m hm
    rcases mem_endWith hm with hm | ⟨j, hj, rfl⟩
    · exact hall m hm
    · rw [List.mem_append, not_or]
      exact ⟨hall j hj, he⟩
  rw [hfront, ← unlines_endWith e (List.cons_ne_nil _ _)]
  exact splitOn_joinWith _ (by cases ls <;> simp [endWith]) hends

/-- A block whose last line does not end in blanks only loses its margin. -/
theorem lines_unindent_block {t : List Char} (h : IsBlock (lines t))
    (hl : ∀ l, (lines t).getLast? = some l → trimEnd isBlank l = l) :
    lines (unindent t) = (lines t).map (dropMargin (commonMargin (lines t))) := by
  have htext : unlines (lines t) = t := joinWith_splitOn '\n' t
  have htrim := trimmed_block h
  rw [htext] at htrim
  obtain ⟨m, hm, hb⟩ := h.first
  obtain ⟨c, hc, hb⟩ := isBlankLine_eq_false.1 hb
  have hct : c ∈ t := by
    rw [← htext]
    exact (infix_unlines (List.mem_of_mem_head? hm)).subset hc
  obtain ⟨ls, l, hls⟩ : ∃ ls l, lines t = ls ++ [l] :=
    (List.eq_nil_or_concat' _).resolve_left (splitOn_ne_nil _ _)
  have htrimmed : trimLastLine (lines t) = lines t := by
    rw [hls, trimLastLine_concat, hl l (by rw [hls]; exact List.getLast?_concat)]
  rw [(lines_unindent t).resolve_right (unindent_ne_nil hct hb), unindentLines, htrim, htrimmed]

theorem length_endWith (e : List Char) (ls : List (List Char)) : (endWith e ls).length = ls.length := by
  rcases List.eq_nil_or_concat ls with rfl | ⟨ms, m, rfl⟩
  · rfl
  · rw [List.concat_eq_append, endWith_concat, List.length_append, List.length_append]
    rfl

theorem endWith_cons (e : List Char) (ls : List (List Char)) :
    endWith e (l :: ls) = (l ++ if ls = [] then e else []) :: endWith e ls := by
  cases ls with
  | nil => rfl
  | cons m ls => rw [if_neg (List.cons_ne_nil m ls), List.append_nil]; rfl

theorem getLast?_endWith (e : List Char) {ls : List (List Char)} (h : ls ≠ []) :
    ∃ m, (endWith e ls).getLast? = some (m ++ e) := by
  obtain ⟨ms, m, rfl⟩ := (List.eq_nil_or_concat' ls).resolve_left h
  exact ⟨m, by rw [endWith_concat, List.getLast?_concat]⟩

/-- **An assignment line by line.**  The first line of the value stands behind the
    equals sign as it is, and each other one on a line of its own. -/
theorem blockLines_assigned {d : List Char} {ls : List (List Char)} (hd : '\n' ∉ d)
    (hl : ∀ m ∈ l :: ls, '\n' ∉ m) (depth : Nat) (unit : List Char) :
    ∃ q rest, blockLines depth unit (d ++ " = ".toList ++ unlines (l :: ls) ++ [';']) =
      (q ++ '=' :: trimEnd isSpace (' ' :: (l ++ if ls = [] then [';'] else []))) :: rest ∧
        rest.length = ls.length := by
  have hlines := lines_assigned (d := d ++ " = ".toList) (e := [';']) (by simp [hd]) hl (by decide)
  obtain ⟨m, hlast⟩ := getLast?_endWith [';'] (List.cons_ne_nil (d ++ " = ".toList ++ l) ls)
  rw [← hlines] at hlast
  obtain ⟨e, he⟩ : ∃ e, e = if ls = [] then [';'] else [] := ⟨_, rfl⟩
  have hfirst : d ++ " = ".toList ++ l ++ e = (d ++ [' ']) ++ '=' :: ' ' :: (l ++ e) := by simp
  rw [endWith_cons, ← he, hfirst] at hlines
  rw [← he]
  generalize d ++ " = ".toList ++ unlines (l :: ls) ++ [';'] = t at hlines hlast ⊢
  have hink {a : Char} (ha : isBlank a = false) (p r : List Char) : isBlankLine (p ++ a :: r) = false :=
    isBlankLine_eq_false.2 ⟨a, by simp, ha⟩
  have hsign : isBlankLine ((d ++ [' ']) ++ '=' :: ' ' :: (l ++ e)) = false := hink (by decide) _ _
  have hblock : IsBlock (lines t) :=
    ⟨fun _ => not_mem_of_mem_lines, ⟨_, by rw [hlines]; rfl, hsign⟩, ⟨_, hlast, hink (by decide) m []⟩⟩
  have hend : ∀ j, (lines t).getLast? = some j → trimEnd isBlank j = j := by
    intro j hj
    rw [hlast, Option.some.injEq] at hj
    rw [← hj, trimEnd_append]
    rfl
  -- the margin ends in front of the equals sign, and what follows the sign is not blank
  have hmem : (d ++ [' ']) ++ '=' :: ' ' :: (l ++ e) ∈ lines t := by
    rw [hlines]
    exact List.mem_cons_self
  obtain ⟨p, hp⟩ := exists_dropMargin (by decide) (commonMargin_le hmem hsign)
  obtain ⟨q, hq⟩ := exists_formatLine (a := '=') (by decide) (copies depth unit) unit p
    (' ' :: (l ++ e))
  rw [blockLines, lines_unindent_block hblock hend]
  generalize commonMargin (lines t) = width at hp ⊢
  rw [hlines, List.map_cons, List.map_cons, hp, hq]
  exact ⟨q, _, rfl, by rw [List.length_map, List.length_map, length_endWith]⟩

/-- One space behind an equals sign is not several. -/
theorem eq_zero_of_sign {k : Nat} {p q r : List Char}
    (h : p ++ '=' :: ' ' :: r = q ++ '=' :: ' ' :: (List.replicate k ' ' ++ r)) : k = 0 := by
  have hcut : p ++ ['=', ' '] = q ++ '=' :: ' ' :: List.replicate k ' ' :=
    List.append_cancel_right (show p ++ ['=', ' '] ++ r = q ++ '=' :: ' ' :: List.replicate k ' ' ++ r by
      simpa using h)
  cases k with
  | zero => rfl
  | succ k =>
    -- on the left the space stands behind the equals sign, on the right behind another space
    have hspaces : ' ' :: List.replicate (k + 1) ' ' = List.replicate k ' ' ++ [' ', ' '] :=
      List.replicate_add k 2 ' '
    rw [hspaces, ← List.cons_append, ← List.append_assoc] at hcut
    exact absurd (List.append_inj' hcut rfl).2 (by decide)

/-- What is written tells how many lines a value has, and how many spaces are in front of
    the first. -/
theorem nothing_added {d : List Char} {v : String} (hd : '\n' ∉ d) (hv : IsBlock (lines v.toList))
    (hink : ∃ l, (lines v.toList).head? = some l ∧ ∃ c ∈ l, isSpace c = false)
    (hblank : ∀ l ∈ before ++ after, isBlankLine l = true ∧ '\n' ∉ l) {depth : Nat} {unit : List Char}
    (h : blockLines depth unit (d ++ " = ".toList ++ (spaced k before after v).toList ++ [';']) =
      blockLines depth unit (d ++ " = ".toList ++ v.toList ++ [';'])) :
    k = 0 ∧ before = [] ∧ after = [] := by
  obtain ⟨l, hl, c, hc, hs⟩ := hink
  obtain ⟨ls, hls⟩ : ∃ ls, lines v.toList = l :: ls := List.head?_eq_some_iff.1 hl
  have hline : ∀ m ∈ l :: ls, '\n' ∉ m := hls ▸ hv.line
  have htext : v.toList = unlines (l :: ls) := by
    rw [← hls]
    exact (joinWith_splitOn '\n' v.toList).symm
  have hspaced : (spaced k before after v).toList =
      unlines (before ++ (l :: ls).map (indentLine k) ++ after) := by
    rw [spaced, String.toList_ofList, hls]
  obtain ⟨m, ms, hms⟩ : ∃ m ms, before ++ (l :: ls).map (indentLine k) ++ after = m :: ms :=
    List.exists_cons_of_ne_nil (by simp)
  have hmline : ∀ j ∈ m :: ms, '\n' ∉ j := by
    rw [← hms]
    intro j hj
    simp only [List.mem_append, List.mem_map] at hj
    rcases hj with (hj | ⟨i, hi, rfl⟩) | hj
    · exact (hblank j (List.mem_append_left _ hj)).2
    · exact newline_indentLine (hline i hi)
    · exact (hblank j (List.mem_append_right _ hj)).2
  obtain ⟨p, rest, hp, hrest⟩ := blockLines_assigned hd hline depth unit
  obtain ⟨q, rest', hq, hrest'⟩ := blockLines_assigned hd hmline depth unit
  rw [hspaced, hms, htext, hp, hq, List.cons.injEq] at h
  obtain ⟨hfirst, rfl⟩ := h
  have hcount := congrArg List.length hms
  simp only [List.length_append, List.length_map, List.length_cons] at hcount
  obtain rfl : before = [] := List.length_eq_zero_iff.1 (by omega)
  obtain rfl : after = [] := List.length_eq_zero_iff.1 (by omega)
  refine ⟨?_, rfl, rfl⟩
  have hb : isBlankLine l = false := isBlankLine_eq_false.2 ⟨c, hc, eq_false_of_ne_true fun hb => by
    rw [isSpace_of_isBlank hb] at hs
    cases hs⟩
  rw [List.nil_append, List.append_nil, List.map_cons, List.cons.injEq, indentLine, hb,
    if_neg (by simp)] at hms
  obtain ⟨rfl, rfl⟩ := hms
  simp only [List.map_eq_nil_iff] at hfirst
  -- the line goes on with ink behind the spaces, which are not trimmed for that reason
  have htrim (m e : List Char) : trimEnd isSpace (m ++ (l ++ e)) = m ++ trimEnd isSpace (l ++ e) := by
    have hne : trimEnd isSpace (l ++ e) ≠ [] :=
      List.ne_nil_of_mem (mem_trimEnd (List.mem_append_left e hc) hs)
    rw [trimEnd_append, if_neg hne]
  have hspaces := htrim (' ' :: List.replicate k ' ') (if ls = [] then [';'] else [])
  have hspace := htrim [' '] (if ls = [] then [';'] else [])
  rw [List.cons_append, List.cons_append, ← List.append_assoc] at hspaces
  rw [List.singleton_append, List.singleton_append] at hspace
  rw [hspaces, hspace] at hfirst
  exact eq_zero_of_sign hfirst.symm

end Block

/-- The lines of a block are known from what is written. -/
theorem Buffer.blockLines_of_emit {b : Buffer} (hu : '\n' ∉ b.unit.toList) {t u : String}
    (h : (b.emit t).text = (b.emit u).text) :
    blockLines b.depth b.unit.toList t.toList = blockLines b.depth b.unit.toList u.toList := by
  have htext := congrArg String.toList h
  rw [emit_piece b hu, emit_piece b hu, Piece.lines, Piece.lines] at htext
  have hlines := congrArg lines (List.append_cancel_left htext)
  rw [lines_ended fun _ => newline_of_mem_blockLines hu,
    lines_ended fun _ => newline_of_mem_blockLines hu] at hlines
  exact List.append_cancel_right hlines

/-! ## The result -/

section
variable {declaration : Value} {d v : String}

open CxxWriter.Action Block

/-- **The margin of a value matters behind a declaration, and nowhere else.**  Let a value
    be lines of which the first and the last are not blank, with some ink on the first, and
    put spaces in front of those that are not blank and blank lines around them.  A
    declaration without line feeds writes the two values alike only if nothing was added.
    As initial values of members they are written alike in every constructor. -/
theorem value_margin_iff (s : Session) (hu : '\n' ∉ s.buffer.unit.toList)
    (hd : declaration.fragment? = some d) (hline : '\n' ∉ d.toList)
    (hv : IsBlock (lines v.toList))
    (hink : ∃ l, (lines v.toList).head? = some l ∧ ∃ c ∈ l, isSpace c = false)
    {before after : List (List Char)}
    (hblank : ∀ l ∈ before ++ after, isBlankLine l = true ∧ '\n' ∉ l) (k : Nat) :
    let w := spaced k before after v
    (∃ b b' : Buffer,
      (Op.declareValue declaration (.text v)).perform.apply s = (.ok .nothing, { s with buffer := b }) ∧
      (Op.declareValue declaration (.text w)).perform.apply s = (.ok .nothing, { s with buffer := b' }) ∧
      (b'.text = b.text ↔ k = 0 ∧ before = [] ∧ after = [])) ∧
    ∀ (signature name : Value) (others more : List (Value × Value)) (body : List Op),
      ((Op.constructor signature (others ++ (name, .text w) :: more) body).perform.apply s).2.buffer =
        ((Op.constructor signature (others ++ (name, .text v) :: more) body).perform.apply s).2.buffer := by
  intro w
  have hfield (x : String) := apply_declareValue hd (show (Value.text x).fragment? = some x from rfl) s
  refine ⟨⟨_, _, hfield v, hfield w, fun h => ?_, ?_⟩, ?_⟩
  · have hlines := Buffer.blockLines_of_emit hu h
    simp only [String.toList_append] at hlines
    exact nothing_added hline hv hink hblank hlines
  · rintro ⟨rfl, rfl, rfl⟩
    rw [show w = v from spaced_nothing v]
  · intro signature name others more body
    have hmembers : MembersAlike (others ++ (name, .text v) :: more) (others ++ (name, .text w) :: more) :=
      List.rel_append (membersAlike_refl others)
        (.cons ⟨rfl, (respaced_spaced hv hblank k).normal⟩ (membersAlike_refl more))
    exact (Op.matches_constructor signature hmembers (Op.matches_both.2 body) (.refl s)).2.buffer.symm

/-- A list between braces with two spaces and a blank line in front, one level deep. -/
theorem value_margin_iff_braces :
    let s : Session := { Session.start .empty Config.default "\t" Files.empty [] with
      buffer := ⟨["struct T \x7b\n"], 1, "\t"⟩ }
    let v := "\x7b\n  1,\n\x7d"
    let w := "\n  \x7b\n    1,\n  \x7d"
    (∃ b b' : Buffer,
      (Op.declareValue (.text "int x[]") (.text v)).perform.apply s =
        (.ok .nothing, { s with buffer := b }) ∧
      (Op.declareValue (.text "int x[]") (.text w)).perform.apply s =
        (.ok .nothing, { s with buffer := b' }) ∧
      b'.text ≠ b.text) ∧
    ((Op.constructor (.text "T::T()") [(.text "x", .text w)] []).perform.apply s).2.buffer =
      ((Op.constructor (.text "T::T()") [(.text "x", .text v)] []).perform.apply s).2.buffer := by
  intro s v w
  have hlines : lines v.toList = [['\x7b'], [' ', ' ', '1', ','], ['\x7d']] := by decide +kernel
  have hv : IsBlock (lines v.toList) := by
    rw [hlines]
    exact ⟨by decide, ⟨_, rfl, rfl⟩, ⟨_, rfl, rfl⟩⟩
  have hink : ∃ l, (lines v.toList).head? = some l ∧ ∃ c ∈ l, isSpace c = false :=
    ⟨['\x7b'], by rw [hlines]; rfl, '\x7b', List.mem_cons_self, by decide⟩
  have hw : spaced 2 [[]] [] v = w := by decide +kernel
  obtain ⟨⟨b, b', hb, hb', hsame⟩, hmember⟩ := @value_margin_iff (.text "int x[]")
    "int x[]" v s (by decide) rfl (by decide) hv hink [[]] [] (by decide) 2
  rw [hw] at hb' hmember
  have hwritten := hmember (.text "T::T()") (.text "x") [] [] []
  simp only [List.nil_append] at hwritten
  refine ⟨⟨b, b', hb, hb', fun h => ?_⟩, hwritten⟩
  cases (hsame.1 h).1

/-- The margin of a value is not removed behind a declaration. -/
theorem value_margin_matters :
    ¬ ∀ (s : Session) (declaration : Value) (d v : String) (k : Nat) (before after : List (List Char)),
      s.buffer.unit = "\t" → declaration.fragment? = some d → '\n' ∉ d.toList →
      1 < (lines v.toList).length → IsBlock (lines v.toList) →
      (∀ l ∈ before ++ after, isBlankLine l = true ∧ '\n' ∉ l) →
      ((Op.declareValue declaration (.text (spaced k before after v))).perform.apply s).2.buffer.text =
        ((Op.declareValue declaration (.text v)).perform.apply s).2.buffer.text := by
  intro h
  let s := Session.start .empty Config.default "\t" Files.empty []
  let v := "\x7b\n  1,\n\x7d"
  have hlines : lines v.toList = [['\x7b'], [' ', ' ', '1', ','], ['\x7d']] := by decide +kernel
  have hv : IsBlock (lines v.toList) := by
    rw [hlines]
    exact ⟨by decide, ⟨_, rfl, rfl⟩, ⟨_, rfl, rfl⟩⟩
  have hsame := h s (.text "int x[]") _ v 2 [] [] rfl rfl (by decide) (by rw [hlines]; decide) hv (by decide)
  have hplain : ((Op.declareValue (.text "int x[]") (.text v)).perform.apply s).2.buffer.text =
      "int x[] = \x7b\n\t1,\n\x7d;\n" := by decide +kernel
  have hspaced :
      ((Op.declareValue (.text "int x[]") (.text (spaced 2 [] [] v))).perform.apply s).2.buffer.text =
      "int x[] =   \x7b\n\t\t1,\n\t\x7d;\n" := by decide +kernel
  rw [hplain, hspaced] at hsame
  exact absurd hsame (by decide)

end

end CxxWriter
