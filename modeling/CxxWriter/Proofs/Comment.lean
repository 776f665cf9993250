/-
  What a comment is written as.

  * `lines_comment`: between its opening and its closing line, a comment has one
    line for each line of the text without its margin;
  * `uncomment lead l` is what a line of a comment says behind its lead:
    `uncomment_leadLine`;
  * `exists_line`: what has no line feed in it stands on one line of a text;
  * `comment_reads_back`: the lines of the text are read back, and the comment ends
    where its last line does, unless the text ends it.
-/
import CxxWriter.Proofs.Piece
import CxxWriter.Proofs.Rejection
import CxxWriter.Proofs.Word

namespace CxxWriter

open Block Text
open CxxWriter.Action

/-! ## Lines of a text -/

namespace Text

/-- **What has no line feed in it stands on one line.**  The rest of the text is the rest
    of the line and the lines below it. -/
theorem exists_line {q : List Char} (hq : '\n' ∉ q) (hne : q ≠ []) {ls : List (List Char)}
    {p r : List Char} (h : p ++ q ++ r = ended ls) :
    ∃ above l below u v, ls = above ++ l :: below ∧ l = u ++ q ++ v ∧ r = v ++ '\n' :: ended below := by
  induction ls generalizing p with
  | nil => simp_all
  | cons l ls ih =>
    rw [ended_cons] at h
    rcases List.append_eq_append_iff.1 h with ⟨v, hl, hr⟩ | ⟨c, hc, hr⟩
    · exact ⟨[], l, ls, p, v, rfl, hl, hr⟩
    cases c with
    | nil => exact ⟨[], l, ls, p, [], rfl, by simp [hc], hr.symm⟩
    | cons d c =>
      -- the line ends before the text does, and so within what is in front of `q`
      obtain ⟨rfl, hrest⟩ : '\n' = d ∧ ended ls = c ++ r := by simpa using hr
      obtain ⟨b, rfl⟩ : ∃ b, c = b ++ q := by
        rcases List.append_eq_append_iff.1 hc with ⟨b, -, hb⟩ | ⟨b, -, hb⟩
        · exact absurd (by rw [hb]; simp) hq
        · cases b with
          | nil => exact absurd (by rw [← List.nil_append q, ← hb]; simp) hq
          | cons a b => exact ⟨b, (List.cons.inj hb).2⟩
      obtain ⟨above, m, below, u, v, rfl, hm, hr⟩ := ih hrest.symm
      exact ⟨l :: above, m, below, u, v, rfl, hm, hr⟩

end Text

/-! ## Lines of a comment -/

/-- What a line of a comment says behind its lead, if it has one. -/
def uncomment (lead l : List Char) : Option (List Char) :=
  if l = lead ++ [' ', '*'] then some [] else l.dropPrefix? (lead ++ [' ', '*', ' '])

/-- White space at the end is all that a line loses in a comment. -/
theorem uncomment_leadLine (lead l : List Char) :
    uncomment lead (leadLine (lead ++ [' ', '*', ' ']) l) = some (trimEnd isSpace l) := by
  unfold uncomment leadLine
  rw [trimEnd_append]
  split
  · next h =>
    have hlead : trimEnd isSpace (lead ++ [' ', '*', ' ']) = lead ++ [' ', '*'] :=
      trimEnd_append lead [' ', '*', ' ']
    rw [hlead, if_pos rfl, h]
  · next h =>
    have hlonger : lead ++ [' ', '*', ' '] ++ trimEnd isSpace l ≠ lead ++ [' ', '*'] := fun he => by
      simpa using congrArg List.length he
    rw [if_neg hlonger, List.dropPrefix?_append_of_beq _ BEq.rfl]

/-- The lines of a comment between the first and the last. -/
def commentLines (lead t : List Char) : List (List Char) :=
  (lines (unindent t)).map (leadLine (lead ++ [' ', '*', ' ']))

theorem lines_comment (depth : Nat) (unit : List Char) (t : String) :
    (Piece.comment t).lines depth unit = (copies depth unit ++ ['/', '*']) ::
      commentLines (copies depth unit) t.toList ++ [copies depth unit ++ [' ', '*', '/']] := by
  have hopen : Tree.IsBare ['/', '*'] :=
    ⟨by decide, ⟨'/', rfl, by decide⟩, by rintro _ ⟨⟩; decide⟩
  have hfirst : Buffer.blockLines depth unit "/*".toList = [copies depth unit ++ ['/', '*']] :=
    hopen.blockLines depth unit
  rw [Piece.lines, hfirst]
  rfl

/-! ## The end of a comment -/

/-- What ends a comment. -/
def commentEnd : List Char := ['*', '/']

/-- It starts behind what has no star in it. -/
theorem infix_behind {lead : List Char} (hlead : '*' ∉ lead) (l : List Char) :
    commentEnd <:+: lead ++ l ↔ commentEnd <:+: l := by
  induction lead with
  | nil => rfl
  | cons c lead ih =>
    obtain ⟨hc, hlead⟩ := List.ne_and_not_mem_of_not_mem_cons hlead
    rw [List.cons_append, List.infix_cons_iff, ih hlead, commentEnd, List.cons_prefix_cons]
    exact or_iff_right fun h => hc h.1

/-- The lead of a line does not end the comment, and the line does not if its text does
    not. -/
theorem not_infix_leadLine {lead l : List Char} (hlead : '*' ∉ lead) (hl : ¬ commentEnd <:+: l) :
    ¬ commentEnd <:+: leadLine (lead ++ [' ', '*', ' ']) l := by
  intro h
  have hline := h.trans (List.rdropWhile_prefix isSpace _).isInfix
  rw [List.append_assoc, infix_behind hlead] at hline
  simp only [commentEnd, List.cons_append, List.nil_append, List.infix_cons_iff,
    List.cons_prefix_cons] at hline hl
  simp_all

theorem not_infix_open {lead : List Char} (hlead : '*' ∉ lead) :
    ¬ commentEnd <:+: lead ++ ['/', '*'] := by
  rw [infix_behind hlead]
  decide

theorem exists_of_mem_trimLastLine {ls : List (List Char)} {l : List Char} (h : l ∈ trimLastLine ls) :
    ∃ m ∈ ls, l <+: m := by
  rcases List.eq_nil_or_concat ls with rfl | ⟨ms, m, rfl⟩
  · cases h
  · rw [List.concat_eq_append, trimLastLine_concat] at h
    rcases List.mem_append.1 h with h | h
    · exact ⟨l, by simp [h], List.prefix_refl l⟩
    · rw [List.mem_singleton.1 h]
      exact ⟨m, by simp, List.rdropWhile_prefix _ _⟩

/-- A line of a text without its margin is part of the text. -/
theorem infix_of_mem_unindent {t l : List Char} (h : l ∈ lines (unindent t)) : l <:+: t := by
  rcases lines_unindent t with hlines | hnil
  · rw [hlines, unindentLines] at h
    obtain ⟨m, hm, rfl⟩ := List.mem_map.1 h
    obtain ⟨k, hk, hmk⟩ := exists_of_mem_trimLastLine hm
    have hkt : k <:+: t := by
      have hin := infix_unlines ((List.dropWhile_suffix _).subset (mem_of_mem_trimEnd hk))
      rwa [unlines, joinWith_splitOn] at hin
    have hdrop : dropMargin (commonMargin (trimLastLine (trim isBlankLine (lines t)))) m <:+: m := by
      unfold dropMargin
      split
      · exact List.nil_infix
      · exact (List.drop_suffix _ _).isInfix
    exact hdrop.trans (hmk.isInfix.trans hkt)
  · rw [hnil] at h
    rw [List.mem_singleton.1 h]
    exact List.nil_infix

/-- **Where a comment ends.**  Its last line is where its end stands, exactly if there is no
    end in the text. -/
theorem comment_ends_once {lead t : List Char} (hlead : '*' ∉ lead) :
    ¬ commentEnd <:+: t ↔ ∀ p q, ended ((lead ++ ['/', '*']) :: commentLines lead t ++
      [lead ++ [' ', '*', '/']]) = p ++ commentEnd ++ q → q = ['\n'] := by
  constructor
  · intro ht p q h
    obtain ⟨above, l, below, u, v, hls, rfl, rfl⟩ := exists_line (by decide) (by decide) h.symm
    have hbefore : ∀ m ∈ (lead ++ ['/', '*']) :: commentLines lead t, ¬ commentEnd <:+: m := by
      refine List.forall_mem_cons.2 ⟨not_infix_open hlead, List.forall_mem_map.2 fun m hm => ?_⟩
      exact not_infix_leadLine hlead fun hin => ht (hin.trans (infix_of_mem_unindent hm))
    rcases List.eq_nil_or_concat' below with rfl | ⟨bs, b, rfl⟩
    · -- the last line has one star
      obtain ⟨-, hlast⟩ := List.append_inj' hls rfl
      rw [List.cons.injEq, List.append_assoc] at hlast
      have hstar : lead ++ [' '] ++ '*' :: ['/'] = u ++ '*' :: ('/' :: v) := by
        simpa [commentEnd] using hlast.1
      have hv := ((List.append_cons_inj_of_notMem (by simp [hlead]) (by simp)).1 hstar).2.2
      rw [List.cons.injEq] at hv
      rw [← hv.2]
      rfl
    · rw [← List.cons_append, ← List.append_assoc] at hls
      have hmem : u ++ commentEnd ++ v ∈ (lead ++ ['/', '*']) :: commentLines lead t := by
        rw [(List.append_inj' hls rfl).1]
        simp
      exact absurd ⟨u, v, rfl⟩ (hbefore _ hmem)
  · intro h ht
    have hend : Tree.IsBare commentEnd :=
      ⟨by decide, ⟨'*', rfl, by decide⟩, by rintro _ ⟨⟩; decide⟩
    obtain ⟨l, hl, hin⟩ := exists_line_infix hend.line (hend.infix_unindent ht)
    obtain ⟨u, v, hline⟩ := hend.infix_leadLine (lead ++ [' ', '*', ' ']) hin
    obtain ⟨above, below, hlines⟩ := List.append_of_mem
      (List.mem_map_of_mem (f := leadLine (lead ++ [' ', '*', ' '])) hl)
    rw [← commentLines] at hlines
    have hq := h (ended ((lead ++ ['/', '*']) :: above) ++ u)
      (v ++ '\n' :: ended (below ++ [lead ++ [' ', '*', '/']])) (by
        rw [hlines, ← hline]
        simp)
    -- the last line is still below
    have hlength := congrArg List.length hq
    simp only [ended_append, ended_cons, ended_nil, List.length_append, List.length_cons,
      List.length_nil] at hlength
    omega

/-! ## The result -/

/-- **Comments are read back, and stay closed.**  Where the unit of indentation consists of
    spaces and tabs, a comment is written as its opening line, a line for each line of the
    text without its margin, and its closing line, all at the current indentation.  The
    lines of the text are read back but for white space at their ends.  The closing line is
    where the comment ends, exactly if the text does not end it. -/
theorem comment_reads_back (s : Session) {value : Value} {t : String} (hv : value.fragment? = some t)
    (hu : ∀ c ∈ s.buffer.unit.toList, c = ' ' ∨ c = '\t') :
    ∃ s' x body, (Op.comment value).perform.apply s = (.ok .nothing, s') ∧ s.Wrote x s' ∧
      let lead := s.buffer.indentation.toList
      lines x.toList = (lead ++ ['/', '*']) :: body ++ [lead ++ [' ', '*', '/'], []] ∧
      body.map (uncomment lead) = (lines (unindent t.toList)).map (some ∘ trimEnd isSpace) ∧
      (¬ commentEnd <:+: t.toList ↔ ∀ p q, x.toList = p ++ commentEnd ++ q → q = ['\n']) := by
  have hunit : '\n' ∉ s.buffer.unit.toList := fun h => by
    rcases hu _ h with h | h <;> cases h
  have hlead : '*' ∉ s.buffer.indentation.toList := fun h => by
    rw [Buffer.toList_indentation] at h
    rcases hu _ (mem_of_mem_copies h) with h | h <;> cases h
  have hlines := lines_comment s.buffer.depth s.buffer.unit.toList t
  rw [← Buffer.toList_indentation] at hlines
  have hrun : (Op.comment value).perform.apply s =
      (.ok .nothing, { s with buffer := s.buffer.emitComment t }) :=
    Op.apply_silent (apply_bind_ok (apply_fragment hv s) _)
  have htext : (s.buffer.emitComment t).text = s.buffer.text ++
      String.ofList (ended ((Piece.comment t).lines s.buffer.depth s.buffer.unit.toList)) := by
    rw [← String.toList_inj, Buffer.emitComment_piece _ hunit, String.toList_append, String.toList_ofList]
  refine ⟨_, _, commentLines s.buffer.indentation.toList t.toList, hrun, ⟨rfl, htext, rfl, rfl⟩, ?_⟩
  have hnewline := Piece.newline_of_mem_lines (p := .comment t) hunit s.buffer.depth trivial trivial
  rw [String.toList_ofList, lines_ended hnewline, hlines]
  refine ⟨?_, ?_, comment_ends_once hlead⟩
  · simp
  · rw [commentLines, List.map_map]
    refine List.map_congr_left fun l _ => ?_
    rw [Function.comp_apply, Function.comp_apply, uncomment_leadLine]

/-- A comment two levels deep, of a blank line, a star and a slash, and a line that goes on
    with white space. -/
theorem comment_reads_back_deeper :
    let s : Session := { Session.start .empty Config.default " \t" Files.empty [] with
      buffer := ⟨["struct T \x7b\n"], 2, " \t"⟩ }
    ∃ s' x body, (Op.comment (.text "\n    a  b \n\n      * /")).perform.apply s = (.ok .nothing, s') ∧
      s.Wrote x s' ∧ lines x.toList = " \t \t/*".toList :: body ++ [" \t \t */".toList, []] ∧
      body.map (uncomment " \t \t".toList) = [some "a  b".toList, some [], some "  * /".toList] ∧
      ∀ p q, x.toList = p ++ commentEnd ++ q → q = ['\n'] := by
  intro s
  have hunit : s.buffer.unit.toList = [' ', '\t'] := by decide +kernel
  obtain ⟨s', x, body, hrun, hs, hlines, hbody, hend⟩ := @comment_reads_back s
    (.text "\n    a  b \n\n      * /") _ rfl (by simp [hunit])
  refine ⟨s', x, body, hrun, hs, ?_, ?_, hend.1 ?_⟩
  · have hopen : s.buffer.indentation.toList ++ ['/', '*'] = " \t \t/*".toList := by decide +kernel
    have hclose : s.buffer.indentation.toList ++ [' ', '*', '/'] = " \t \t */".toList := by decide +kernel
    rw [hlines, hopen, hclose]
  · have hlead : " \t \t".toList = s.buffer.indentation.toList := by decide +kernel
    rw [hlead, hbody]
    decide +kernel
  · decide +kernel

end CxxWriter
