/-
  Output is indented as it is nested.

  * `IsStatement t`: a text on a single line that has ink, does not start like a
    directive, and closes the delimiters that it opens;
  * `Outline.Settles`: the lines of an outline close what they open, at any depth
    of nesting.  So do operations that are given statements, and names without
    delimiters (`Op.isRegular`), if statements are all there is in the trees
    that they write: `Op.settles_both`;
  * `Op.addsStatements_both`: nothing else becomes an element;
  * `indentation_follows_nesting`: in the text of a script, delimiters and guards
    are nested, and every line is indented by a tab for each open delimiter.
-/
import CxxWriter.Proofs.Building
import CxxWriter.Proofs.Listing
import CxxWriter.Proofs.Literal
import CxxWriter.Proofs.Nesting
import CxxWriter.Proofs.Root
import CxxWriter.Proofs.Tidy

namespace CxxWriter

open Block Text Scope
open Buffer (blockLines)

/-! ## Statements -/

namespace Scope

/-- Does a text, but for white space, start with something else than a `#`? -/
def startsPlain (t : List Char) : Bool := (trimStart isSpace t).head? != some '#'

/-- Is a text a single line with ink that closes what it opens, and is its start
    as `start` asks? -/
def isStatement (start : List Char → Bool) (t : List Char) : Bool :=
  !t.contains '\n' && t.any (!isSpace ·) && isNested t && start t

/-- Is a character neither a delimiter nor a line feed? -/
def isOnLine (c : Char) : Bool := c != '\n' && !isDelimiter c

/-- Does a single line have no delimiters? -/
def isUndelimited (t : List Char) : Bool := t.all isOnLine

/-- A single line with ink that closes what it opens and is no directive. -/
structure IsStatement (t : List Char) : Prop where
  line : '\n' ∉ t
  ink : ∃ c ∈ t, isSpace c = false
  nested : isNested t = true
  plain : startsPlain t = true

theorem isStatement_iff {t : List Char} : isStatement startsPlain t = true ↔ IsStatement t := by
  simp only [isStatement, Bool.and_eq_true, Bool.not_eq_true', List.contains_eq_mem, List.any_eq_true,
    decide_eq_false_iff_not]
  exact ⟨fun ⟨⟨⟨hl, hi⟩, hn⟩, hp⟩ => ⟨hl, hi, hn, hp⟩, fun ⟨hl, hi, hn, hp⟩ => ⟨⟨⟨hl, hi⟩, hn⟩, hp⟩⟩

section
variable {k depth : Nat} {st st' st'' : List Scope} {t u : List Char}

theorem isUndelimited_iff : isUndelimited t = true ↔ '\n' ∉ t ∧ ∀ c ∈ t, isDelimiter c = false := by
  simp only [isUndelimited, isOnLine, List.all_eq_true, Bool.and_eq_true, bne_iff_ne, Bool.not_eq_true']
  refine ⟨fun h => ⟨fun hn => (h _ hn).1 rfl, fun c hc => (h c hc).2⟩, fun h c hc => ⟨?_, h.2 c hc⟩⟩
  rintro rfl
  exact h.1 hc

/-- A text without delimiters is a statement, if it has ink and is no directive. -/
theorem IsStatement.of_undelimited (hp : isUndelimited t = true) (hi : ∃ c ∈ t, isSpace c = false)
    (hs : startsPlain t = true) : IsStatement t := by
  obtain ⟨hn, hd⟩ := isUndelimited_iff.1 hp
  exact ⟨hn, hi, beq_iff_eq.2 (afterText_plain [] hd), hs⟩

/-- A text does not start with a directive, if it does not start with a `#`. -/
theorem afterDirective_plain (h : startsPlain t = true) (st : List Scope) :
    afterDirective st (trimStart isBlank t) = some st := by
  have hno {w : List Char} (hw : w.head? = some '#') : ¬ w <+: trimStart isBlank t := by
    rintro ⟨r, hr⟩
    have hhash : (trimStart isBlank t).head? = some '#' := by rw [← hr, List.head?_append, hw, Option.some_or]
    have hblank : ∀ c ∈ t.takeWhile isBlank, isSpace c = true := fun c hc =>
      isSpace_of_isBlank (List.mem_takeWhile_imp hc)
    have hstart := dropWhile_around (p := isSpace) hblank ⟨'#', hhash, by decide⟩ []
    rw [List.append_nil, trimStart, List.takeWhile_append_dropWhile] at hstart
    rw [startsPlain, trimStart, hstart, ← trimStart, hhash] at h
    cases h
  rw [afterDirective, if_neg (hno rfl), if_neg (hno rfl)]

theorem closings_nested (h : isNested t = true) : closings (trimStart isBlank t) = 0 := by
  have hn := isNested_trimStart h
  cases ht : trimStart isBlank t with
  | nil => rfl
  | cons c r =>
    rw [ht] at hn
    obtain ⟨h₁, h₂⟩ := isNested_cons hn
    simp [closings, h₁, h₂]

theorem IsStatement.leads (h : IsStatement t) (st : List Scope) : Leads 0 st t st := by
  refine ⟨h.line, h.ink, closings_nested h.nested, ?_⟩
  rw [afterDirective_plain h.plain]
  exact afterText_nested st h.nested

namespace Leads

/-- A line may go on with a text that has no part in a directive. -/
theorem append (h : Leads k st t st') (hn : '\n' ∉ u) (hu : IsTail u)
    (hs : afterText st' u = some st'') : Leads k st (t ++ u) st'' := by
  obtain ⟨c, hc, hsolid⟩ := h.ink
  have hink : ∃ c ∈ t, isBlank c = false := by
    refine ⟨c, hc, ?_⟩
    rw [isSpace, Bool.or_eq_false_iff, Bool.or_eq_false_iff] at hsolid
    exact hsolid.1.1
  have hne := trimStart_ne_nil hink
  have htrim := trimStart_append hink u
  refine ⟨?_, ⟨c, List.mem_append_left u hc, hsolid⟩, ?_, ?_⟩
  · rw [List.mem_append, not_or]
    exact ⟨h.line, hn⟩
  · rw [htrim, closings_append hne, h.closings]
  · have hscopes := h.scopes
    rw [htrim, afterDirective_append st hu]
    obtain ⟨v, hv, hvt⟩ := Option.bind_eq_some_iff.1 hscopes
    rw [hv, Option.bind_some, afterText_append, hvt]
    exact hs

/-- A keyword in front of a name without delimiters, with a text behind it. -/
theorem named {t w n e : String} (h : Leads k st w.toList st') (hp : isUndelimited n.toList = true)
    (ht : t.toList = w.toList ++ ' ' :: (n.toList ++ e.toList)) (he : '\n' ∉ e.toList)
    (hs : afterText st' e.toList = some st'') : Leads k st t.toList st'' := by
  obtain ⟨hn, hd⟩ := isUndelimited_iff.1 hp
  rw [ht]
  refine h.append ?_ (isTail_cons (by decide) _) ?_
  · simp [hn, he]
  · rw [afterText_cons, afterChar_plain st' (by decide), Option.bind_some, afterText_append,
      afterText_plain st' hd]
    exact hs

theorem runs_alone (h : Leads k st t st') (hd : depth + k = levels st) :
    Runs st (blockLines depth ['\t'] t) st' := by
  have hrun := h.runs hd List.not_mem_nil isTail_nil rfl
  rwa [endWith_nil] at hrun

end Leads

end

end Scope

/-! ## Trees -/

/-- Is a tree made of brackets and of texts with a property? -/
inductive Tree.Made (P : String → Prop) : Tree → Prop
  | leaf {s : String} : P s → Made P (.leaf (.text s))
  | node (b : Brackets) {children : List Tree} : (∀ t ∈ children, Made P t) →
      Made P (.node b.opening b.closing children)

/-- A tree that is made of statements. -/
abbrev Tree.IsMade (t : Tree) : Prop := t.Made fun s => IsStatement s.toList

theorem leads_opening (b : Brackets) (st : List Scope) :
    Leads 0 st b.opening.toList (.bracketed b :: st) := by
  cases b <;> exact leads_of_eq rfl rfl rfl rfl

theorem leads_closing (b : Brackets) (st : List Scope) :
    Leads 1 (.bracketed b :: st) b.closing.toList st := by
  cases b <;> exact leads_of_eq rfl rfl rfl rfl

namespace Tree

theorem IsEnd.isTail {e : List Char} (h : IsEnd e) : IsTail e := by
  rcases h with rfl | rfl
  · exact isTail_nil
  · exact isTail_cons (by decide) _

theorem IsEnd.newline {e : List Char} (h : IsEnd e) : '\n' ∉ e := by
  rcases h with rfl | rfl <;> decide

theorem IsEnd.afterText {e : List Char} (h : IsEnd e) (st : List Scope) : afterText st e = some st := by
  rcases h with rfl | rfl <;> rfl

mutual

/-- An element is indented as it is nested, whether a comma follows or not. -/
theorem runs_layout : ∀ {t : Tree}, t.IsMade → ∀ {e : List Char}, IsEnd e → ∀ st : List Scope,
    Runs st (endWith e (t.layout (levels st) ['\t'])) st
  | .leaf v, h, e, he, st => by
    cases h with
    | @leaf s hs => exact (hs.leads st).runs rfl he.newline he.isTail (he.afterText st)
  | .node opening closing children, h, e, he, st => by
    cases h with
    | node b hc =>
      have hin := runs_layoutItems hc (.bracketed b :: st)
      rw [levels_bracketed] at hin
      rw [layout, endWith_append _ _ (Buffer.blockLines_ne_nil _ _ _)]
      refine (((leads_opening b st).runs_alone rfl).append hin).append ?_
      exact (leads_closing b st).runs (levels_bracketed b st).symm he.newline he.isTail (he.afterText st)

theorem runs_layoutItems : ∀ {ts : List Tree}, (∀ t ∈ ts, t.IsMade) → ∀ st : List Scope,
    Runs st (layoutItems (levels st) ['\t'] ts) st
  | [], _, st => .nil st
  | t :: ts, h, st => by
    have hend : ∃ e, IsEnd e ∧ (if ts.isEmpty then t.layout (levels st) ['\t']
        else withComma (t.layout (levels st) ['\t'])) = endWith e (t.layout (levels st) ['\t']) := by
      split
      · exact ⟨[], .inl rfl, (endWith_nil _).symm⟩
      · exact ⟨[','], .inr rfl, withComma_eq _⟩
    obtain ⟨e, he, hlines⟩ := hend
    rw [layoutItems, hlines]
    exact (runs_layout (h t List.mem_cons_self) he st).append
      (runs_layoutItems (fun u hu => h u (List.mem_cons_of_mem t hu)) st)

end

end Tree

/-! ## Outlines -/

namespace Outline

/-- Do the lines of an outline close what they open, and nothing else? -/
def Settles (o : Outline) : Prop := ∀ st, Runs st (o.lines (levels st) ['\t']) st

/-- Do the lines of an outline open a scope? -/
def Opens (s : Scope) (o : Outline) : Prop := ∀ st, Runs st (o.lines (levels st) ['\t']) (s :: st)

/-- Do the lines of an outline close a scope? -/
def Closes (s : Scope) (o : Outline) : Prop := ∀ st, Runs (s :: st) (o.lines (levels st) ['\t']) st

variable {o o' o₁ o₂ : Outline} {s : Scope}

theorem settles_nil : Settles [] := Runs.nil

theorem Settles.append (h : Settles o) (h' : Settles o') : Settles (o ++ o') := fun st => by
  rw [lines_append]
  exact (h st).append (h' st)

/-- What settles is indented in brackets, one level deeper. -/
theorem Settles.bracketed {b : Brackets} (h : Settles o) (ho : Opens (.bracketed b) o₁)
    (hc : Closes (.bracketed b) o₂) : Settles (o₁ ++ (deeper o ++ o₂)) := fun st => by
  have hin := h (.bracketed b :: st)
  rw [levels_bracketed, ← lines_deeper] at hin
  rw [lines_append, lines_append]
  exact (ho st).append (hin.append (hc st))

/-- Between guards it is not. -/
theorem Settles.guarded (h : Settles o) (ho : Opens .guarded o₁) (hc : Closes .guarded o₂) :
    Settles (o₁ ++ (o ++ o₂)) := fun st => by
  have hin := h (.guarded :: st)
  rw [levels_guarded] at hin
  rw [lines_append, lines_append]
  exact (ho st).append (hin.append (hc st))

theorem Closes.append (h : Closes s o) (h' : Settles o') : Closes s (o ++ o') := fun st => by
  rw [lines_append]
  exact (h st).append (h' st)

theorem runs_blocks {k depth : Nat} {st st' : List Scope} {t : String} (h : Leads k st t.toList st')
    (hd : depth + k = levels st) : Runs st (lines depth ['\t'] (blocks [t])) st' := by
  rw [blocks, List.map_singleton, lines_singleton]
  exact h.runs_alone hd

theorem settles_line {t : String} (h : ∀ st, Leads 0 st t.toList st) : Settles (blocks [t]) := fun st =>
  runs_blocks (h st) rfl

theorem settles_statement {t : String} (h : IsStatement t.toList) : Settles (blocks [t]) :=
  settles_line h.leads

theorem settles_separator : Settles (blocks [""]) := fun st => by
  have hline : blockLines (levels st) ['\t'] "".toList = [[]] := by
    show [trimEnd isSpace (copies (levels st) ['\t'] ++ [])] = [[]]
    rw [List.append_nil, trimEnd_eq_nil.2 (copies_space _)]
  rw [blocks, List.map_singleton, lines_singleton, Piece.lines, hline]
  exact runs_gap st

/-- The star of a comment, with a text behind it. -/
theorem runs_star {e : List Char} (hn : '\n' ∉ e) (he : IsTail e) (hp : ∀ c ∈ e, isDelimiter c = false)
    (st : List Scope) : Runs st [copies (levels st) ['\t'] ++ (" *".toList ++ e)] st := by
  refine Scope.runs_line ⟨' ', rfl, by decide⟩ ?_ ?_ ?_
  · rw [List.mem_append, not_or]
    exact ⟨by decide, hn⟩
  · rw [closings_append (by decide)]
    rfl
  · rw [afterDirective_append st he]
    exact (afterText_append st _ e).trans (afterText_plain st hp)

/-- A comment has no delimiters, on however many lines. -/
theorem settles_comment {t : String} (h : ∀ c ∈ t.toList, isDelimiter c = false) :
    Settles [(0, .comment t)] := fun st => by
  have hopen : Leads 0 st "/*".toList st := leads_of_eq rfl rfl rfl rfl
  have hslash : ∀ c ∈ ['/'], isDelimiter c = false := fun c hc => by
    rw [List.mem_singleton.1 hc]
    rfl
  have hlast := runs_star (by decide) (isTail_cons (by decide) _) hslash st
  rw [lines_singleton, Piece.lines]
  refine ((hopen.runs_alone rfl).append (.of_forall fun l hl => ?_)).append hlast
  obtain ⟨m, hm, rfl⟩ := List.mem_map.1 hl
  -- White space is dropped behind the star, but never the star.
  have hstar : trimEnd isSpace (copies (levels st) ['\t'] ++ " *".toList) =
      copies (levels st) ['\t'] ++ " *".toList := by
    rw [trimEnd_append, if_neg (by decide)]
    rfl
  have hline : leadLine (copies (levels st) ['\t'] ++ " * ".toList) m =
      copies (levels st) ['\t'] ++ (" *".toList ++ trimEnd isSpace (' ' :: m)) := by
    have hsplit : copies (levels st) ['\t'] ++ " * ".toList ++ m =
        (copies (levels st) ['\t'] ++ " *".toList) ++ (' ' :: m) := by simp
    rw [leadLine, hsplit, trimEnd_append]
    split
    · next he => rw [he, hstar, List.append_nil]
    · rw [List.append_assoc]
  rw [hline]
  have hmem {c : Char} (hc : c ∈ trimEnd isSpace (' ' :: m)) : c = ' ' ∨ c ∈ m :=
    List.mem_cons.1 (mem_of_mem_trimEnd hc)
  refine runs_star (fun hc => ?_) (fun c hc => ?_) (fun c hc => ?_) st
  · rcases hmem hc with hc | hc
    · cases hc
    · exact not_mem_of_mem_lines hm hc
  · obtain ⟨e, -, he⟩ := exists_trimEnd isSpace (' ' :: m)
    have hfirst : (' ' :: m).head? = some c := by rw [he, List.head?_append, hc, Option.some_or]
    cases hfirst
    decide
  · rcases hmem hc with rfl | hc
    · rfl
    · exact h c (mem_of_mem_unindent hm hc)

/-- A declaration with a tree as its value. -/
theorem settles_assignment {declaration opening closing : String} {children : List Tree}
    (h : IsStatement declaration.toList) (ht : (Tree.node opening closing children).IsMade) :
    Settles [(0, .assignment declaration opening closing children)] := fun st => by
  cases ht with
  | node b hc =>
    have hlead : Leads 0 st (declaration ++ " =").toList st := by
      rw [String.toList_append]
      exact (h.leads st).append (by decide) (isTail_cons (by decide) _) rfl
    have hopening : '\n' ∉ ' ' :: b.opening.toList ∧
        afterText st (' ' :: b.opening.toList) = some (.bracketed b :: st) := by
      cases b <;> exact ⟨by decide, rfl⟩
    have hin := Tree.runs_layoutItems hc (.bracketed b :: st)
    rw [levels_bracketed] at hin
    rw [lines_singleton, Piece.lines]
    refine ((hlead.runs rfl hopening.1 (isTail_cons (by decide) _) hopening.2).append hin).append ?_
    exact (leads_closing b st).runs (levels_bracketed b st).symm (by decide) (isTail_cons (by decide) _) rfl

end Outline

/-! ## Declarations -/

namespace Declaration

variable {s : String} {d : Declaration}

/-- The signature of a plain declaration is a statement. -/
theorem isStatement_signature (hp : isUndelimited s.toList = true) (hd : split? s = some d) :
    IsStatement d.signature.toList := by
  have hplain := (within_split (q := isOnLine) (by decide) (List.all_eq_true.1 hp) hd).2
  refine .of_undelimited (List.all_eq_true.2 hplain) ?_ ?_
  all_goals
    obtain ⟨⟨before, name, rest⟩, hc, rfl⟩ := Option.map_eq_some_iff.1 hd
    rw [String.toList_ofList]
  · exact ⟨'(', mem_trim (List.mem_append_right _ List.mem_cons_self) rfl, rfl⟩
  · obtain ⟨u, -, hu⟩ := exists_of_firstCall? hc
    obtain ⟨rfl, -⟩ := eq_of_call? hu
    rw [startsPlain, head?_trimStart_trim, bne_iff_ne]
    intro hhash
    rcases head?_trimStart_append rfl hhash with hm | hm
    · exact absurd (List.mem_takeWhile_imp hm) (by decide)
    · cases hm

/-- So is its return type, if there is one. -/
theorem isStatement_returnType (hp : isUndelimited s.toList = true) (hs : startsPlain s.toList = true)
    (hd : split? s = some d) (hne : d.returnType ≠ "") : IsStatement d.returnType.toList := by
  have hplain := (within_split (q := isOnLine) (by decide) (List.all_eq_true.1 hp) hd).1
  obtain ⟨⟨before, name, rest⟩, hc, rfl⟩ := Option.map_eq_some_iff.1 hd
  rw [Ne, ← String.toList_inj, String.toList_ofList, ← Ne] at hne
  rw [Within, String.toList_ofList] at hplain
  rw [String.toList_ofList]
  have hlast := List.getLast?_eq_some_getLast hne
  have hmem := List.mem_of_getLast? hlast
  have hsolid : isSpace _ = false := getLast?_trimEnd hlast
  refine .of_undelimited (List.all_eq_true.2 hplain) ⟨_, hmem, hsolid⟩ ?_
  -- The return type is what the declaration starts with.
  obtain ⟨r, hr, -⟩ := exists_of_firstCall? hc
  have hink : ∃ c ∈ before, isSpace c = false :=
    ⟨_, (List.dropWhile_suffix _).subset (mem_of_mem_trimEnd hmem), hsolid⟩
  have hstart := trimStart_append hink r
  rw [← hr] at hstart
  rw [startsPlain, hstart, List.head?_append_of_ne_nil _ (trimStart_ne_nil hink)] at hs
  rw [startsPlain, head?_trimStart_trim]
  exact hs

end Declaration

/-! ## Operations -/

namespace Op

open Outline (Settles Opens Closes blocks settles_nil settles_line settles_statement settles_separator
  settles_comment settles_assignment runs_blocks)

/-- Is an operation given statements, and names without delimiters?  It neither
    indents anything itself nor continues a line. -/
def isRegular (start : List Char → Bool) : Op → Bool
  | .emit code | .declare code | .declareInitializer code _ | .element _ code =>
    isStatement start code.source.toList
  | .declareValue declaration value =>
    isStatement start declaration.source.toList && isStatement start value.source.toList
  | .function declaration _ =>
    isStatement start declaration.source.toList && isUndelimited declaration.source.toList
  | .stringElement _ text => isNested (Literal.ofString text.source).toList
  | .comment text => text.source.toList.all (!isDelimiter ·)
  | .guarded name _ | .struct name _ | .typedefStruct name _ => isUndelimited name.source.toList
  | .noted .. | .newline | .separator | .snapshot | .state | .literal _ | .beginInitializer ..
  | .nested .. | .nestedWith .. | .elementCount _ | .isRoot _ | .treeOf _ => true
  | _ => false

theorem isLined_of_isRegular {start : List Char → Bool} {op : Op} (h : op.isRegular start = true) :
    op.isLined = true := by
  cases op <;> first | rfl | cases h

variable {s : Session} {op : Op}

/-- Operations without others in them. -/
theorem settles_simple (hs : op.isSimple = true) (hp : op.isRegular startsPlain = true)
    (ht : ∀ t ∈ Outline.trees (op.outline s), t.IsMade) : Settles (op.outline s) := by
  cases op with
  | emit code =>
    rw [outline]
    exact settles_statement (isStatement_iff.1 hp)
  | declare declaration =>
    rw [outline]
    refine settles_line fun st => ?_
    rw [String.toList_append]
    exact ((isStatement_iff.1 hp).leads st).append (by decide) (isTail_cons (by decide) _) rfl
  | declareValue declaration value =>
    rw [isRegular, Bool.and_eq_true, isStatement_iff, isStatement_iff] at hp
    rw [outline]
    refine settles_line fun st => ?_
    have htext : (declaration.source ++ " = " ++ value.source ++ ";").toList =
        declaration.source.toList ++ (" = ".toList ++ (value.source.toList ++ ";".toList)) := by simp
    have hvalue : afterText st (" = ".toList ++ (value.source.toList ++ ";".toList)) = some st := by
      have hequals : afterText st " = ".toList = some st := rfl
      rw [afterText_append, hequals, Option.bind_some, afterText_append, afterText_nested st hp.2.nested]
      rfl
    rw [htext]
    exact (hp.1.leads st).append (by simp [hp.2.line]) (isTail_cons (by decide) _) hvalue
  | declareInitializer declaration handle =>
    rw [outline] at ht ⊢
    cases htree : s.treeOf handle with
    | leaf v => exact settles_nil
    | node opening closing children =>
      rw [htree] at ht
      exact settles_assignment (isStatement_iff.1 hp) (ht _ List.mem_cons_self)
  | comment text =>
    rw [outline]
    exact settles_comment (by simpa [isRegular] using hp)
  | separator =>
    rw [outline]
    exact settles_separator
  | newline =>
    rw [outline]
    exact runs_gap
  | noted | guarded | struct | typedefStruct | function | nestedWith => cases hs
  | snapshot | state | literal | beginInitializer | element | stringElement | nested | elementCount
  | isRoot | treeOf => exact settles_nil
  | _ => cases hp

/-- A declaration is split, or nothing is known of its parts. -/
theorem split?_source (v : Value) :
    Declaration.split? v.source = some v.declaration ∨ v.declaration = ⟨"", "", ""⟩ := by
  unfold Value.source Value.declaration
  cases v.fragment? with
  | none => exact .inr rfl
  | some t =>
    rw [Option.bind_some, Option.getD_some]
    cases Declaration.split? t with
    | none => exact .inr rfl
    | some d => exact .inl rfl

theorem settles_function {declaration : Value} {o : Outline}
    (hs : isStatement startsPlain declaration.source.toList = true)
    (hp : isUndelimited declaration.source.toList = true) (ho : Settles o) :
    Settles (.returnType declaration.declaration ++
      (blocks [declaration.declaration.signature ++ " \x7b"] ++ (Outline.deeper o ++ blocks ["\x7d", ""]))) := by
  have hclose : Closes (.bracketed .struct) (blocks ["\x7d"] ++ blocks [""]) :=
    Closes.append (fun st => runs_blocks (leads_closing .struct st) (levels_bracketed _ st).symm)
      settles_separator
  rcases split?_source declaration with hd | hd
  · have hsig := Declaration.isStatement_signature hp hd
    refine Settles.append ?_ (ho.bracketed (b := .struct) (fun st => ?_) hclose)
    · unfold Outline.returnType
      split
      · exact settles_nil
      · next hne =>
        refine settles_statement ?_
        refine Declaration.isStatement_returnType hp (isStatement_iff.1 hs).plain hd fun he => hne ?_
        rw [he]
        rfl
    · have hlead : Leads 0 st (declaration.declaration.signature ++ " \x7b").toList
          (.bracketed .struct :: st) := by
        rw [String.toList_append]
        exact (hsig.leads st).append (by decide) (isTail_cons (by decide) _) rfl
      exact runs_blocks hlead rfl
  · rw [hd]
    refine settles_nil.append (ho.bracketed (b := .struct) (fun st => ?_) hclose)
    have hlead : Leads 0 st " \x7b".toList (.bracketed .struct :: st) :=
      leads_of_eq rfl rfl rfl rfl
    exact runs_blocks hlead rfl

/-- Operations around a body. -/
theorem settles_compound (hc : op.isCompound = true) (hp : op.isRegular startsPlain = true)
    (hb : ∀ s, (∀ t ∈ Outline.trees (outlines op.body s), t.IsMade) → Settles (outlines op.body s))
    (ht : ∀ t ∈ Outline.trees (op.outline s), t.IsMade) : Settles (op.outline s) := by
  cases op with
  | guarded name body =>
    rw [outline] at ht ⊢
    simp only [Outline.trees_append, List.mem_append] at ht
    have hopen : Opens .guarded (blocks ["#ifndef " ++ name.source]) := fun st =>
      have hlead : Leads 0 st "#ifndef".toList (.guarded :: st) := leads_of_eq rfl rfl rfl rfl
      runs_blocks (hlead.named (e := "") hp (by simp) (by decide) rfl) rfl
    have hdefine : Settles (blocks ["#define " ++ name.source]) := settles_line fun st =>
      have hlead : Leads 0 st "#define".toList st := leads_of_eq rfl rfl rfl rfl
      hlead.named (e := "") hp (by simp) (by decide) rfl
    have hclose : Closes .guarded (blocks ["#endif /* " ++ name.source ++ " */"]) := fun st =>
      have hlead : Leads 0 (.guarded :: st) "#endif /*".toList st := leads_of_eq rfl rfl rfl rfl
      runs_blocks (hlead.named (e := " */") hp (by simp) (by decide) rfl) (levels_guarded st).symm
    have hbody : Settles (outlines body s) := hb s fun t h => ht t (.inr (.inl h))
    have hall := (hdefine.append (settles_separator.append (hbody.append settles_separator))).guarded hopen hclose
    simpa [blocks] using hall
  | struct name body =>
    rw [outline] at ht ⊢
    simp only [Outline.trees_append, Outline.trees_deeper, List.mem_append] at ht
    have hopen : Opens (.bracketed .struct) (blocks ["struct " ++ name.source ++ " \x7b"]) := fun st =>
      have hlead : Leads 0 st "struct".toList st := leads_of_eq rfl rfl rfl rfl
      runs_blocks (hlead.named (e := " \x7b") hp (by simp) (by decide) rfl) rfl
    have hclose : Closes (.bracketed .struct) (blocks ["\x7d;"]) := fun st =>
      have hlead : Leads 1 (.bracketed .struct :: st) "\x7d;".toList st := leads_of_eq rfl rfl rfl rfl
      runs_blocks hlead (levels_bracketed _ st).symm
    exact (hb s fun t h => ht t (.inr (.inl h))).bracketed hopen hclose
  | typedefStruct name body =>
    rw [outline] at ht ⊢
    simp only [Outline.trees_append, Outline.trees_deeper, List.mem_append] at ht
    have hopen : Opens (.bracketed .struct) (blocks ["typedef struct \x7b"]) := fun st =>
      have hlead : Leads 0 st "typedef struct \x7b".toList (.bracketed .struct :: st) :=
        leads_of_eq rfl rfl rfl rfl
      runs_blocks hlead rfl
    have hclose : Closes (.bracketed .struct) (blocks ["\x7d " ++ name.source ++ ";"]) := fun st =>
      runs_blocks ((leads_closing .struct st).named (e := ";") hp (by simp [Brackets.closing]) (by decide) rfl)
        (levels_bracketed _ st).symm
    exact (hb s fun t h => ht t (.inr (.inl h))).bracketed hopen hclose
  | function declaration body =>
    rw [isRegular, Bool.and_eq_true] at hp
    rw [outline] at ht ⊢
    simp only [Outline.trees_append, Outline.trees_deeper, List.mem_append] at ht
    exact settles_function hp.1 hp.2 (hb s fun t h => ht t (.inr (.inr (.inl h))))
  | nestedWith handle brackets child body =>
    rw [outline] at ht ⊢
    exact hb _ ht
  | indented | attempt | constructor | declareWith | initializer => cases hp
  | _ => cases hc

/-- **What regular operations write settles**, if the trees that they write are
    made of statements.  So does what a body of them writes. -/
theorem settles_both :
    (∀ op : Op, op.everywhere (isRegular startsPlain) = true → ∀ s,
      (∀ t ∈ Outline.trees (op.outline s), t.IsMade) → Settles (op.outline s)) ∧
    ∀ ops : List Op, allEverywhere (isRegular startsPlain) ops = true → ∀ s,
      (∀ t ∈ Outline.trees (outlines ops s), t.IsMade) → Settles (outlines ops s) := by
  refine Op.induction_everywhere ?noted ?compound ?simple ?nil ?cons
  case noted =>
    intro label op ih s ht
    rw [outline] at ht ⊢
    exact ih s ht
  case compound => exact fun op hc hp ih s ht => settles_compound hc hp ih ht
  case simple => exact fun op hs hp s ht => settles_simple hs hp ht
  case nil => exact fun _ _ => settles_nil
  case cons =>
    intro op ops _ ih ihs s ht
    rw [outlines, Outline.trees_append] at ht
    rw [outlines]
    exact (ih s fun t h => ht t (List.mem_append_left _ h)).append
      (ihs _ fun t h => ht t (List.mem_append_right _ h))

/-! ## Elements -/

/-- Are all texts that become elements statements? -/
def AddsStatements (es : List Event) : Prop :=
  ∀ place t, .accepted place (.text t) ∈ es → IsStatement t.toList

theorem addsStatements_append {es fs : List Event} (h : AddsStatements es) (h' : AddsStatements fs) :
    AddsStatements (es ++ fs) := fun place t ht =>
  (List.mem_append.1 ht).elim (h place t) (h' place t)

theorem addsStatements_elementEvents {s : Session} {handle : String} {text : Option String}
    (h : ∀ t, text = some t → IsStatement t.toList) : AddsStatements (elementEvents s handle text) := by
  intro place t ht
  unfold elementEvents at ht
  split at ht
  · cases List.mem_singleton.1 ht
    exact h t rfl
  · cases ht

theorem addsStatements_attachEvents (s : Session) (handle : String) :
    AddsStatements (attachEvents s handle) := by
  intro place t ht
  unfold attachEvents at ht
  split at ht
  · cases List.mem_singleton.1 ht
  · cases ht

theorem addsStatements_openingEvents (op : Op) (s : Session) : AddsStatements (op.openingEvents s) := by
  intro place t ht
  unfold openingEvents at ht
  split at ht
  · cases List.mem_singleton.1 ht
  · cases List.mem_singleton.1 ht
  · cases ht

theorem addsStatements_endingEvents (op : Op) (s : Session) (outcome : Except Error Unit) :
    AddsStatements (op.endingEvents s outcome) := by
  unfold endingEvents
  split
  · exact addsStatements_attachEvents s _
  · intro place t ht
    cases List.mem_singleton.1 ht
  · exact fun _ _ h => absurd h List.not_mem_nil

/-- A literal that closes what it opens is a statement. -/
theorem isStatement_literal {v : String} (h : isNested (Literal.ofString v).toList = true) :
    IsStatement (Literal.ofString v).toList := by
  rw [Literal.ofString, String.toList_ofList] at h ⊢
  exact ⟨(Literal.bare_quoted v.toList).line, ⟨'"', List.mem_cons_self, rfl⟩, h, rfl⟩

theorem addsStatements_ownEvents {s : Session} {op : Op} (hp : op.isRegular startsPlain = true) :
    AddsStatements (op.ownEvents s) := by
  have hnone : AddsStatements [] := fun _ _ h => absurd h List.not_mem_nil
  cases op with
  | element handle code =>
    refine addsStatements_elementEvents fun t ht => ?_
    have hsource : code.source = t := by rw [Value.source, ht]; rfl
    rw [← hsource]
    exact isStatement_iff.1 hp
  | stringElement handle text =>
    refine addsStatements_elementEvents fun t ht => ?_
    obtain ⟨v, hv, rfl⟩ := Option.map_eq_some_iff.1 ht
    have hsource : text.source = v := by rw [Value.source, hv]; rfl
    rw [isRegular, hsource] at hp
    exact isStatement_literal hp
  | nested handle brackets child =>
    intro place t ht
    rcases List.mem_cons.1 ht with ht | ht
    · cases ht
    · exact addsStatements_attachEvents s handle place t ht
  | beginInitializer brackets handle =>
    intro place t ht
    cases List.mem_singleton.1 ht
  | _ => exact hnone

/-- Nothing but statements becomes an element. -/
theorem addsStatements_both :
    (∀ op : Op, op.everywhere (isRegular startsPlain) = true → ∀ s, AddsStatements (op.events s)) ∧
    ∀ ops : List Op, allEverywhere (isRegular startsPlain) ops = true →
      ∀ s, AddsStatements (allEvents ops s) := by
  have hnone : AddsStatements [] := fun _ _ h => absurd h List.not_mem_nil
  refine Op.induction_everywhere ?noted ?compound ?simple ?nil ?cons
  case noted => exact fun label op ih s => ih s
  case compound =>
    intro op hc hp ih s
    rw [events_compound hc]
    rcases op.opening.apply s with ⟨_ | _, t⟩
    · exact hnone
    · exact addsStatements_append (addsStatements_append (addsStatements_openingEvents op s) (ih t))
        (addsStatements_endingEvents op s _)
  case simple =>
    intro op hs hp s
    rw [events_simple hs]
    split
    · exact addsStatements_ownEvents hp
    · exact hnone
  case nil => exact fun _ => hnone
  case cons =>
    intro op ops _ ih ihs s
    rw [allEvents]
    refine addsStatements_append (ih s) ?_
    rcases op.perform.apply s with ⟨_ | _, t⟩
    · exact hnone
    · exact ihs t

end Op

/-! ## The text of a script -/

namespace Forest

/-- Has a text that is an element of a composite this property? -/
def Holds (P : String → Prop) (f : Forest) : Prop :=
  ∀ p c t, f.get? p = some c → .text t ∈ c.elements → P t

variable {P : String → Prop} {f g : Forest}

/-- Elements are never removed. -/
theorem Becomes.holds (h : f.Becomes g) (hg : g.Holds P) : f.Holds P := by
  obtain ⟨blocks, hl⟩ := h
  intro p c t hc ht
  obtain ⟨d, hd, -, -, hpre, -⟩ := hl hc
  exact hg p d t hd (hpre.subset ht)

theorem WrittenTo.made {t : Tree} (h : f.WrittenTo g t) (hg : g.Holds P) : t.Made P := by
  obtain ⟨m, p, -, hroot, -, rfl, hmg⟩ := h
  have hp : p < (m.close p).size := by
    obtain ⟨c, hc, -⟩ := (Option.any_eq_true _ _).1 hroot
    rw [size_close]
    exact (List.getElem?_eq_some_iff.1 hc).1
  exact tree_induction (m.close p) (fun hc ht => .leaf (hmg.holds hg _ _ _ hc ht))
    (fun b _ h => .node b h) p hp

end Forest

theorem Printed.text_start {library : TemplateLibrary} {config : Config} {files : Files} {log : Log}
    {o : Outline} {s : Session} (h : Printed o (.start library config "\t" files log) s) :
    s.buffer.text.toList = ended (o.lines (levels []) ['\t']) := by
  have hstart : (Session.start library config "\t" files log).buffer = .empty "\t" := rfl
  have hempty : (Buffer.empty "\t").text.toList = [] := rfl
  have hunit : (Buffer.empty "\t").unit.toList = ['\t'] := by decide
  rw [h.text, hstart, hempty, hunit, List.nil_append]
  rfl

/-- **Output is indented as it is nested.**  Take a script that is given statements,
    and names without delimiters, and that ends well.  In its text, brackets close
    what they open, and so do guards; every line that is not empty is indented by a
    tab for each delimiter that is open, unless the line starts with closing it. -/
theorem indentation_follows_nesting (library : TemplateLibrary) (config : Config) (files : Files)
    (log : Log) {ops : List Op} (hp : Op.allEverywhere (Op.isRegular startsPlain) ops = true)
    {s : Session} (hok : (Op.performAll ops).apply (.start library config "\t" files log) = (.ok (), s)) :
    afterLines [] (lines s.buffer.text.toList) = some [] ∧
      ∀ pre l post, lines s.buffer.text.toList = pre ++ l :: post →
        ∃ st, afterLines [] pre = some st ∧ IsIndented st l := by
  have hl : Op.allEverywhere Op.isLined ops = true :=
    (Op.everywhere_mono fun _ => Op.isLined_of_isRegular).2 ops hp
  have hready : (Session.start library config "\t" files log).IsReady := by
    refine ⟨rfl, ?_⟩
    show '\n' ∉ "\t".toList
    decide
  have hprinted := Op.prints_both.2 ops hl _ (.refl _) hready hok
  have hholds : s.forest.Holds fun t => IsStatement t.toList := by
    have hsound := Op.sound_events.2 ops (Session.Sound.start library config "\t" files log)
    rw [hok] at hsound
    intro p c t hc ht
    rw [hsound.forest.elements hc] at ht
    exact Op.addsStatements_both.2 ops hp _ p t (mem_accepted.1 ht)
  have hruns := Op.settles_both.2 ops hp _ (fun t ht => (hprinted.trees t ht).made hholds) []
  have hall := hruns.append (runs_gap [])
  have htext := lines_ended hruns.newline
  rw [← hprinted.text_start] at htext
  rw [htext]
  exact ⟨hall.afterLines, fun pre l post h => hall.indented h⟩

/-- A guarded header with a structure, a comment, a function, and a nested
    initializer behind a declaration. -/
theorem indentation_follows_nesting_header :
    let ops : List Op := [.guarded (.text "G") [
      .struct (.text "S") [.comment (.text "a"), .declare (.text "int x[2]")],
      .function (.text "static void f(int y)") [.emit (.text "  g(y); "), .beginInitializer .array "a",
        .element "a" (.text "1"), .nestedWith "a" .struct "b" [.stringElement "b" (.text "#")],
        .separator, .declareInitializer (.text "int v[]") "a"],
      .typedefStruct (.text "T") [.declareValue (.text "int z") (.text "1")]]]
    ∃ s, Op.allEverywhere (Op.isRegular startsPlain) ops = true ∧
      (Op.performAll ops).apply (.start .empty Config.default "\t" Files.empty []) = (.ok (), s) ∧
      afterLines [] (lines s.buffer.text.toList) = some [] ∧
      ∀ pre l post, lines s.buffer.text.toList = pre ++ l :: post →
        ∃ st, afterLines [] pre = some st ∧ IsIndented st l := by
  intro ops
  have hp : Op.allEverywhere (Op.isRegular startsPlain) ops = true := by decide +kernel
  have h : ((Op.performAll ops).apply (.start .empty Config.default "\t" Files.empty [])).1.isOk = true := by
    decide +kernel
  rcases e : (Op.performAll ops).apply (.start .empty Config.default "\t" Files.empty []) with ⟨_ | _, s⟩
  · rw [e] at h
    cases h
  · exact ⟨s, hp, rfl, indentation_follows_nesting .empty Config.default Files.empty [] hp e⟩

/-- It is not enough that fragments start with other characters than a `#`: a
    space in front of a directive is dropped, and the directive is written. -/
theorem directive_behind_space :
    let s := Session.start .empty Config.default "\t" Files.empty []
    let ops : List Op := [.emit (.text " #endif")]
    Op.allEverywhere (Op.isRegular fun t => t.head? != some '#') ops = true ∧
      ((Op.performAll ops).apply s).1.isOk = true ∧
      ((Op.performAll ops).apply s).2.buffer.text = "#endif\n" ∧
      afterLines [] (lines ((Op.performAll ops).apply s).2.buffer.text.toList) = none := by
  decide +kernel

end CxxWriter
