/-
  Written trees can be read back.

  * `IsListing`: the trees between brackets whose leaves are single lines that
    do not look like anything else on a line;
  * `read?` reads a tree from its text: it takes no notice of what stands in
    front of the lines;
  * `written_reads_back`: what is written for such a tree is read as the tree.
-/
import CxxWriter.Initializer.Forest
import CxxWriter.Proofs.Layout

namespace CxxWriter.Tree

open Block Buffer Text

/-! ## Reading -/

/-- A composite that is being read. -/
structure Partial where
  brackets : Brackets
  elements : List Tree

namespace Partial

/-- The composite with an element more. -/
def add (p : Partial) (t : Tree) : Partial := { p with elements := p.elements ++ [t] }

/-- The composite as a tree. -/
def tree (p : Partial) : Tree := .node p.brackets.opening p.brackets.closing p.elements

end Partial

/-- The brackets that a line opens. -/
def opened? (l : List Char) : Option Brackets :=
  [Brackets.array, Brackets.struct].find? (·.opening.toList = l)

/-- The brackets that a line closes. -/
def closed? (l : List Char) : Option Brackets :=
  [Brackets.array, Brackets.struct].find? (·.closing.toList = l)

/-- A line without the comma at its end. -/
def dropComma (l : List Char) : List Char := if l.getLast? = some ',' then l.dropLast else l

/-- Reads lines up to the end of the outermost of the composites that are being
    read, the innermost of which is first. -/
def readLines : List (List Char) → List Partial → Option Tree
  | [], _ => none
  | l :: ls, ps =>
    match opened? l, ps with
    | some b, ps => readLines ls (⟨b, []⟩ :: ps)
    | none, [] => none
    | none, p :: ps =>
      match closed? (dropComma l) with
      | none => readLines ls (p.add (.leaf (.text (String.ofList (dropComma l)))) :: ps)
      | some b =>
        if b = p.brackets then
          match ps with
          | [] => if ls.isEmpty then some p.tree else none
          | q :: qs => readLines ls (q.add p.tree :: qs)
        else none

/-- Reads a tree. -/
def read? (s : String) : Option Tree := readLines ((lines s.toList).map (trimStart isSpace)) []

/-! ## What can be read back -/

/-- The lines that open or close a composite. -/
def delimiters : List (List Char) :=
  [Brackets.array, Brackets.struct].flatMap fun b => [b.opening.toList, b.closing.toList]

/-- Is a text a single line, without white space at its ends, that neither ends
    in a comma nor is a delimiter? -/
structure IsEntry (l : List Char) : Prop where
  line : '\n' ∉ l
  first : ∃ c, l.head? = some c ∧ isSpace c = false
  last : ∀ c, l.getLast? = some c → isSpace c = false ∧ c ≠ ','
  ne_delimiter : l ∉ delimiters

theorem isEntry_iff {l : List Char} :
    IsEntry l ↔ '\n' ∉ l ∧ l.head?.any (!isSpace ·) ∧
      l.getLast?.all (fun c => !isSpace c && c != ',') ∧ l ∉ delimiters := by
  constructor
  · rintro ⟨hn, ⟨c, hc, hs⟩, hl, hd⟩
    refine ⟨hn, by simp [hc, hs], ?_, hd⟩
    cases ha : l.getLast? with
    | none => rfl
    | some a => simpa using hl a ha
  · rintro ⟨hn, hh, hl, hd⟩
    obtain ⟨c, hc, hs⟩ := (Option.any_eq_true _ _).1 hh
    refine ⟨hn, ⟨c, hc, by simpa using hs⟩, fun a ha => ?_, hd⟩
    rw [ha] at hl
    simpa using hl

instance (l : List Char) : Decidable (IsEntry l) := decidable_of_iff _ isEntry_iff.symm

mutual

/-- Is a tree made of brackets and entries? -/
def IsListing : Tree → Prop
  | .leaf v => ∃ s, v = .text s ∧ IsEntry s.toList
  | .node opening closing children =>
    (∃ b : Brackets, opening = b.opening ∧ closing = b.closing) ∧ AreListings children

/-- Are trees made of brackets and entries? -/
def AreListings : List Tree → Prop
  | [] => True
  | t :: ts => t.IsListing ∧ AreListings ts

end

mutual

theorem IsListing.refusal? : ∀ {t : Tree}, t.IsListing → t.refusal? = none
  | .leaf _, h => by
    rw [IsListing] at h
    obtain ⟨s, rfl, -⟩ := h
    rfl
  | .node _ _ _, h => by
    rw [IsListing] at h
    exact AreListings.refusals? h.2

theorem AreListings.refusals? : ∀ {ts : List Tree}, AreListings ts → Tree.refusals? ts = none
  | [], _ => rfl
  | _ :: _, h => by
    rw [AreListings] at h
    rw [Tree.refusals?, h.1.refusal?, AreListings.refusals? h.2]
    rfl

end

/-! ## Reading what was written -/

theorem IsEntry.bare {l : List Char} (h : IsEntry l) : IsBare l :=
  ⟨h.line, h.first, fun c hc => (h.last c hc).1⟩

/-- It can be told from what stands in front of it. -/
theorem IsBare.trimStart_append {l : List Char} (h : IsBare l) {lead : List Char}
    (hm : ∀ c ∈ lead, isSpace c = true) (e : List Char) :
    Text.trimStart isSpace (lead ++ (l ++ e)) = l ++ e := by
  obtain ⟨c, hc, hs⟩ := h.first
  obtain ⟨r, rfl⟩ : ∃ r, l = c :: r := by
    cases l with
    | nil => cases hc
    | cons a r => cases hc; exact ⟨r, rfl⟩
  rw [Text.trimStart, List.dropWhile_append_of_pos hm]
  simp [hs]

theorem opened?_opening (b : Brackets) : opened? b.opening.toList = some b := by
  cases b <;> decide

theorem closed?_closing (b : Brackets) : closed? b.closing.toList = some b := by
  cases b <;> decide

theorem opened?_closing (b : Brackets) (e : List Char) : opened? (b.closing.toList ++ e) = none := by
  cases b <;> simp [opened?, Brackets.opening, Brackets.closing]

theorem IsEntry.opened? {l : List Char} (h : IsEntry l) : opened? l = none := by
  have hl := h.ne_delimiter
  simp only [delimiters, List.flatMap_cons, List.flatMap_nil, List.append_nil, List.cons_append,
    List.nil_append, List.mem_cons, List.not_mem_nil, or_false, not_or] at hl
  simp [Tree.opened?, Ne.symm hl.1, Ne.symm hl.2.2.1]

theorem IsEntry.closed? {l : List Char} (h : IsEntry l) : closed? l = none := by
  have hl := h.ne_delimiter
  simp only [delimiters, List.flatMap_cons, List.flatMap_nil, List.append_nil, List.cons_append,
    List.nil_append, List.mem_cons, List.not_mem_nil, or_false, not_or] at hl
  simp [Tree.closed?, Ne.symm hl.2.1, Ne.symm hl.2.2.2]

theorem dropComma_comma (l : List Char) : dropComma (l ++ [',']) = l := by
  simp [dropComma]

/-- What may stand behind an element: nothing or a comma. -/
def IsEnd (e : List Char) : Prop := e = [] ∨ e = [',']

theorem IsEntry.dropComma {l e : List Char} (h : IsEntry l) (he : IsEnd e) :
    dropComma (l ++ e) = l := by
  rcases he with rfl | rfl
  · rw [List.append_nil]
    exact if_neg fun hl => (h.last _ hl).2 rfl
  · exact dropComma_comma l

theorem IsEntry.opened?_append {l e : List Char} (h : IsEntry l) (he : IsEnd e) :
    Tree.opened? (l ++ e) = none := by
  rcases he with rfl | rfl
  · rw [List.append_nil, h.opened?]
  · obtain ⟨c, hc, -⟩ := h.first
    cases l with
    | nil => cases hc
    | cons a r => simp [Tree.opened?, Brackets.opening]

theorem dropComma_closing (b : Brackets) {e : List Char} (he : IsEnd e) :
    dropComma (b.closing.toList ++ e) = b.closing.toList := by
  rcases he with rfl | rfl
  · cases b <;> decide
  · exact dropComma_comma _

theorem readLines_opening (b : Brackets) (ls : List (List Char)) (ps : List Partial) :
    readLines (b.opening.toList :: ls) ps = readLines ls (⟨b, []⟩ :: ps) := by
  simp [readLines, opened?_opening]

theorem readLines_entry {l e : List Char} (h : IsEntry l) (he : IsEnd e) (ls : List (List Char))
    (p : Partial) (ps : List Partial) :
    readLines ((l ++ e) :: ls) (p :: ps) =
      readLines ls (p.add (.leaf (.text (String.ofList l))) :: ps) := by
  simp [readLines, h.opened?_append he, h.dropComma he, h.closed?]

theorem readLines_closing (p : Partial) {e : List Char} (he : IsEnd e) (ls : List (List Char))
    (q : Partial) (qs : List Partial) :
    readLines ((p.brackets.closing.toList ++ e) :: ls) (p :: q :: qs) =
      readLines ls (q.add p.tree :: qs) := by
  simp [readLines, opened?_closing, dropComma_closing _ he, closed?_closing]

theorem readLines_last (p : Partial) :
    readLines [p.brackets.closing.toList] [p] = some p.tree := by
  have ho := opened?_closing p.brackets []
  have hd := dropComma_closing p.brackets (.inl rfl : IsEnd [])
  rw [List.append_nil] at ho hd
  simp [readLines, ho, hd, closed?_closing]

theorem exists_end {ls L : List (List Char)} {l : List Char}
    (h : L = ls ++ [l] ∨ L = withComma (ls ++ [l])) : ∃ e, IsEnd e ∧ L = ls ++ [l ++ e] := by
  rcases h with rfl | rfl
  · exact ⟨[], .inl rfl, by rw [List.append_nil]⟩
  · exact ⟨[','], .inr rfl, withComma_concat ls l⟩

section
variable {unit : List Char}

mutual

/-- The lines of an element are read as the element, whether a comma follows
    or not. -/
theorem readLines_layout {t : Tree} (h : t.IsListing) {depth : Nat}
    (hu : ∀ c ∈ unit, isSpace c = true) (ls : List (List Char)) (p : Partial) (ps : List Partial) :
    ∀ L, L = t.layout depth unit ∨ L = withComma (t.layout depth unit) →
      readLines (L.map (Text.trimStart isSpace) ++ ls) (p :: ps) = readLines ls (p.add t :: ps) := by
  have hlead : ∀ c ∈ copies depth unit, isSpace c = true := fun c hc => hu c (mem_of_mem_copies hc)
  match t with
  | .leaf v =>
    intro L hL
    rw [IsListing] at h
    obtain ⟨s, rfl, hs⟩ := h
    rw [layout, show (Value.text s).fragment?.getD "" = s from rfl, hs.bare.blockLines,
      ← List.nil_append [copies depth unit ++ s.toList]] at hL
    obtain ⟨e, he, rfl⟩ := exists_end hL
    rw [List.nil_append, List.map_singleton, List.append_assoc, hs.bare.trimStart_append hlead,
      List.singleton_append, readLines_entry hs he, String.ofList_toList]
  | .node opening closing children =>
    intro L hL
    rw [IsListing] at h
    obtain ⟨⟨b, rfl, rfl⟩, hc⟩ := h
    rw [layout, (bare_opening b).blockLines, (bare_closing b).blockLines] at hL
    obtain ⟨e, he, rfl⟩ := exists_end hL
    have ho : Text.trimStart isSpace (copies depth unit ++ b.opening.toList) = b.opening.toList := by
      simpa using (bare_opening b).trimStart_append hlead []
    rw [List.map_append, List.map_append, List.map_singleton, List.map_singleton, List.append_assoc _ _ e,
      (bare_closing b).trimStart_append hlead, ho, List.append_assoc, List.append_assoc,
      List.singleton_append, List.singleton_append, readLines_opening, readItems_layout hc (depth + 1) hu]
    exact readLines_closing ⟨b, children⟩ he ls p ps

/-- The lines of the elements of a node are read one element after the other. -/
theorem readItems_layout {ts : List Tree} (h : AreListings ts) (depth : Nat)
    (hu : ∀ c ∈ unit, isSpace c = true)
    (ls : List (List Char)) (p : Partial) (ps : List Partial) :
    readLines ((layoutItems depth unit ts).map (Text.trimStart isSpace) ++ ls) (p :: ps) =
      readLines ls ({ p with elements := p.elements ++ ts } :: ps) := by
  match ts with
  | [] => simp [layoutItems]
  | t :: ts =>
    rw [AreListings] at h
    have hL : (if ts.isEmpty then t.layout depth unit else withComma (t.layout depth unit)) =
          t.layout depth unit ∨
        (if ts.isEmpty then t.layout depth unit else withComma (t.layout depth unit)) =
          withComma (t.layout depth unit) := by
      cases ts.isEmpty <;> simp
    rw [layoutItems, List.map_append, List.append_assoc, readLines_layout h.1 hu _ _ _ _ hL,
      readItems_layout h.2 depth hu]
    simp [Partial.add]

end

end

/-- The lines of a composite are read as the composite. -/
theorem readLines_composite {b : Brackets} {ts : List Tree} (h : AreListings ts) (depth : Nat)
    {unit : List Char} (hu : ∀ c ∈ unit, isSpace c = true) :
    readLines (((node b.opening b.closing ts).layout depth unit).map (Text.trimStart isSpace)) [] =
      some (node b.opening b.closing ts) := by
  have hlead : ∀ c ∈ copies depth unit, isSpace c = true := fun c hc => hu c (mem_of_mem_copies hc)
  have ht {l : List Char} (hl : IsBare l) : Text.trimStart isSpace (copies depth unit ++ l) = l := by
    simpa using hl.trimStart_append hlead []
  rw [layout, (bare_opening b).blockLines, (bare_closing b).blockLines, List.map_append,
    List.map_append, List.map_singleton, List.map_singleton, ht (bare_opening b),
    ht (bare_closing b), List.append_assoc, List.singleton_append, readLines_opening,
    readItems_layout h (depth + 1) hu]
  exact readLines_last ⟨b, ts⟩

/-- Reading takes no notice of white space in front of a text. -/
theorem read?_margin {lead : List Char} (h : IsMargin lead) (s : String) :
    read? (String.ofList lead ++ s) = read? s := by
  obtain ⟨l, ls, hl⟩ := List.exists_cons_of_ne_nil (splitOn_ne_nil '\n' s.toList)
  have hlead : Text.trimStart isSpace (lead ++ l) = Text.trimStart isSpace l :=
    List.dropWhile_append_of_pos fun c hc => (h c hc).1
  rw [read?, read?, String.toList_append, String.toList_ofList, lines_append_of_not_mem h.newline hl,
    lines, hl, List.map_cons, List.map_cons, hlead]

section
variable {b : Brackets} {ts : List Tree} (h : AreListings ts) (depth : Nat) {unit : String}
  (hu : IsMargin unit.toList)
include h hu

theorem read?_shown :
    read? ((node b.opening b.closing ts).shown depth unit) = some (node b.opening b.closing ts) := by
  have hne := layout_ne_nil depth unit.toList (node b.opening b.closing ts)
  have hr : (node b.opening b.closing ts).refusal? = none := h.refusals?
  rw [read?, toList_shown _ depth hu.newline hr, lines, splitOn_joinWith _ hne fun l hl =>
    newline_of_mem_layout _ depth hu.newline l hl]
  exact readLines_composite h depth fun c hc => (hu c hc).1

omit h in
/-- Only the indentation of the opening delimiter depends on where the tree
    starts. -/
theorem shown_eq_shownAfter :
    (node b.opening b.closing ts).shown depth unit =
      Buffer.indentationOf depth unit ++ (node b.opening b.closing ts).shownAfter depth unit := by
  have ho : blockOf depth unit b.opening = Buffer.indentationOf depth unit ++ b.opening := by
    rw [← String.toList_inj, Buffer.toList_blockOf depth hu.newline, (bare_opening b).blockLines]
    simp [Buffer.indentationOf]
  rw [shown, shownAfter, ho]
  simp only [String.append_assoc]

theorem read?_shownAfter :
    read? ((node b.opening b.closing ts).shownAfter depth unit) =
      some (node b.opening b.closing ts) := by
  rw [← read?_margin (hu.copies depth), ← read?_shown h depth hu, shown_eq_shownAfter depth hu]
  rfl

end

/-! ## The result -/

/-- What is appended for a composite is read as the composite. -/
theorem exists_read {b : Brackets} {ts : List Tree} (h : AreListings ts) {buffer : Buffer}
    (hu : IsMargin buffer.unit.toList) :
    ∃ x, ((node b.opening b.closing ts).write buffer).rejected = none ∧
      ((node b.opening b.closing ts).write buffer).buffer.text = buffer.text ++ x ∧
      read? x = some (node b.opening b.closing ts) := by
  have hr : (node b.opening b.closing ts).refusal? = none := h.refusals?
  have hw : ((node b.opening b.closing ts).write buffer).rejected = none := by
    rw [write_rejected, hr]
  cases hl : buffer.atLineStart with
  | true => exact ⟨_, hw, write_text _ hr hl, read?_shown h buffer.depth hu⟩
  | false => exact ⟨_, hw, write_text_after _ hr hl, read?_shownAfter h buffer.depth hu⟩

/-- Wherever a composite is written, what is appended is read as the composite,
    so that no other one is written in the same way; behind other text only
    the indentation in front of it is missing. -/
theorem written_reads_back (b : Brackets) {ts : List Tree} (h : AreListings ts) :
    (∀ buffer : Buffer, IsMargin buffer.unit.toList →
      ∃ x, ((node b.opening b.closing ts).write buffer).rejected = none ∧
        ((node b.opening b.closing ts).write buffer).buffer.text = buffer.text ++ x ∧
        read? x = some (node b.opening b.closing ts)) ∧
    (∀ (b' : Brackets) (ts' : List Tree), AreListings ts' →
      ∀ buffer buffer' : Buffer, IsMargin buffer.unit.toList → IsMargin buffer'.unit.toList →
      ∀ x, ((node b.opening b.closing ts).write buffer).buffer.text = buffer.text ++ x →
        ((node b'.opening b'.closing ts').write buffer').buffer.text = buffer'.text ++ x →
        node b.opening b.closing ts = node b'.opening b'.closing ts') ∧
    ∀ buffer buffer' : Buffer, IsMargin buffer.unit.toList → buffer.depth = buffer'.depth →
      buffer.unit = buffer'.unit → buffer.atLineStart = true → buffer'.atLineStart = false →
      ∃ x, ((node b.opening b.closing ts).write buffer').buffer.text = buffer'.text ++ x ∧
        ((node b.opening b.closing ts).write buffer).buffer.text =
          buffer.text ++ (buffer.indentation ++ x) := by
  refine ⟨fun buffer hu => exists_read h hu, ?_, ?_⟩
  · intro b' ts' h' buffer buffer' hu hu' x hx hx'
    obtain ⟨y, -, hy, hr⟩ := exists_read h hu (b := b)
    obtain ⟨y', -, hy', hr'⟩ := exists_read h' hu' (b := b')
    have hyx : x = y := (String.append_right_inj _).1 (hx.symm.trans hy)
    have hyx' : x = y' := (String.append_right_inj _).1 (hx'.symm.trans hy')
    rw [← hyx] at hr
    rw [← hyx', hr] at hr'
    exact Option.some.inj hr'
  · intro buffer buffer' hu hd hunit hl hl'
    have hr : (node b.opening b.closing ts).refusal? = none := h.refusals?
    refine ⟨_, write_text_after _ hr hl', ?_⟩
    rw [write_text _ hr hl, shown_eq_shownAfter buffer.depth hu, ← hd, ← hunit]
    rfl

theorem written_reads_back_struct :
    let ts : List Tree := [.leaf (.text "1"), .node "[" "]" [.leaf (.text "x"), .leaf (.text "f(y)")],
      .node "\x7b" "\x7d" []]
    let buffer : Buffer := ⟨["int a[] = "], 2, " \t"⟩
    AreListings ts ∧ ∃ x,
      ((node "\x7b" "\x7d" ts).write buffer).buffer.text = "int a[] = " ++ x ∧
        read? x = some (node "\x7b" "\x7d" ts) := by
  intro ts buffer
  have h : AreListings ts := by
    simp only [ts, AreListings, IsListing, and_true]
    exact ⟨⟨"1", rfl, by decide⟩, ⟨⟨.array, rfl, rfl⟩, ⟨"x", rfl, by decide⟩, "f(y)", rfl, by decide⟩,
      .struct, rfl, rfl⟩
  obtain ⟨x, -, hx, hread⟩ := (written_reads_back .struct h).1 buffer (by decide)
  exact ⟨h, x, hx, hread⟩

end CxxWriter.Tree
