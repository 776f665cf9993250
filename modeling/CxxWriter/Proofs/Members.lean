/-
  The lines of a constructor.

  * `writes_constructor`: what a constructor with a fragment as its body writes;
  * `Declaration.headerLines` and `membersLines` are the lines of the declaration
    and of the initial values of members;
  * `isTrimmed_memberLines`: of a member, only the first line of a value that goes
    on below it keeps the white space at its end;
  * `constructor_lines_trimmed_iff`: no line of a constructor ends in white space
    exactly if no value has such a first line.
-/
import CxxWriter.Proofs.Rejection
import CxxWriter.Proofs.Tidy

namespace CxxWriter

open Block Text
open Buffer (blockLines blockOf)

/-! ## The text of a constructor -/

namespace Action

variable {α : Type} {s : Session} {t u : String}

theorem Writes.after {a : Action α} {x : α} {f : α → Action Unit} (ha : a.apply s = (.ok x, s))
    (h : Writes (f x) s t) : Writes (a >>= f) s t := by
  obtain ⟨s', hs, hf⟩ := h
  exact ⟨s', hs, (apply_bind_ok ha f).trans hf⟩

theorem Writes.next {a : Action Unit} {f : Unit → Action Unit} (ha : Writes a s t)
    (h : ∀ s', s.Wrote t s' → Writes (f ()) s' u) : Writes (a >>= f) s (t ++ u) := by
  obtain ⟨s', hs, ha⟩ := ha
  obtain ⟨s'', hs', hf⟩ := h s' hs
  exact ⟨s'', hs.trans hs', (apply_bind_ok ha f).trans hf⟩

theorem writes_header (d : Declaration) (line : String) {a : Action Unit}
    (h : ∀ s', s.Wrote (d.headerText s.buffer.depth s.buffer.unit line) s' → Writes a s' u) :
    Writes (do returnType d; emitText line; a) s
      (d.headerText s.buffer.depth s.buffer.unit line ++ u) := by
  rw [Declaration.headerText, String.append_assoc]
  refine (writes_returnType d s).next fun s' hs => ?_
  have hline := writes_emitText line s'
  rw [hs.depth, hs.unit] at hline
  exact hline.next fun s'' hs' => h s'' (hs.trans hs')

/-- A body that is a fragment is written one level deeper. -/
theorem writes_body {code : Value} {c : String} (hc : code.fragment? = some c) (s : Session) :
    Writes (indented (Op.performAll [.emit code])) s
      (blockText (s.buffer.depth + 1) s.buffer.unit c) := by
  obtain ⟨s', hs, hrun⟩ := writes_emitText c { s with buffer := s.buffer.enter }
  have hemit : (emit code).apply { s with buffer := s.buffer.enter } = (.ok (), s') :=
    (apply_bind_ok (apply_fragment hc _) _).trans hrun
  exact Writes.indented ⟨s', hs, Op.apply_performAll_cons (Op.apply_silent hemit)⟩

end Action

/-- A constructor with members and a body of these texts. -/
def Declaration.constructorText (depth : Nat) (unit : String) (d : Declaration)
    (texts : List (String × String)) (body : String) : String :=
  d.headerText depth unit d.signature ++ (membersText (depth + 1) unit false ": " texts ++
    (blockText depth unit "\x7b" ++ (blockText (depth + 1) unit body ++
      (blockText depth unit "\x7d" ++ blockText depth unit ""))))

open CxxWriter.Action in
/-- A constructor is written as a whole. -/
theorem writes_constructor {declaration code : Value} {t c : String} {d : Declaration}
    {initial : List (Value × Value)} {texts : List (String × String)}
    (hv : declaration.fragment? = some t) (ht : Declaration.split? t = some d)
    (hm : List.Forall₂ HasTexts initial texts) (hc : code.fragment? = some c) (s : Session) :
    Writes (constructor declaration initial (Op.performAll [.emit code])) s
      (d.constructorText s.buffer.depth s.buffer.unit texts c) := by
  refine Writes.after (apply_declaration hv ht s) (writes_header d d.signature fun s₁ h₁ => ?_)
  rw [← h₁.depth, ← h₁.unit]
  refine (writes_members hm ": " _).indented.next fun s₂ h₂ => ?_
  rw [← h₂.depth, ← h₂.unit]
  refine (writes_emitText _ s₂).next fun s₃ h₃ => ?_
  rw [← h₃.depth, ← h₃.unit]
  refine (writes_body hc s₃).next fun s₄ h₄ => ?_
  rw [← h₄.depth, ← h₄.unit]
  refine (writes_emitText _ s₄).next fun s₅ h₅ => ?_
  rw [← h₅.depth, ← h₅.unit]
  exact writes_emitText _ s₅

/-! ## Its lines -/

section
variable {unit : String}

theorem toList_blockText (hu : '\n' ∉ unit.toList) (depth : Nat) (t : String) :
    (blockText depth unit t).toList = ended (blockLines depth unit.toList t.toList) := by
  rw [blockText, String.toList_append, Buffer.toList_blockOf depth hu]
  exact unlines_ended (Buffer.blockLines_ne_nil _ _ _)

/-- The lines of a declaration up to the given one. -/
def Declaration.headerLines (depth : Nat) (unit : List Char) (d : Declaration) (line : String) :
    List (List Char) :=
  (if d.returnType.isEmpty then [] else blockLines depth unit d.returnType.toList) ++
    blockLines depth unit line.toList

theorem Declaration.toList_headerText (hu : '\n' ∉ unit.toList) (depth : Nat) (d : Declaration)
    (line : String) :
    (d.headerText depth unit line).toList = ended (d.headerLines depth unit.toList line) := by
  rw [headerText, headerLines, ended_append, String.toList_append, toList_blockText hu]
  split
  · rfl
  · rw [toList_blockText hu]

theorem Declaration.areTidy_headerLines (hu : '\n' ∉ unit.toList) (depth : Nat) (d : Declaration)
    (line : String) : AreTidy (d.headerLines depth unit.toList line) := by
  refine areTidy_append.2 ⟨?_, areTidy_blockLines hu depth _⟩
  split
  · exact fun _ h => absurd h List.not_mem_nil
  · exact areTidy_blockLines hu depth _

/-- The lines of the initial values of members. -/
def membersLines (depth : Nat) (unit : List Char) :
    String → List (String × String) → List (List Char)
  | _, [] => []
  | lead, (name, value) :: rest =>
    memberLines depth unit lead.toList name.toList value.toList (if rest.isEmpty then [] else [',']) ++
      membersLines depth unit "  " rest

theorem toList_membersText (hu : '\n' ∉ unit.toList) (depth : Nat)
    (texts : List (String × String)) (lead : String) :
    (membersText depth unit false lead texts).toList =
      ended (membersLines depth unit.toList lead texts) := by
  induction texts generalizing lead with
  | nil => rfl
  | cons text rest ih =>
    obtain ⟨name, value⟩ := text
    have htext (line : String) :
        ((⟨[], depth, unit⟩ : Buffer).emitRaw line).newline.text = line ++ "\n" := by
      rw [Buffer.newline, Buffer.text_push, Buffer.emitRaw, Buffer.text_push]
      exact congrArg (· ++ "\n") String.empty_append
    have htrail : (if rest.isEmpty then "" else ",").toList = if rest.isEmpty then [] else [','] := by
      split <;> rfl
    have hline : (Buffer.indentationOf depth unit ++ lead ++ name ++ "(" ++
        Action.memberValue ⟨[], depth, unit⟩ value ++ ")" ++ (if rest.isEmpty then "" else ",") ++
        "\n").toList = ended (memberLines depth unit.toList lead.toList name.toList value.toList
          (if rest.isEmpty then [] else [','])) := by
      rw [← htext, ← htrail]
      exact (Buffer.member_piece ⟨[], depth, unit⟩ hu lead name value _).trans (List.nil_append _)
    rw [membersText, membersLines, ended_append, String.toList_append, ih, Bool.not_false,
      Bool.and_true, hline]

/-- Does the first line of a value that goes on below it not end in white space? -/
def OpensTrimmed (value : String) : Prop :=
  ∀ l m ls, lines (unindent value.toList) = l :: m :: ls → IsTrimmed l

/-- The first line of a value stands behind the name as it is. -/
theorem isTrimmed_behind {l : List Char} (p : List Char) :
    IsTrimmed (p ++ '(' :: l) ↔ IsTrimmed l := by
  rcases List.eq_nil_or_concat l with rfl | ⟨k, c, rfl⟩
  · refine iff_of_true (isTrimmed_append (isTrimmed_singleton (by decide)) (by simp) p) ?_
    exact fun _ hc => by cases hc
  · simp only [IsTrimmed, List.concat_eq_append, ← List.cons_append, ← List.append_assoc,
      List.getLast?_concat]

/-- **The lines of a member.**  All but the first end in ink. -/
theorem isTrimmed_memberLines (depth : Nat) (unit lead name : List Char) (value : String)
    {trail : List Char} (htrail : IsTrimmed (')' :: trail)) :
    (∀ l ∈ memberLines depth unit lead name value.toList trail, IsTrimmed l) ↔ OpensTrimmed value := by
  unfold memberLines
  match hls : lines (unindent value.toList) with
  | [] => exact absurd hls (splitOn_ne_nil _ _)
  | [l] =>
    refine iff_of_true ?_ fun l' m ls h => ?_
    · intro j hj
      rw [List.mem_singleton.1 hj]
      exact isTrimmed_append htrail (by simp) _
    · rw [hls] at h
      cases h
  | l :: m :: ls =>
    have hopens : OpensTrimmed value ↔ IsTrimmed l := by
      refine ⟨fun h => h l m ls hls, fun h l' m' ls' h' => ?_⟩
      rw [hls] at h'
      cases h'
      exact h
    -- the lines below are trimmed, up to what is written behind the last one
    have hbelow : ∀ j ∈ endWith (')' :: trail)
        ((m :: ls).map (formatLine (copies depth unit) unit)), IsTrimmed j := by
      intro j hj
      rcases mem_endWith hj with hj | ⟨k, -, rfl⟩
      · obtain ⟨k, -, rfl⟩ := List.mem_map.1 hj
        exact isTrimmed_trimEnd _
      · exact isTrimmed_append htrail (by simp) k
    rw [hopens, ← isTrimmed_behind (copies depth unit ++ lead ++ name)]
    exact List.forall_mem_cons.trans (and_iff_left hbelow)

theorem isTrimmed_membersLines (depth : Nat) (unit : List Char) (texts : List (String × String))
    (lead : String) :
    (∀ l ∈ membersLines depth unit lead texts, IsTrimmed l) ↔ ∀ m ∈ texts, OpensTrimmed m.2 := by
  induction texts generalizing lead with
  | nil => exact iff_of_true (fun _ h => absurd h List.not_mem_nil) fun _ h => absurd h List.not_mem_nil
  | cons text rest ih =>
    obtain ⟨name, value⟩ := text
    have htrail : IsTrimmed (')' :: if rest.isEmpty then [] else [',']) := by
      split <;> (rintro _ ⟨⟩; decide)
    rw [membersLines, List.forall_mem_append, ih, isTrimmed_memberLines _ _ _ _ _ htrail,
      List.forall_mem_cons]

theorem newline_of_mem_membersLines (hu : '\n' ∉ unit.toList) (depth : Nat)
    {texts : List (String × String)} (hn : ∀ m ∈ texts, '\n' ∉ m.1.toList) {lead : String}
    (hl : '\n' ∉ lead.toList) : ∀ l ∈ membersLines depth unit.toList lead texts, '\n' ∉ l := by
  induction texts generalizing lead with
  | nil => exact fun _ h => absurd h List.not_mem_nil
  | cons text rest ih =>
    obtain ⟨name, value⟩ := text
    obtain ⟨hname, hrest⟩ := List.forall_mem_cons.1 hn
    refine List.forall_mem_append.2 ⟨?_, ih hrest (by decide)⟩
    exact newline_of_mem_memberLines hu hl hname (by split <;> simp) depth

end

/-- The lines of a constructor below its members. -/
def footerLines (depth : Nat) (unit : List Char) (body : String) : List (List Char) :=
  blockLines depth unit ['\x7b'] ++ (blockLines (depth + 1) unit body.toList ++
    (blockLines depth unit ['\x7d'] ++ blockLines depth unit []))

theorem areTidy_footerLines {unit : List Char} (hu : '\n' ∉ unit) (depth : Nat) (body : String) :
    AreTidy (footerLines depth unit body) :=
  areTidy_append.2 ⟨areTidy_blockLines hu _ _, areTidy_append.2 ⟨areTidy_blockLines hu _ _,
    areTidy_append.2 ⟨areTidy_blockLines hu _ _, areTidy_blockLines hu _ _⟩⟩⟩

theorem Declaration.toList_constructorText {unit : String} (hu : '\n' ∉ unit.toList) (depth : Nat)
    (d : Declaration) (texts : List (String × String)) (body : String) :
    (d.constructorText depth unit texts body).toList =
      ended (d.headerLines depth unit.toList d.signature ++
        (membersLines (depth + 1) unit.toList ": " texts ++ footerLines depth unit.toList body)) := by
  simp only [constructorText, footerLines, String.toList_append, ended_append, toList_headerText hu,
    toList_membersText hu, toList_blockText hu]
  rfl

/-! ## The result -/

/-- **White space at line ends comes from the first lines of values alone.**  A
    constructor that is given a declaration, members and a body writes all of them
    and nothing else, and no line of it ends in white space exactly if no value has
    white space at the end of a first line that others follow. -/
theorem constructor_lines_trimmed_iff (s : Session) {declaration code : Value} {t c : String}
    {d : Declaration} {initial : List (Value × Value)} {texts : List (String × String)}
    (hu : '\n' ∉ s.buffer.unit.toList) (hv : declaration.fragment? = some t)
    (ht : Declaration.split? t = some d) (hm : List.Forall₂ HasTexts initial texts)
    (hn : ∀ m ∈ texts, '\n' ∉ m.1.toList) (hc : code.fragment? = some c) :
    ∃ s' x, (Op.constructor declaration initial [.emit code]).perform.apply s = (.ok .nothing, s') ∧
      s.Wrote x s' ∧ ((∀ l ∈ lines x.toList, IsTrimmed l) ↔ ∀ m ∈ texts, OpensTrimmed m.2) := by
  obtain ⟨s', hs, hrun⟩ := writes_constructor hv ht hm hc s
  refine ⟨s', _, Op.apply_silent hrun, hs, ?_⟩
  have hheader := d.areTidy_headerLines hu s.buffer.depth d.signature
  have hmembers := newline_of_mem_membersLines hu (s.buffer.depth + 1) hn
    (show '\n' ∉ ": ".toList by decide)
  have hfooter := areTidy_footerLines hu s.buffer.depth c
  have hlines := List.forall_mem_append.2 ⟨fun l hl => (hheader l hl).1,
    List.forall_mem_append.2 ⟨hmembers, fun l hl => (hfooter l hl).1⟩⟩
  rw [Declaration.toList_constructorText hu, lines_ended hlines, List.forall_mem_append,
    List.forall_mem_append, List.forall_mem_append, isTrimmed_membersLines]
  constructor
  · exact fun h => h.1.2.1
  · refine fun h => ⟨⟨fun l hl => (hheader l hl).2, h, fun l hl => (hfooter l hl).2⟩, ?_⟩
    intro l hl
    rw [List.mem_singleton.1 hl]
    exact fun _ hc => by cases hc

/-- One level deep, a value with a trimmed first line and one with a carriage return
    at the end of it. -/
theorem constructor_lines_trimmed_iff_deeper :
    let s : Session := { Session.start .empty Config.default "\t" Files.empty [] with
      buffer := ⟨["class T \x7b\n"], 1, "\t"⟩ }
    (∃ s' x, (Op.constructor (.text "T::T()") [(.text "a", .text "f(\n  1 )")]
        [.emit (.text "g(); ")]).perform.apply s = (.ok .nothing, s') ∧ s.Wrote x s' ∧
      ∀ l ∈ lines x.toList, IsTrimmed l) ∧
    ∃ s' x, (Op.constructor (.text "T::T()") [(.text "a", .text "f(\r\n  1)")]
        [.emit (.text "g(); ")]).perform.apply s = (.ok .nothing, s') ∧ s.Wrote x s' ∧
      ∃ l ∈ lines x.toList, ¬ IsTrimmed l := by
  intro s
  let d : Declaration := ⟨"", "T::T", "T::T()"⟩
  have hd : Declaration.split? "T::T()" = some d := by decide +kernel
  have hrun (value : String) := @constructor_lines_trimmed_iff s (.text "T::T()") (.text "g(); ")
    "T::T()" "g(); " d [(.text "a", .text value)] [("a", value)] (by decide) rfl hd
    (.cons ⟨rfl, rfl⟩ .nil) (by simp) rfl
  have hopen : OpensTrimmed "f(\n  1 )" := by
    have hlines : lines (unindent "f(\n  1 )".toList) =
        [['f', '('], [' ', ' ', '1', ' ', ')']] := by decide +kernel
    intro l m ls h
    rw [hlines, List.cons.injEq] at h
    rw [← h.1]
    exact isTrimmed_append (isTrimmed_singleton (by decide)) (by simp) ['f']
  have hclosed : ¬ OpensTrimmed "f(\r\n  1)" := by
    have hlines : lines (unindent "f(\r\n  1)".toList) =
        [['f', '(', '\r'], [' ', ' ', '1', ')']] := by decide +kernel
    exact fun h => absurd (h _ _ _ hlines '\r' rfl) (by decide)
  obtain ⟨s₁, x₁, h₁, hw₁, htrimmed⟩ := hrun "f(\n  1 )"
  obtain ⟨s₂, x₂, h₂, hw₂, hraw⟩ := hrun "f(\r\n  1)"
  refine ⟨⟨s₁, x₁, h₁, hw₁, htrimmed.2 (by simpa using hopen)⟩, s₂, x₂, h₂, hw₂, ?_⟩
  by_contra hnone
  have hall : ∀ l ∈ lines x₂.toList, IsTrimmed l := by
    intro l hl
    by_contra hl'
    exact hnone ⟨l, hl, hl'⟩
  exact hclosed (hraw.1 hall ("a", "f(\r\n  1)") List.mem_cons_self)

/-- It is not so that no line of a constructor ends in white space: what stands in front
    of the first line break of a value stays. -/
theorem constructor_lines_not_trimmed :
    ¬ ∀ (s : Session) (declaration code : Value) (initial : List (Value × Value)) (t c x : String)
      (d : Declaration) (texts : List (String × String)), s.buffer.unit = "\t" →
      declaration.fragment? = some t → Declaration.split? t = some d →
      List.Forall₂ HasTexts initial texts → (∀ m ∈ texts, Tree.IsBare m.1.toList) →
      code.fragment? = some c →
      ((Op.constructor declaration initial [.emit code]).perform.apply s).2.buffer.text =
        s.buffer.text ++ x → ∀ l ∈ lines x.toList, IsTrimmed l := by
  intro h
  let s := Session.start .empty Config.default "\t" Files.empty []
  let initial : List (Value × Value) := [(.text "pair", .text "make_pair(  \n  1, 2)")]
  let x := "Foo::Foo()\n\t: pair(make_pair(  \n\t\t1, 2))\n\x7b\n\tg();\n\x7d\n\n"
  have hd : Declaration.split? "Foo::Foo()" = some ⟨"", "Foo::Foo", "Foo::Foo()"⟩ := by decide +kernel
  have hname : Tree.IsBare ['p', 'a', 'i', 'r'] :=
    ⟨by decide, ⟨'p', rfl, by decide⟩, by rintro _ ⟨⟩; decide⟩
  have htext : ((Op.constructor (.text "Foo::Foo()") initial [.emit (.text "g();")]).perform.apply
      s).2.buffer.text = s.buffer.text ++ x := by decide +kernel
  have hline : "\t: pair(make_pair(  ".toList ∈ lines x.toList := by decide +kernel
  have htrimmed := h s _ _ initial _ _ x _ [("pair", "make_pair(  \n  1, 2)")] rfl rfl hd
    (.cons ⟨rfl, rfl⟩ .nil) (List.forall_mem_singleton.2 hname) rfl htext _ hline ' ' (by decide +kernel)
  cases htrimmed

end CxxWriter
