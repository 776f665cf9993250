/-
  The text of a tree.

  * a line that `IsBare` is written as it is behind its indentation, whatever the
    unit is: `IsBare.blockOf_eq`;
  * `shown` is the text that writing a tree appends at the start of a line, and
    `shownAfter` what it appends behind other text: `write_text`,
    `write_text_after`;
  * `layout` are the lines of that text: `toList_shown`.
-/
import CxxWriter.Initializer.Forest
import CxxWriter.Proofs.Block
import CxxWriter.Proofs.Tree

namespace CxxWriter

open Block Text

namespace Buffer

theorem atLineStart_newline (b : Buffer) : b.newline.atLineStart = true := rfl

/-- There is no indentation outside of all levels, or if a level is empty. -/
theorem indentation_eq_empty {b : Buffer} : b.indentation = "" ↔ b.depth = 0 ∨ b.unit = "" := by
  rw [← String.toList_inj, indentation, String.toList_ofList, ← String.toList_inj]
  exact copies_eq_nil

theorem emitOpen_text (b : Buffer) (s : String) :
    (b.emitOpen s).text = b.text ++ blockOf b.depth b.unit s := rfl

/-- The lines of a fragment at a depth. -/
def blockLines (depth : Nat) (unit s : List Char) : List (List Char) :=
  (lines (unindent s)).map (formatLine (copies depth unit) unit)

theorem blockLines_ne_nil (depth : Nat) (unit s : List Char) : blockLines depth unit s ≠ [] := by
  simpa [blockLines] using splitOn_ne_nil '\n' (unindent s)

theorem toList_blockOf (depth : Nat) {unit : String} (hu : '\n' ∉ unit.toList) (s : String) :
    (blockOf depth unit s).toList = unlines (blockLines depth unit.toList s.toList) := by
  rw [blockOf, indentationOf, String.toList_ofList, String.toList_ofList, format_eq _ hu]
  rfl

theorem newline_of_mem_blockLines {depth : Nat} {unit s l : List Char} (hu : '\n' ∉ unit)
    (h : l ∈ blockLines depth unit s) : '\n' ∉ l := by
  obtain ⟨m, hm, rfl⟩ := List.mem_map.1 h
  exact newline_formatLine (fun hn => hu (mem_of_mem_copies hn)) hu (not_mem_of_mem_lines hm)

end Buffer

namespace Tree

open Buffer (blockOf blockLines)

/-! ## Lines as they are -/

/-- A line without white space at its ends. -/
structure IsBare (l : List Char) : Prop where
  line : '\n' ∉ l
  first : ∃ c, l.head? = some c ∧ isSpace c = false
  last : ∀ c, l.getLast? = some c → isSpace c = false

theorem bare_singleton {c : Char} (hc : isSpace c = false) : IsBare [c] := by
  refine ⟨fun h => ?_, ⟨c, rfl, hc⟩, fun a ha => ?_⟩
  · rw [← List.mem_singleton.1 h] at hc
    cases hc
  · cases ha
    exact hc

theorem bare_opening (b : Brackets) : IsBare b.opening.toList := by
  cases b with
  | array => exact bare_singleton (c := '[') (by decide)
  | struct => exact bare_singleton (c := '\x7b') (by decide)

theorem bare_closing (b : Brackets) : IsBare b.closing.toList := by
  cases b with
  | array => exact bare_singleton (c := ']') (by decide)
  | struct => exact bare_singleton (c := '\x7d') (by decide)

/-- Bare lines around what has no line feed make a bare line. -/
theorem IsBare.around {l m r : List Char} (hl : IsBare l) (hm : '\n' ∉ m) (hr : IsBare r) :
    IsBare (l ++ m ++ r) := by
  obtain ⟨a, ha, hfirst⟩ := hl.first
  obtain ⟨b, hb, -⟩ := hr.first
  have hne : r ≠ [] := by
    rintro rfl
    cases hb
  refine ⟨by simp [hl.line, hm, hr.line], ⟨a, ?_, hfirst⟩, fun c hc => hr.last c ?_⟩
  · rw [List.append_assoc, List.head?_append, ha]
    rfl
  · rwa [List.getLast?_append_of_ne_nil _ hne] at hc

/-- Such a line is a block already. -/
theorem IsBare.unindent_eq {l : List Char} (h : IsBare l) : unindent l = l := by
  have hb {a : Char} (ha : isSpace a = false) : isBlank a = false :=
    eq_false_of_ne_true fun hb => by
      rw [isSpace_of_isBlank hb] at ha
      cases ha
  obtain ⟨c, hc, hs⟩ := h.first
  exact unindent_line h.line hc (hb hs) fun a ha => hb (h.last a ha)

theorem IsBare.convertSpaces_eq {l : List Char} (h : IsBare l) (unit : List Char) :
    convertSpaces unit l = l := by
  obtain ⟨c, hc, hs⟩ := h.first
  refine convertSpaces_line unit ?_
  rw [hc]
  rintro ⟨⟩
  cases hs

/-- Such a line is written as it is behind its indentation. -/
theorem IsBare.leadLine_eq {l : List Char} (h : IsBare l) (lead : List Char) :
    leadLine lead l = lead ++ l := by
  obtain ⟨c, hc, -⟩ := h.first
  have hne : l ≠ [] := by
    rintro rfl
    cases hc
  refine trimEnd_eq_self fun a ha => h.last a ?_
  rwa [List.getLast?_append_of_ne_nil _ hne] at ha

theorem IsBare.blockLines {l : List Char} (h : IsBare l) (depth : Nat) (unit : List Char) :
    blockLines depth unit l = [copies depth unit ++ l] := by
  rw [Buffer.blockLines, h.unindent_eq, lines, splitOn_of_not_mem _ h.line, List.map_singleton,
    formatLine, h.convertSpaces_eq, h.leadLine_eq]

/-- There is nothing in it that the unit of indentation would change. -/
theorem IsBare.blockOf_eq {line : String} (h : IsBare line.toList) (depth : Nat) (unit : String) :
    blockOf depth unit line = Buffer.indentationOf depth unit ++ line := by
  have hlines : lines line.toList = [line.toList] := splitOn_of_not_mem _ h.line
  rw [Buffer.blockOf, Block.format, h.unindent_eq, Block.reindent, hlines, List.map_singleton,
    unlines_singleton, h.convertSpaces_eq, Block.leadLines, hlines, List.map_singleton,
    unlines_singleton, h.leadLine_eq, String.ofList_append, String.ofList_toList, String.ofList_toList]

theorem IsBare.emit_text {line : String} (h : IsBare line.toList) (b : Buffer) :
    (b.emit line).text = b.text ++ b.indentation ++ line ++ "\n" := by
  rw [Buffer.emit, Buffer.newline, Buffer.text_push, Buffer.emitOpen_text, h.blockOf_eq,
    ← String.append_assoc]
  rfl

/-- Line feeds are removed up to such a line. -/
theorem IsBare.stripped_append {line : String} (h : IsBare line.toList) (t : String) :
    Buffer.stripped (t ++ line) = t ++ line := by
  obtain ⟨a, ha, hs⟩ := h.first
  have hnl {c : Char} (hc : isSpace c = false) : c ≠ '\n' := by
    rintro rfl
    cases hc
  have hkept : Buffer.stripped line = line := by
    rw [Buffer.stripped, trimEnd_eq_self, String.ofList_toList]
    exact fun e he => beq_eq_false_iff_ne.2 (hnl (h.last e he))
  rw [Buffer.stripped_append t (List.mem_of_mem_head? ha) (hnl hs), hkept]

/-! ## The text -/

mutual

/-- The text of a tree at a depth, from the start of a line on. -/
def shown (depth : Nat) (unit : String) : Tree → String
  | .leaf v => (v.fragment?.map (blockOf depth unit)).getD ""
  | .node opening closing children =>
    blockOf depth unit opening ++ "\n" ++ shownItems (depth + 1) unit children ++
      blockOf depth unit closing

/-- The text of the elements of a node. -/
def shownItems (depth : Nat) (unit : String) : List Tree → String
  | [] => ""
  | t :: ts =>
    t.shown depth unit ++ (if ts.isEmpty then "" else ",") ++ "\n" ++ shownItems depth unit ts

end

/-- The text of a tree behind other text: the opening delimiter is not
    indented. -/
def shownAfter (depth : Nat) (unit : String) : Tree → String
  | .leaf v => (Tree.leaf v).shown depth unit
  | .node opening closing children =>
    opening ++ "\n" ++ shownItems (depth + 1) unit children ++ blockOf depth unit closing

theorem writeOpening_text (opening : String) (b : Buffer) :
    (writeOpening opening b).text =
      b.text ++ ((if b.atLineStart then blockOf b.depth b.unit opening else opening) ++ "\n") := by
  unfold writeOpening
  split
  · rw [Buffer.emit, Buffer.newline, Buffer.text_push, Buffer.emitOpen_text, String.append_assoc]
  · rw [Buffer.newline, Buffer.text_push, Buffer.emitRaw, Buffer.text_push, String.append_assoc]

theorem writeOpening_atLineStart (opening : String) (b : Buffer) :
    (writeOpening opening b).atLineStart = true := by
  unfold writeOpening
  split <;> rfl

theorem writeOpening_depth (opening : String) (b : Buffer) :
    (writeOpening opening b).depth = b.depth := by
  unfold writeOpening
  split <;> rfl

theorem writeOpening_unit (opening : String) (b : Buffer) :
    (writeOpening opening b).unit = b.unit := by
  unfold writeOpening
  split <;> rfl

theorem write_depth (t : Tree) (b : Buffer) : (t.write b).buffer.depth = b.depth := by
  obtain ⟨g, hg⟩ := isAppend_write t
  exact (hg b).2.1

theorem write_unit (t : Tree) (b : Buffer) : (t.write b).buffer.unit = b.unit := by
  obtain ⟨g, hg⟩ := isAppend_write t
  exact (hg b).2.2

theorem writeItems_depth (ts : List Tree) (b : Buffer) : (writeItems ts b).buffer.depth = b.depth := by
  obtain ⟨g, hg⟩ := isAppend_writeItems ts
  exact (hg b).2.1

theorem writeItems_unit (ts : List Tree) (b : Buffer) : (writeItems ts b).buffer.unit = b.unit := by
  obtain ⟨g, hg⟩ := isAppend_writeItems ts
  exact (hg b).2.2

/-- A node is its opening delimiter, its elements one level deeper, and its
    closing delimiter. -/
theorem write_node_text {opening closing : String} {children : List Tree} {b : Buffer} {x : String}
    (hr : refusals? children = none)
    (hx : (writeItems children (writeOpening opening b).enter).buffer.text =
      (writeOpening opening b).text ++ x) :
    ((node opening closing children).write b).buffer.text =
      b.text ++ ((if b.atLineStart then blockOf b.depth b.unit opening else opening) ++ "\n" ++ x ++
        blockOf b.depth b.unit closing) := by
  have hd : (writeItems children (writeOpening opening b).enter).buffer.leave.depth = b.depth := by
    show (writeItems children (writeOpening opening b).enter).buffer.depth - 1 = b.depth
    rw [writeItems_depth, Buffer.enter]
    simp [writeOpening_depth]
  have hu : (writeItems children (writeOpening opening b).enter).buffer.leave.unit = b.unit := by
    show (writeItems children (writeOpening opening b).enter).buffer.unit = b.unit
    rw [writeItems_unit, Buffer.enter, writeOpening_unit]
  rw [write, writeItems_rejected, hr]
  dsimp only
  rw [Buffer.emitOpen_text, hd, hu]
  show (writeItems children (writeOpening opening b).enter).buffer.text ++ _ = _
  rw [hx, writeOpening_text]
  simp only [String.append_assoc]

mutual

theorem write_text (t : Tree) {b : Buffer} (hr : t.refusal? = none) (hb : b.atLineStart = true) :
    (t.write b).buffer.text = b.text ++ t.shown b.depth b.unit := by
  match t with
  | .leaf v =>
    simp only [refusal?] at hr
    simp only [write, shown]
    cases hv : v.fragment? with
    | none => simp [hv] at hr
    | some s => exact b.emitOpen_text s
  | .node opening closing children =>
    have hi := writeItems_text children (b := (writeOpening opening b).enter) hr
      (writeOpening_atLineStart opening b)
    rw [write_node_text hr hi, if_pos hb]
    simp only [Buffer.enter, writeOpening_depth, writeOpening_unit]
    rfl

theorem writeItems_text (ts : List Tree) {b : Buffer} (hr : refusals? ts = none)
    (hb : b.atLineStart = true) :
    (writeItems ts b).buffer.text = b.text ++ shownItems b.depth b.unit ts := by
  match ts with
  | [] => simp [writeItems, shownItems]
  | t :: ts =>
    simp only [refusals?, Option.or_eq_none_iff] at hr
    simp only [writeItems, write_rejected, hr.1]
    rw [writeItems_text ts hr.2 (Buffer.atLineStart_newline _)]
    cases he : ts.isEmpty
    · simp [Buffer.newline, Buffer.emitRaw, write_text t hr.1 hb, write_depth, write_unit, shownItems,
        he, String.append_assoc]
    · simp [Buffer.newline, write_text t hr.1 hb, write_depth, write_unit, shownItems, he,
        String.append_assoc]

end

/-- Behind other text only the indentation of the opening delimiter is
    missing. -/
theorem write_text_after (t : Tree) {b : Buffer} (hr : t.refusal? = none)
    (hb : b.atLineStart = false) :
    (t.write b).buffer.text = b.text ++ t.shownAfter b.depth b.unit := by
  cases t with
  | leaf v =>
    simp only [refusal?] at hr
    simp only [write, shownAfter, shown]
    cases hv : v.fragment? with
    | none => simp [hv] at hr
    | some s => exact b.emitOpen_text s
  | node opening closing children =>
    have hi := writeItems_text children (b := (writeOpening opening b).enter) hr
      (writeOpening_atLineStart opening b)
    rw [write_node_text hr hi, hb, if_neg (by simp)]
    simp only [Buffer.enter, writeOpening_depth, writeOpening_unit]
    rfl

/-! ## Its lines -/

/-- Lines with a comma at the end of the last one. -/
def withComma : List (List Char) → List (List Char)
  | [] => []
  | [l] => [l ++ [',']]
  | l :: m :: ls => l :: withComma (m :: ls)

theorem withComma_concat (ls : List (List Char)) (l : List Char) :
    withComma (ls ++ [l]) = ls ++ [l ++ [',']] := by
  induction ls with
  | nil => rfl
  | cons m ls ih =>
    cases ls with
    | nil => rfl
    | cons k ls => simpa [withComma] using ih

theorem unlines_withComma {ls : List (List Char)} (h : ls ≠ []) :
    unlines (withComma ls) = unlines ls ++ [','] := by
  obtain ⟨ms, l, rfl⟩ := (List.eq_nil_or_concat ls).resolve_left h
  simp [withComma_concat, unlines_concat]

theorem withComma_ne_nil {ls : List (List Char)} (h : ls ≠ []) : withComma ls ≠ [] := by
  obtain ⟨ms, l, rfl⟩ := (List.eq_nil_or_concat ls).resolve_left h
  simp [withComma_concat]

mutual

/-- The lines of a tree at a depth. -/
def layout (depth : Nat) (unit : List Char) : Tree → List (List Char)
  | .leaf v => blockLines depth unit ((v.fragment?.getD "").toList)
  | .node opening closing children =>
    blockLines depth unit opening.toList ++ layoutItems (depth + 1) unit children ++
      blockLines depth unit closing.toList

/-- The lines of the elements of a node. -/
def layoutItems (depth : Nat) (unit : List Char) : List Tree → List (List Char)
  | [] => []
  | t :: ts =>
    (if ts.isEmpty then t.layout depth unit else withComma (t.layout depth unit)) ++
      layoutItems depth unit ts

end

theorem layout_ne_nil (depth : Nat) (unit : List Char) (t : Tree) : t.layout depth unit ≠ [] := by
  cases t with
  | leaf v => exact Buffer.blockLines_ne_nil _ _ _
  | node opening closing children =>
    rw [layout]
    exact List.append_ne_nil_of_right_ne_nil _ (Buffer.blockLines_ne_nil _ _ _)

theorem mem_withComma {ls : List (List Char)} {l : List Char} (h : l ∈ withComma ls) :
    l ∈ ls ∨ ∃ m ∈ ls, l = m ++ [','] := by
  rcases List.eq_nil_or_concat ls with rfl | ⟨ms, m, rfl⟩
  · cases h
  · rw [List.concat_eq_append, withComma_concat] at h
    rcases List.mem_append.1 h with h | h
    · exact .inl (by simp [h])
    · exact .inr ⟨m, by simp, List.mem_singleton.1 h⟩

mutual

theorem newline_of_mem_layout (t : Tree) (depth : Nat) {unit : List Char} (hu : '\n' ∉ unit) :
    ∀ l ∈ t.layout depth unit, '\n' ∉ l := by
  match t with
  | .leaf v =>
    intro l h
    rw [layout] at h
    exact Buffer.newline_of_mem_blockLines hu h
  | .node opening closing children =>
    intro l h
    rw [layout] at h
    rcases List.mem_append.1 h with h | h
    · rcases List.mem_append.1 h with h | h
      · exact Buffer.newline_of_mem_blockLines hu h
      · exact newline_of_mem_layoutItems children (depth + 1) hu l h
    · exact Buffer.newline_of_mem_blockLines hu h

theorem newline_of_mem_layoutItems (ts : List Tree) (depth : Nat) {unit : List Char}
    (hu : '\n' ∉ unit) : ∀ l ∈ layoutItems depth unit ts, '\n' ∉ l := by
  match ts with
  | [] =>
    intro l h
    cases h
  | t :: ts =>
    intro l h
    rw [layoutItems] at h
    rcases List.mem_append.1 h with h | h
    · split at h
      · exact newline_of_mem_layout t depth hu l h
      · rcases mem_withComma h with h | ⟨m, hm, rfl⟩
        · exact newline_of_mem_layout t depth hu l h
        · have hm := newline_of_mem_layout t depth hu m hm
          simp [hm]
    · exact newline_of_mem_layoutItems ts depth hu l h

end

mutual

theorem toList_shown (t : Tree) (depth : Nat) {unit : String} (hu : '\n' ∉ unit.toList)
    (hr : t.refusal? = none) : (t.shown depth unit).toList = unlines (t.layout depth unit.toList) := by
  match t with
  | .leaf v =>
    simp only [refusal?] at hr
    simp only [shown, layout]
    cases hv : v.fragment? with
    | none => simp [hv] at hr
    | some s => exact Buffer.toList_blockOf depth hu s
  | .node opening closing children =>
    have hb := Buffer.blockLines_ne_nil depth unit.toList
    have hi := toList_shownItems children (depth + 1) hu hr
    rw [shown, layout, unlines_append _ (hb _), ended_append, ← unlines_ended (hb _), ← hi]
    simp [String.toList_append, Buffer.toList_blockOf depth hu]

theorem toList_shownItems (ts : List Tree) (depth : Nat) {unit : String} (hu : '\n' ∉ unit.toList)
    (hr : refusals? ts = none) :
    (shownItems depth unit ts).toList = ended (layoutItems depth unit.toList ts) := by
  match ts with
  | [] => rfl
  | t :: ts =>
    simp only [refusals?, Option.or_eq_none_iff] at hr
    have ht := toList_shown t depth hu hr.1
    have hts := toList_shownItems ts depth hu hr.2
    have hne := layout_ne_nil depth unit.toList t
    simp only [shownItems, layoutItems, String.toList_append, ht, hts, ended_append]
    cases he : ts.isEmpty
    · rw [if_neg (by simp), if_neg (by simp), ← unlines_ended (withComma_ne_nil hne),
        unlines_withComma hne]
      simp
    · rw [if_pos rfl, if_pos rfl, ← unlines_ended hne]
      simp

end

end Tree

end CxxWriter
