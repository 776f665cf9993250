/-
  How the text of a buffer grows.

  * `atLineStart_eq`: whether the next character would start a line can be told
    from the text;
  * `IsAppend f`: what `f` appends depends on nothing but the depth, the unit
    and whether a line starts.  Everything that writes is of this kind, and so
    is one such function after another (`IsAppend.comp`).
-/
import CxxWriter.Buffer
import Mathlib.Data.List.TakeWhile

namespace CxxWriter.Buffer

/-! ## The text -/

@[simp] theorem text_push (b : Buffer) (t : String) : (b.push t).text = b.text ++ t := rfl

@[simp] theorem push_depth (b : Buffer) (t : String) : (b.push t).depth = b.depth := rfl

@[simp] theorem push_unit (b : Buffer) (t : String) : (b.push t).unit = b.unit := rfl

@[simp] theorem withUnit_text (b : Buffer) (u : String) : (b.withUnit u).text = b.text := rfl

/-- Would the next character start a line, after a text? -/
def startsLine (t : String) : Bool := t.isEmpty || endsLine t

theorem endsLine_append {t u : String} (hu : u.isEmpty = false) :
    endsLine (t ++ u) = endsLine u := by
  have hu' : u.toList ≠ [] := by simpa using hu
  simp only [endsLine, String.toList_append, List.getLast?_append]
  rw [List.getLast?_eq_some_getLast hu']
  rfl

theorem startsLine_append (t u : String) :
    startsLine (t ++ u) = if u.isEmpty then startsLine t else endsLine u := by
  by_cases hu : u.isEmpty
  · rw [if_pos hu, String.isEmpty_iff.1 hu, String.append_empty]
  · rw [if_neg hu, startsLine, endsLine_append (by simpa using hu)]
    simp_all

theorem atLineStart_eq (b : Buffer) : b.atLineStart = startsLine b.text := by
  obtain ⟨cs, d, u⟩ := b
  show atLineStartOf cs = startsLine (textOf cs)
  induction cs with
  | nil => rfl
  | cons c cs ih => rw [atLineStartOf, textOf, startsLine_append, ih]

theorem joined_text (b : Buffer) : b.joined.text = b.text := by
  unfold joined
  split
  · rfl
  · rfl
  · show "" ++ b.text = b.text
    simp

theorem joined_depth (b : Buffer) : b.joined.depth = b.depth := by
  unfold joined; split <;> rfl

theorem joined_unit (b : Buffer) : b.joined.unit = b.unit := by
  unfold joined; split <;> rfl

/-- A text without the line feeds at its end. -/
def stripped (t : String) : String := String.ofList (Text.trimEnd (· == '\n') t.toList)

theorem stripNewlines_text (b : Buffer) : b.stripNewlines.text = stripped b.text := by
  unfold stripNewlines
  simp only [joined_text]
  split
  · next h => rw [joined_text]; exact h.symm
  · show "" ++ stripped b.text = stripped b.text
    simp

/-- Only the end of a text from its last character that is no line feed on is
    looked at. -/
theorem stripped_append (t : String) {u : String} {c : Char} (hc : c ∈ u.toList) (hn : c ≠ '\n') :
    stripped (t ++ u) = t ++ stripped u := by
  have hd : (u.toList.reverse.dropWhile (· == '\n')).isEmpty = false := by
    rw [List.isEmpty_eq_false_iff, ne_eq, List.dropWhile_eq_nil_iff]
    intro h
    exact hn (by simpa using h c (List.mem_reverse.2 hc))
  rw [stripped, stripped, Text.trimEnd, Text.trimEnd, String.toList_append, List.reverse_append,
    List.dropWhile_append, hd]
  simp [String.ofList_append]

theorem stripped_newline (t : String) : stripped (t ++ "\n") = stripped t := by
  rw [stripped, stripped, Text.trimEnd, Text.trimEnd, String.toList_append, List.reverse_append]
  rfl

theorem stripNewlines_depth (b : Buffer) : b.stripNewlines.depth = b.depth := by
  unfold stripNewlines
  dsimp only
  split <;> exact b.joined_depth

theorem stripNewlines_unit (b : Buffer) : b.stripNewlines.unit = b.unit := by
  unfold stripNewlines
  dsimp only
  split <;> exact b.joined_unit

/-- The end of a declaration with a value. -/
def closeValue (b : Buffer) : Buffer := (b.stripNewlines.emitRaw ";").newline

theorem closeValue_text (b : Buffer) : b.closeValue.text = stripped b.text ++ (";" ++ "\n") := by
  rw [closeValue, newline, text_push, emitRaw, text_push, stripNewlines_text, String.append_assoc]

theorem closeValue_depth (b : Buffer) : b.closeValue.depth = b.depth := by
  rw [closeValue, newline, push_depth, emitRaw, push_depth, stripNewlines_depth]

theorem closeValue_unit (b : Buffer) : b.closeValue.unit = b.unit := by
  rw [closeValue, newline, push_unit, emitRaw, push_unit, stripNewlines_unit]

/-! ## Appending -/

/-- Does a function append to a buffer what only depends on the depth, the unit
    and whether a line starts? -/
def IsAppend (f : Buffer → Buffer) : Prop :=
  ∃ g : Nat → String → Bool → String, ∀ b,
    (f b).text = b.text ++ g b.depth b.unit b.atLineStart ∧ (f b).depth = b.depth ∧
      (f b).unit = b.unit

theorem isAppend_push (g : Nat → String → Bool → String) :
    IsAppend fun b => b.push (g b.depth b.unit b.atLineStart) :=
  ⟨g, fun b => ⟨b.text_push _, rfl, rfl⟩⟩

theorem IsAppend.comp {f₁ f₂ : Buffer → Buffer} (h₁ : IsAppend f₁) (h₂ : IsAppend f₂) :
    IsAppend fun b => f₂ (f₁ b) := by
  obtain ⟨g₁, h₁⟩ := h₁
  obtain ⟨g₂, h₂⟩ := h₂
  refine ⟨fun d u l => g₁ d u l ++
    g₂ d u (if (g₁ d u l).isEmpty then l else endsLine (g₁ d u l)), fun b => ?_⟩
  obtain ⟨ht₁, hd₁, hu₁⟩ := h₁ b
  obtain ⟨ht₂, hd₂, hu₂⟩ := h₂ (f₁ b)
  have hl : (f₁ b).atLineStart = if (g₁ b.depth b.unit b.atLineStart).isEmpty then b.atLineStart
      else endsLine (g₁ b.depth b.unit b.atLineStart) := by
    rw [atLineStart_eq, ht₁, startsLine_append, ← atLineStart_eq]
  rw [ht₂, ht₁, hd₂, hd₁, hu₂, hu₁, hl, String.append_assoc]
  exact ⟨rfl, rfl, rfl⟩

theorem isAppend_newline : IsAppend newline := isAppend_push fun _ _ _ => "\n"

theorem isAppend_emitRaw (t : String) : IsAppend (·.emitRaw t) := isAppend_push fun _ _ _ => t

/-- The indentation at a depth. -/
def indentationOf (depth : Nat) (unit : String) : String :=
  String.ofList (Block.copies depth unit.toList)

/-- A fragment as a block at a depth. -/
def blockOf (depth : Nat) (unit fragment : String) : String :=
  String.ofList (Block.format (indentationOf depth unit).toList unit.toList fragment.toList)

theorem isAppend_emitOpen (t : String) : IsAppend (·.emitOpen t) :=
  isAppend_push fun d u _ => blockOf d u t

theorem isAppend_emit (t : String) : IsAppend (·.emit t) :=
  (isAppend_emitOpen t).comp isAppend_newline

theorem isAppend_emitComment (t : String) : IsAppend (·.emitComment t) := by
  refine ⟨fun d u _ => blockOf d u "/*" ++ "\n" ++ String.ofList
    (Block.leadLines (indentationOf d u ++ " * ").toList (Block.unindent t.toList)) ++ "\n" ++
    (indentationOf d u ++ " */") ++ "\n", fun b => ⟨?_, rfl, rfl⟩⟩
  simp only [emitComment, emit, emitOpen, newline, text_push, String.append_assoc]
  rfl

end CxxWriter.Buffer
