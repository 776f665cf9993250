/-
  The text of a buffer, in one piece.

  * `Draft`: a text that is one string, to which something is appended or of
    which line feeds are taken off the end;
  * `Buffer.draft` is what a buffer holds, however its chunks lie;
  * each way to write to a buffer is the one to write to a draft
    (`draft_emitComment`, `draft_stripNewlines`, `draft_write` and their
    neighbours), and to join the chunks changes nothing (`draft_joined`).
-/
import CxxWriter.Initializer.Tree
import CxxWriter.Proofs.Buffer

namespace CxxWriter

/-! ## Drafts -/

/-- A text that is one string. -/
structure Draft where
  text : String
  /-- Was anything written, be it nothing but an empty text? -/
  isBegun : Bool
  /-- The number of levels of indentation. -/
  depth : Nat
  /-- The text of one level. -/
  unit : String
deriving DecidableEq, Repr

namespace Draft

/-- Would the next character start a line? -/
def startsLine (d : Draft) : Bool := Buffer.startsLine d.text

/-- Writes a text at the end. -/
def append (d : Draft) (t : String) : Draft := { d with text := d.text ++ t, isBegun := true }

/-- Takes the line feeds off the end. -/
def strip (d : Draft) : Draft := { d with text := Buffer.stripped d.text }

/-- Writes a line feed. -/
def newline (d : Draft) : Draft := d.append "\n"

/-- Writes a fragment as a block at the current indentation, without a line
    feed after it. -/
def emitOpen (d : Draft) (fragment : String) : Draft :=
  d.append (Buffer.blockOf d.depth d.unit fragment)

/-- Writes a fragment as a block at the current indentation. -/
def emit (d : Draft) (fragment : String) : Draft := (d.emitOpen fragment).newline

/-- Writes a comment. -/
def comment (d : Draft) (comment : String) : Draft :=
  let lead := Buffer.indentationOf d.depth d.unit
  let body := Block.leadLines (lead ++ " * ").toList (Block.unindent comment.toList)
  (d.emit "/*").append (String.ofList body ++ "\n" ++ lead ++ " */" ++ "\n")

/-- One level deeper. -/
def enter (d : Draft) : Draft := { d with depth := d.depth + 1 }

/-- One level up. -/
def leave (d : Draft) : Draft := { d with depth := d.depth - 1 }

/-- Changes the unit of indentation for what follows. -/
def withUnit (d : Draft) (unit : String) : Draft := { d with unit := unit }

/-- Would a change to `unit` leave lines of another unit above? -/
def mixesUnits (d : Draft) (unit : String) : Bool := d.isBegun && unit != d.unit

/-- Writes the opening delimiter of a tree. -/
def writeOpening (d : Draft) (opening : String) : Draft :=
  if d.startsLine then d.emit opening else (d.append opening).newline

mutual

/-- Writes a tree, up to the first value that is not a fragment. -/
def writeTree : Tree → Draft → Draft × Option Value
  | .leaf value, d =>
    match value.fragment? with
    | some s => (d.emitOpen s, none)
    | none => (d, some value)
  | .node opening closing children, d =>
    match writeItems children (d.writeOpening opening).enter with
    | (d, some v) => (d.leave, some v)
    | (d, none) => (d.leave.emitOpen closing, none)

/-- Writes the elements of a node, each on lines of its own. -/
def writeItems : List Tree → Draft → Draft × Option Value
  | [], d => (d, none)
  | t :: ts, d =>
    match writeTree t d with
    | (d, some v) => (d, some v)
    | (d, none) => writeItems ts (if ts.isEmpty then d else d.append ",").newline

end

end Draft

/-! ## What a buffer holds -/

namespace Buffer

theorem startsLine_iff (t : String) : startsLine t = true ↔ t = "" ∨ ∃ u, t = u ++ "\n" := by
  rw [startsLine, Bool.or_eq_true, String.isEmpty_iff, endsLine, beq_iff_eq]
  refine or_congr_right ⟨fun h => ?_, ?_⟩
  · obtain ⟨l, hl⟩ := List.getLast?_eq_some_iff.1 h
    exact ⟨String.ofList l, String.toList_inj.1 (by rw [hl, String.toList_append, String.toList_ofList]; rfl)⟩
  · rintro ⟨u, rfl⟩
    rw [String.toList_append, List.getLast?_append]
    rfl

/-- What a buffer holds, in one piece. -/
def draft (b : Buffer) : Draft := ⟨b.text, !b.chunks.isEmpty, b.depth, b.unit⟩

theorem atLineStart_draft (b : Buffer) : b.atLineStart = b.draft.startsLine := atLineStart_eq b

theorem mixesUnits_draft (b : Buffer) (unit : String) :
    b.mixesUnits unit = b.draft.mixesUnits unit := rfl

theorem draft_newline (b : Buffer) : b.newline.draft = b.draft.newline := rfl

theorem draft_emitRaw (b : Buffer) (t : String) : (b.emitRaw t).draft = b.draft.append t := rfl

theorem draft_emitOpen (b : Buffer) (t : String) : (b.emitOpen t).draft = b.draft.emitOpen t := rfl

theorem draft_emit (b : Buffer) (t : String) : (b.emit t).draft = b.draft.emit t := rfl

theorem draft_enter (b : Buffer) : b.enter.draft = b.draft.enter := rfl

theorem draft_emitComment (b : Buffer) (t : String) :
    (b.emitComment t).draft = b.draft.comment t := by
  have htext : (b.emitComment t).text = (b.draft.comment t).text := by
    simp only [emitComment, emit, emitOpen, newline, text_push, String.append_assoc, Draft.comment,
      Draft.emit, Draft.emitOpen, Draft.newline, Draft.append]
    rfl
  show Draft.mk _ true b.depth b.unit = _
  rw [htext]
  rfl

/-- Joining neither makes the first chunk nor takes it away. -/
theorem isEmpty_joined (b : Buffer) : b.joined.chunks.isEmpty = b.chunks.isEmpty := by
  obtain ⟨cs, d, u⟩ := b
  match cs with
  | [] | [_] | _ :: _ :: _ => rfl

/-- Joining the chunks does not change what they hold. -/
theorem draft_joined (b : Buffer) : b.joined.draft = b.draft := by
  rw [draft, draft, joined_text, isEmpty_joined, joined_depth, joined_unit]

/-- There are chunks after line feeds were taken off exactly if there were some
    before, even if no text is left. -/
theorem draft_stripNewlines (b : Buffer) : b.stripNewlines.draft = b.draft.strip := by
  have hbegun : b.stripNewlines.chunks.isEmpty = b.chunks.isEmpty := by
    obtain ⟨cs, d, u⟩ := b
    match cs with
    | [] => rfl
    | c :: cs =>
      unfold stripNewlines
      dsimp only
      split
      · exact isEmpty_joined _
      · rfl
  rw [draft, stripNewlines_text, hbegun, stripNewlines_depth, stripNewlines_unit]
  rfl

/-! ## Trees -/

theorem draft_writeOpening (opening : String) (b : Buffer) :
    (Tree.writeOpening opening b).draft = b.draft.writeOpening opening := by
  rw [Tree.writeOpening, Draft.writeOpening, atLineStart_draft]
  split <;> rfl

end Buffer

mutual

/-- A tree is written to a buffer as to a draft. -/
theorem Tree.draft_write (t : Tree) (b : Buffer) :
    ((t.write b).buffer.draft, (t.write b).rejected) = Draft.writeTree t b.draft := by
  match t with
  | .leaf value =>
    rw [Tree.write, Draft.writeTree]
    cases value.fragment? <;> rfl
  | .node opening closing children =>
    have hitems := Tree.draft_writeItems children (Tree.writeOpening opening b).enter
    rw [Buffer.draft_enter, Buffer.draft_writeOpening] at hitems
    rw [Tree.write, Draft.writeTree, ← hitems]
    cases (Tree.writeItems children (Tree.writeOpening opening b).enter).rejected <;> rfl

theorem Tree.draft_writeItems (ts : List Tree) (b : Buffer) :
    ((Tree.writeItems ts b).buffer.draft, (Tree.writeItems ts b).rejected) =
      Draft.writeItems ts b.draft := by
  match ts with
  | [] => rfl
  | t :: ts =>
    rw [Tree.writeItems, Draft.writeItems, ← Tree.draft_write t b]
    dsimp only
    cases (t.write b).rejected with
    | some v => rfl
    | none =>
      have hcomma (b' : Buffer) : (if ts.isEmpty then b' else b'.emitRaw ",").newline.draft =
          (if ts.isEmpty then b'.draft else b'.draft.append ",").newline := by
        split <;> rfl
      show _ = Draft.writeItems ts _
      rw [← hcomma]
      exact Tree.draft_writeItems ts _

end

end CxxWriter
