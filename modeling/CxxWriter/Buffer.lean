/-
  The text written so far.

  A buffer holds its text in chunks, the newest first, with the depth of the
  current indentation and the text of one level of it.

  * `text` is the whole text, `joined` the buffer with its chunks made one;
  * `emit` writes a fragment as a block at the current indentation, `emitRaw`
    writes a text as it is, `emitComment` a comment of its own lines;
  * `atLineStart` looks at the newest chunk that is not empty.
-/
import CxxWriter.Block

namespace CxxWriter

/-- A text that grows at its end. -/
structure Buffer where
  /-- The pieces of the text, the newest first. -/
  chunks : List String
  /-- The number of levels of indentation. -/
  depth : Nat
  /-- The text of one level. -/
  unit : String
deriving DecidableEq, Repr

namespace Buffer

/-- A buffer without text. -/
def empty (unit : String) : Buffer := ⟨[], 0, unit⟩

/-- The text of chunks that are given newest first. -/
def textOf : List String → String
  | [] => ""
  | c :: cs => textOf cs ++ c

/-- The whole text. -/
def text (b : Buffer) : String := textOf b.chunks

/-- Makes the chunks one, if there are several. -/
def joined (b : Buffer) : Buffer :=
  match b.chunks with
  | [] | [_] => b
  | _ => { b with chunks := [b.text] }

/-- Does the text end with a line feed? -/
def endsLine (s : String) : Bool := s.toList.getLast? == some '\n'

/-- Would the next character start a line, after these chunks? -/
def atLineStartOf : List String → Bool
  | [] => true
  | c :: cs => if c.isEmpty then atLineStartOf cs else endsLine c

/-- Would the next character start a line? -/
def atLineStart (b : Buffer) : Bool := atLineStartOf b.chunks

/-- The text in front of a line at the current depth. -/
def indentation (b : Buffer) : String := String.ofList (Block.copies b.depth b.unit.toList)

/-- Appends a chunk. -/
def push (b : Buffer) (s : String) : Buffer := { b with chunks := s :: b.chunks }

/-- Writes a line feed. -/
def newline (b : Buffer) : Buffer := b.push "\n"

/-- Writes a text as it is. -/
def emitRaw (b : Buffer) (s : String) : Buffer := b.push s

/-- A fragment as a block at the current indentation. -/
def formatted (b : Buffer) (fragment : String) : String :=
  String.ofList (Block.format b.indentation.toList b.unit.toList fragment.toList)

/-- Writes a fragment as a block at the current indentation, without a line
    feed after it. -/
def emitOpen (b : Buffer) (fragment : String) : Buffer := b.push (b.formatted fragment)

/-- Writes a fragment as a block at the current indentation. -/
def emit (b : Buffer) (fragment : String) : Buffer := (b.emitOpen fragment).newline

/-- Writes a comment.  Its lines lose their margin but keep their spaces. -/
def emitComment (b : Buffer) (comment : String) : Buffer :=
  let lead := (b.indentation ++ " * ").toList
  let body := Block.leadLines lead (Block.unindent comment.toList)
  let b := (b.emit "/*").push (String.ofList body)
  (b.newline.push (b.indentation ++ " */")).newline

/-- Removes the line feeds at the end of the text. -/
def stripNewlines (b : Buffer) : Buffer :=
  let b := b.joined
  let stripped := String.ofList (Text.trimEnd (· == '\n') b.text.toList)
  if stripped = b.text then b else { b with chunks := [stripped] }

/-- One level deeper. -/
def enter (b : Buffer) : Buffer := { b with depth := b.depth + 1 }

/-- One level up. -/
def leave (b : Buffer) : Buffer := { b with depth := b.depth - 1 }

/-- Changes the unit of indentation for what follows. -/
def withUnit (b : Buffer) (unit : String) : Buffer := { b with unit := unit }

/-- Would a change to `unit` leave lines of another unit above? -/
def mixesUnits (b : Buffer) (unit : String) : Bool := !b.chunks.isEmpty && unit != b.unit

end Buffer

end CxxWriter
