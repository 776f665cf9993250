/-
  Trees of nested initializers and how they are written.

  A tree is a value or a list of trees between delimiters.  `Tree.write` puts
  the delimiters on lines of their own, the elements one level deeper, and a
  comma after every element but the last.  An opening delimiter may follow
  other text on its line; no line feed follows the closing one.
-/
import CxxWriter.Buffer
import CxxWriter.Fragment

namespace CxxWriter

/-- A value, or trees between delimiters. -/
inductive Tree where
  | leaf (value : Value)
  | node (opening closing : String) (children : List Tree)
deriving Inhabited

/-- What writing a tree came to: the buffer, and the first value that is not
    a fragment, at which writing stopped. -/
structure Written where
  buffer : Buffer
  rejected : Option Value

namespace Tree

/-- Writes an opening delimiter: indented at the start of a line, else right
    after the text before it. -/
def writeOpening (opening : String) (b : Buffer) : Buffer :=
  if b.atLineStart then b.emit opening else (b.emitRaw opening).newline

mutual

/-- Writes a tree, up to the first value that is not a fragment. -/
def write : Tree → Buffer → Written
  | .leaf value, b =>
    match value.fragment? with
    | some s => ⟨b.emitOpen s, none⟩
    | none => ⟨b, some value⟩
  | .node opening closing children, b =>
    let inner := writeItems children (writeOpening opening b).enter
    let b := inner.buffer.leave
    match inner.rejected with
    | some v => ⟨b, some v⟩
    | none => ⟨b.emitOpen closing, none⟩

/-- Writes the elements of a node, each on lines of its own. -/
def writeItems : List Tree → Buffer → Written
  | [], b => ⟨b, none⟩
  | t :: ts, b =>
    let first := t.write b
    match first.rejected with
    | some v => ⟨first.buffer, some v⟩
    | none =>
      let b := if ts.isEmpty then first.buffer else first.buffer.emitRaw ","
      writeItems ts b.newline

end

end Tree

end CxxWriter
