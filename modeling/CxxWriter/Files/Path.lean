/-
  Paths of files.

  A path is kept in normal form: its parts without the empty ones and without
  those that are a single point.  A part of two points stays.
-/
import CxxWriter.Text.Blank

namespace CxxWriter

/-- A path in normal form. -/
structure Path where
  /-- The slashes at the front of an absolute path. -/
  root : String
  parts : List String
deriving DecidableEq, Repr, Inhabited

namespace Path

/-- The slashes that make a path absolute: two are kept, more are one. -/
def rootOf (cs : List Char) : String :=
  match cs.takeWhile (· == '/') with
  | [] => ""
  | ['/', '/'] => "//"
  | _ => "/"

/-- The normal form of a path. -/
def ofString (s : String) : Path :=
  ⟨rootOf s.toList, (Text.splitString '/' s).filter fun p => !p.isEmpty && p != "."⟩

/-- The path that an optional argument names; an empty one names none. -/
def given? (s : String) : Option Path := if s.isEmpty then none else some (ofString s)

/-- The text of a path. -/
def toString (p : Path) : String :=
  if p.root.isEmpty && p.parts.isEmpty then "." else p.root ++ String.intercalate "/" p.parts

/-- The last part. -/
def name (p : Path) : String := p.parts.getLast?.getD ""

/-- The path without its last part. -/
def parent (p : Path) : Path := { p with parts := p.parts.dropLast }

/-- The suffix of the last part, from its last point on.  A point at either
    end of the part starts no suffix. -/
def suffix (p : Path) : String :=
  let cs := p.name.toList
  let tail := (cs.reverse.takeWhile (· != '.')).reverse
  if tail.length + 1 < cs.length ∧ tail ≠ [] then String.ofList ('.' :: tail) else ""

/-- A path with more parts. -/
def append (p : Path) (parts : List String) : Path := { p with parts := p.parts ++ parts }

end Path

end CxxWriter
