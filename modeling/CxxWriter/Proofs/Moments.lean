/-
  The moments of a run.

  * `Op.moments` are the forests that an operation starts with, passes by, and
    ends with: those at the starts and ends of all operations in it.  With each
    goes the list of the composites that are going to get a nested one when a
    block ends which is running at that moment;
  * `Session.moments` are the moments of a script.
-/
import CxxWriter.Proofs.Phases

namespace CxxWriter

/-- A forest in a run. -/
structure Moment where
  forest : Forest
  /-- The composites with a running block that ends without an error. -/
  blocks : List Nat
deriving DecidableEq, Repr

namespace Op

open CxxWriter.Action

mutual

/-- The moments of an operation that starts while blocks are running. -/
def moments (op : Op) (s : Session) (blocks : List Nat) : List Moment :=
  ⟨s.forest, blocks⟩ :: ((match op with
    | .noted _ op => op.moments s blocks
    | .indented body _ | .attempt body | .guarded _ body | .struct _ body | .typedefStruct _ body
    | .function _ body | .constructor _ _ body | .declareWith _ body | .nestedWith _ _ _ body
    | .initializer _ _ body =>
      match op.opening.apply s with
      | (.ok ending, t) =>
        match (performAll body).apply t with
        | (.ok (), _) => allMoments body t (ending.places ++ blocks)
        | (.error _, _) => allMoments body t blocks
      | (.error _, _) => []
    | _ => []) ++ [⟨(op.perform.apply s).2.forest, blocks⟩])

/-- The moments of operations in order, up to the first that fails. -/
def allMoments : List Op → Session → List Nat → List Moment
  | [], _, _ => []
  | op :: ops, s, blocks =>
    op.moments s blocks ++
      match op.perform.apply s with
      | (.ok _, t) => allMoments ops t blocks
      | (.error _, _) => []

end

theorem moments_compound {op : Op} (h : op.isCompound = true) (s : Session) (blocks : List Nat) :
    op.moments s blocks = ⟨s.forest, blocks⟩ :: ((match op.opening.apply s with
      | (.ok ending, t) =>
        match (performAll op.body).apply t with
        | (.ok (), _) => allMoments op.body t (ending.places ++ blocks)
        | (.error _, _) => allMoments op.body t blocks
      | (.error _, _) => []) ++ [⟨(op.perform.apply s).2.forest, blocks⟩]) := by
  cases op <;> first | rfl | cases h

theorem moments_simple {op : Op} (h : op.isSimple = true) (s : Session) (blocks : List Nat) :
    op.moments s blocks = [⟨s.forest, blocks⟩, ⟨(op.perform.apply s).2.forest, blocks⟩] := by
  cases op <;> first | rfl | cases h

end Op

/-- The moments of a script, in order. -/
def Session.moments : List Op → Session → List Moment
  | [], _ => []
  | op :: ops, s =>
    op.moments { s with trace := [] } [] ++ moments ops (op.perform.apply { s with trace := [] }).2

end CxxWriter
