/-
  Writing a root.

  * `Forest.tree_induction`: what holds of the values of composites, and of what
    stands between brackets if it holds of the parts, holds of their trees;
  * `apply_writeInitializer`: an open root is always written, since its tree
    contains fragments only.
-/
import CxxWriter.Proofs.Initializer

namespace CxxWriter

theorem Tree.refusals?_eq_none {ts : List Tree} :
    refusals? ts = none ↔ ∀ t ∈ ts, t.refusal? = none := by
  induction ts with
  | nil => simp [refusals?]
  | cons t ts ih => simp [refusals?, Option.or_eq_none_iff, ih]

namespace Forest

/-- The elements of a composite become the values and trees between its
    brackets. -/
theorem tree_induction {P : Tree → Prop} (f : Forest)
    (text : ∀ {p c s}, f.get? p = some c → .text s ∈ c.elements → P (.leaf (.text s)))
    (node : ∀ (b : Brackets) {children : List Tree}, (∀ t ∈ children, P t) →
      P (.node b.opening b.closing children))
    (p : Nat) (hp : p < f.size) : P (f.tree p) := by
  have hc : f.get? p = some f.composites[p] := List.getElem?_eq_getElem hp
  rw [tree, hc]
  refine node _ fun t ht => ?_
  obtain ⟨e, he, hte⟩ := List.mem_filterMap.1 ht
  cases e with
  | text s =>
    cases hte
    exact text hc he
  | composite child =>
    dsimp only at hte
    split at hte
    · next hlt =>
      cases hte
      exact tree_induction f text node child hlt.2
    · cases hte
termination_by f.size - p

/-- The tree of a composite can be written. -/
theorem refusal?_tree (f : Forest) (p : Nat) : (f.tree p).refusal? = none := by
  by_cases hp : p < f.size
  · exact tree_induction f (fun _ _ => rfl) (fun _ _ h => Tree.refusals?_eq_none.2 h) p hp
  · have hn : f.get? p = none := List.getElem?_eq_none (Nat.le_of_not_lt hp)
    rw [tree, hn]
    rfl

end Forest

namespace Action

theorem apply_writeInitializer (place : Nat) (s : Session) :
    (writeInitializer place).apply s =
      if s.forest.isRoot place then
        if s.forest.isClosed place then (.error .alreadyWritten, s)
        else (.ok (), { s with
          buffer := (((s.forest.close place).tree place).write s.buffer).buffer
          forest := s.forest.close place
          log := s.log ++ [announcement (s.forest.close place) place] })
      else (.error .notOutermost, s) := by
  have hroot := apply_closeRoot place s
  rw [writeInitializer_eq]
  by_cases hr : s.forest.isRoot place
  · rw [if_pos hr] at hroot ⊢
    by_cases hc : s.forest.isClosed place
    · rw [if_pos hc] at hroot ⊢
      rw [apply_bind_error hroot]
    · rw [if_neg hc] at hroot ⊢
      rw [apply_bind_ok hroot]
      exact apply_writeTree_written ((Tree.write_rejected _ _).trans (Forest.refusal?_tree _ _))
  · rw [if_neg hr] at hroot ⊢
    rw [apply_bind_error hroot]

end Action

end CxxWriter
