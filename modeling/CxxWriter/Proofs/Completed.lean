/-
  Initializers that are not complete yet.

  * `completed f todo p`: the tree below the composite at `p`, once each
    composite has got the trees that `todo` says are still to be added to it;
  * `completed_attach`: adding an element that stands for the next of these
    trees changes no such tree, and neither does beginning a composite
    (`completed_add`);
  * `Enlarged f g`: composites have the same roots in `g`, and have been written in
    `g` if they have been in `f`.
-/
import CxxWriter.Proofs.Forest
import Mathlib.Data.List.Basic

namespace CxxWriter.Forest

/-! ## Trees to be -/

/-- The tree of an element, if composites have these trees: those before the
    composite it is in do not count. -/
def branch (size place : Nat) (tree : Nat → Tree) : Element → Option Tree
  | .text s => some (.leaf (.text s))
  | .composite child => if place < child ∧ child < size then some (tree child) else none

theorem branch_congr {size place : Nat} {tree tree' : Nat → Tree}
    (h : ∀ child, place < child → child < size → tree child = tree' child) :
    branch size place tree = branch size place tree' := by
  funext e
  cases e with
  | text s => rfl
  | composite child =>
    rw [branch, branch]
    split
    · next hlt => rw [h child hlt.1 hlt.2]
    · rfl

theorem branch_composite {size place child : Nat} (tree : Nat → Tree) (hlt : place < child)
    (hsize : child < size) : branch size place tree (.composite child) = some (tree child) :=
  if_pos ⟨hlt, hsize⟩

/-- The tree below a composite, once composites have got what is still to be
    added to them. -/
def completed (f : Forest) (todo : Nat → List Tree) (place : Nat) : Tree :=
  match f.get? place with
  | none => .node "" "" []
  | some c => .node c.brackets.opening c.brackets.closing <| (c.elements.filterMap fun
      | .text s => some (.leaf (.text s))
      | .composite child =>
        if _ : place < child ∧ child < f.size then some (f.completed todo child) else none) ++
      todo place
termination_by f.size - place

variable {f : Forest} {todo todo' : Nat → List Tree} {p : Nat} {c : Composite}

theorem completed_eq (hc : f.get? p = some c) :
    f.completed todo p = .node c.brackets.opening c.brackets.closing
      (c.elements.filterMap (branch f.size p (f.completed todo)) ++ todo p) := by
  rw [completed, hc]
  rfl

theorem tree_eq (hc : f.get? p = some c) :
    f.tree p = .node c.brackets.opening c.brackets.closing
      (c.elements.filterMap (branch f.size p f.tree)) := by
  rw [tree, hc]
  rfl

/-- Where nothing is to be added, the tree is there. -/
theorem completed_nil (f : Forest) (h : ∀ p, todo p = []) (p : Nat) :
    f.completed todo p = f.tree p := by
  cases hc : f.get? p with
  | none => rw [completed, tree, hc]
  | some c =>
    rw [completed_eq hc, tree_eq hc, h, List.append_nil,
      branch_congr fun child hlt hsize => completed_nil f h child]
termination_by f.size - p

/-- What is to be added where no composite was begun does not count. -/
theorem completed_congr (h : ∀ q < f.size, todo' q = todo q) (p : Nat) :
    f.completed todo' p = f.completed todo p := by
  cases hc : f.get? p with
  | none => rw [completed, completed, hc]
  | some c =>
    rw [completed_eq hc, completed_eq hc, h p (List.getElem?_eq_some_iff.1 hc).1,
      branch_congr fun child hlt hsize => completed_congr h child]
termination_by f.size - p

/-- An element may take the place of the next tree to be added, if it stands for
    that tree. -/
theorem completed_attach {e : Element} {q : Nat} {t : Tree}
    (he : branch f.size q (f.completed todo) e = some t) (hq : todo q = t :: todo' q)
    (hsame : ∀ p, p ≠ q → todo' p = todo p) (p : Nat) :
    (f.attach q e).completed todo' p = f.completed todo p := by
  have hget := get?_attach f q e p
  cases hc : f.get? p with
  | none =>
    rw [hc] at hget
    rw [completed, completed, hc, hget, Option.map_none]
  | some c =>
    rw [hc, Option.map_some] at hget
    have hbranch : branch (f.attach q e).size p ((f.attach q e).completed todo') =
        branch f.size p (f.completed todo) := by
      rw [size_attach]
      exact branch_congr fun child hlt hsize => completed_attach he hq hsame child
    by_cases hp : q = p
    · subst hp
      rw [if_pos rfl] at hget
      rw [completed_eq hc, completed_eq hget, hbranch, List.filterMap_append,
        List.filterMap_cons_some he, hq, List.append_assoc]
      rfl
    · rw [if_neg hp] at hget
      rw [completed_eq hc, completed_eq hget, hbranch, hsame p (Ne.symm hp)]
termination_by f.size - p

/-- Have the composites been begun that are elements of those from a place
    on? -/
def BegunFrom (n : Nat) (f : Forest) : Prop :=
  ∀ ⦃p c⦄, n ≤ p → f.get? p = some c → ∀ child, .composite child ∈ c.elements → child < f.size

theorem get?_add_of_lt (f : Forest) (c : Composite) (hp : p < f.size) :
    Forest.get? ⟨f.composites ++ [c]⟩ p = f.get? p :=
  List.getElem?_append_left hp

theorem get?_add_self (f : Forest) (c : Composite) :
    Forest.get? ⟨f.composites ++ [c]⟩ f.size = some c :=
  List.getElem?_concat_length

theorem size_add (f : Forest) (c : Composite) : Forest.size ⟨f.composites ++ [c]⟩ = f.size + 1 :=
  List.length_append

theorem BegunFrom.add {n : Nat} (h : f.BegunFrom n) (hc : c.elements = []) :
    Forest.BegunFrom n ⟨f.composites ++ [c]⟩ := by
  intro p d hp hd child hmem
  rw [size_add]
  by_cases hlt : p < f.size
  · rw [get?_add_of_lt f c hlt] at hd
    exact Nat.lt_succ_of_lt (h hp hd child hmem)
  · have hle := (List.getElem?_eq_some_iff.1 hd).1
    rw [List.length_append] at hle
    have hpe : p = f.size := by
      have : f.size = f.composites.length := rfl
      simp only [List.length_singleton] at hle
      omega
    rw [hpe, get?_add_self] at hd
    cases hd
    rw [hc] at hmem
    cases hmem

theorem BegunFrom.attach {n q : Nat} {e : Element} (h : f.BegunFrom n)
    (he : ∀ child, e = .composite child → child < f.size) : (f.attach q e).BegunFrom n := by
  intro p d hp hd child hmem
  rw [get?_attach] at hd
  obtain ⟨c, hc, rfl⟩ := Option.map_eq_some_iff.1 hd
  rw [size_attach]
  split at hmem
  · rcases List.mem_append.1 hmem with hmem | hmem
    · exact h hp hc child hmem
    · exact he child (List.mem_singleton.1 hmem).symm
  · exact h hp hc child hmem

/-- A composite that is begun is in no tree yet. -/
theorem completed_add {n p : Nat} (h : f.BegunFrom n) (c : Composite) (hn : n ≤ p)
    (hp : p < f.size) : Forest.completed ⟨f.composites ++ [c]⟩ todo p = f.completed todo p := by
  obtain ⟨d, hd⟩ : ∃ d, f.get? p = some d := ⟨_, List.getElem?_eq_getElem hp⟩
  have hd' := (get?_add_of_lt f c hp).trans hd
  rw [completed_eq hd, completed_eq hd']
  congr 2
  refine List.filterMap_congr fun e he => ?_
  cases e with
  | text s => rfl
  | composite child =>
    have hsize := h hn hd child he
    rw [branch, branch, size_add]
    by_cases hlt : p < child
    · rw [if_pos ⟨hlt, by omega⟩, if_pos ⟨hlt, hsize⟩,
        completed_add h c (Nat.le_trans hn (Nat.le_of_lt hlt)) hsize]
    · rw [if_neg fun h => hlt h.1, if_neg fun h => hlt h.1]
termination_by f.size - p

/-! ## What stays -/

/-- To have been written does not change a tree. -/
theorem tree_close (f : Forest) (q p : Nat) : (f.close q).tree p = f.tree p := by
  have hget := get?_close f q p
  cases hc : f.get? p with
  | none =>
    rw [hc] at hget
    rw [tree, tree, hc, hget, Option.map_none]
  | some c =>
    rw [hc, Option.map_some] at hget
    have hbranch : branch (f.close q).size p (f.close q).tree = branch f.size p f.tree := by
      rw [size_close]
      exact branch_congr fun child hlt hsize => tree_close f q child
    rw [tree_eq hc, tree_eq hget, hbranch]
    by_cases hq : q = p
    · rw [if_pos hq]
    · rw [if_neg hq]
termination_by f.size - p

/-- Has the composite itself been written? -/
def isWritten (f : Forest) (p : Nat) : Bool := (f.get? p).any (·.isWritten)

theorem isClosed_eq (f : Forest) (p : Nat) : f.isClosed p = (f.rootOf? p).any f.isWritten := by
  rw [isClosed, rootOf?, Option.any_map]
  rfl

theorem isRoot_eq (f : Forest) (p : Nat) : f.isRoot p = (f.rootOf? p).any (· == p) := by
  rw [isRoot, rootOf?, Option.any_map]

/-- Do composites keep their roots, and is written what was? -/
structure Enlarged (f g : Forest) : Prop where
  size : f.size ≤ g.size
  root : ∀ p < f.size, g.rootOf? p = f.rootOf? p
  written : ∀ p, g.isWritten p = f.isWritten p

namespace Enlarged

variable {g h : Forest}

theorem refl (f : Forest) : Enlarged f f := ⟨Nat.le_refl _, fun _ _ => rfl, fun _ => rfl⟩

theorem trans (hfg : Enlarged f g) (hgh : Enlarged g h) : Enlarged f h where
  size := Nat.le_trans hfg.size hgh.size
  root p hp := (hgh.root p (Nat.lt_of_lt_of_le hp hfg.size)).trans (hfg.root p hp)
  written p := (hgh.written p).trans (hfg.written p)

theorem isClosed (hfg : Enlarged f g) (hp : p < f.size) : g.isClosed p = f.isClosed p := by
  rw [isClosed_eq, isClosed_eq, hfg.root p hp, funext hfg.written]

theorem isRoot (hfg : Enlarged f g) (hp : p < f.size) : g.isRoot p = f.isRoot p := by
  rw [isRoot_eq, isRoot_eq, hfg.root p hp]

theorem add (f : Forest) {c : Composite} (hc : c.isWritten = false) :
    Enlarged f ⟨f.composites ++ [c]⟩ where
  size := by rw [size_add]; omega
  root p hp := by rw [rootOf?, rootOf?, get?_add_of_lt f c hp]
  written p := by
    rcases Nat.lt_trichotomy p f.size with hp | hp | hp
    · rw [isWritten, isWritten, get?_add_of_lt f c hp]
    · have hnone : f.get? p = none := List.getElem?_eq_none (Nat.le_of_eq hp.symm)
      rw [isWritten, isWritten, hnone, hp, get?_add_self, Option.any_some, hc]
      rfl
    · have hnone : f.get? p = none := List.getElem?_eq_none (Nat.le_of_lt hp)
      have hnone' : Forest.get? ⟨f.composites ++ [c]⟩ p = none :=
        List.getElem?_eq_none (by rw [List.length_append]; exact hp)
      rw [isWritten, isWritten, hnone, hnone']

theorem attach (f : Forest) (q : Nat) (e : Element) : Enlarged f (f.attach q e) where
  size := Nat.le_of_eq (size_attach f q e).symm
  root p _ := by
    rw [rootOf?, rootOf?, get?_attach, Option.map_map]
    congr 1
    funext c
    show (if q = p then _ else c).root = c.root
    split <;> rfl
  written p := by
    rw [Forest.isWritten, Forest.isWritten, get?_attach, Option.any_map]
    congr 1
    funext c
    show (if q = p then _ else c).isWritten = c.isWritten
    split <;> rfl

end Enlarged

end CxxWriter.Forest
