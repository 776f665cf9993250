/-
  Initializers form a forest.

  * `Forest.Sound.isTree`: nothing that was accepted is missing from a tree;
  * `Forest.Grown`: who is whose parent, and whose root;
  * `initializers_form_forest`: at every moment of a run composites have that
    structure, and an open root can be written.
-/
import CxxWriter.Proofs.Building
import CxxWriter.Proofs.Layout

namespace CxxWriter

open Event

/-! ## Trees of what was accepted -/

namespace Forest.Sound

variable {f : Forest} {es : List Event} {p c : Nat}

/-- A composite is an element of the one only that it was begun under. -/
theorem begun_of_accepted (h : f.Sound es) (hc : .composite c ∈ accepted p es) :
    (∃ b, .begun c (some p) b ∈ es) ∧ p < c ∧ c < f.size := by
  obtain ⟨-, b, hb⟩ := h.known _ (mem_accepted.1 hc)
  obtain ⟨-, -, -, hlt, -⟩ := h.rooted hb
  exact ⟨⟨b, hb⟩, hlt, h.lt_size hb⟩

theorem areTrees (h : f.Sound es) (ih : ∀ c, p < c → c < f.size → IsTree es c (f.tree c))
    {l : List Element} (hl : l ⊆ accepted p es) :
    AreTrees es l (l.filterMap fun
      | .text s => some (.leaf (.text s))
      | .composite child => if _ : p < child ∧ child < f.size then some (f.tree child) else none) := by
  induction l with
  | nil => exact .nil
  | cons e l ihl =>
    obtain ⟨he, hrest⟩ := List.cons_subset.1 hl
    cases e with
    | text s => exact .text (ihl hrest)
    | composite c =>
      obtain ⟨-, hlt, hsize⟩ := h.begun_of_accepted he
      rw [List.filterMap_cons_some (dif_pos ⟨hlt, hsize⟩)]
      exact .composite (ih c hlt hsize) (ihl hrest)

/-- Nothing that was accepted is missing from the tree of a composite. -/
theorem isTree (h : f.Sound es) (p : Nat) (hp : p < f.size) : IsTree es p (f.tree p) := by
  obtain ⟨c, hc⟩ : ∃ c, f.get? p = some c := ⟨_, List.getElem?_eq_getElem hp⟩
  obtain ⟨parent, b, hb⟩ := h.exists_begun hp
  obtain ⟨c', hc', hbr, -⟩ := h.rooted hb
  cases hc.symm.trans hc'
  subst hbr
  have hch := h.areTrees (p := p) (fun c hlt hsize => isTree h c hsize)
    (List.Subset.refl (accepted p es))
  rw [Forest.tree, hc]
  refine .node hb ?_
  rw [h.elements hc]
  exact hch
termination_by f.size - p

end Forest.Sound

mutual

/-- What was accepted can be written. -/
theorem IsTree.refusal? {es : List Event} {p : Nat} {t : Tree} (h : IsTree es p t) :
    t.refusal? = none := by
  match h with
  | .node _ hc => exact hc.refusals?

theorem AreTrees.refusals? {es : List Event} {l : List Element} {ts : List Tree}
    (h : AreTrees es l ts) : Tree.refusals? ts = none := by
  match h with
  | .nil => rfl
  | .text ht =>
    rw [Tree.refusals?, ht.refusals?]
    rfl
  | .composite ht hts =>
    rw [Tree.refusals?, ht.refusal?, hts.refusals?]
    rfl

end

/-! ## The result -/

/-- The elements of a composite. -/
def Forest.elementsOf (f : Forest) (p : Nat) : List Element := (f.elementsAt p).getD []

/-- Does a forest have the structure that the events of a run ask for? -/
structure Forest.Grown (f : Forest) (es : List Event) : Prop where
  /-- Places are given in the order in which composites are begun. -/
  places : es.filterMap begun? = List.range f.size
  /-- A composite is an element of one composite at most, -/
  single : ∀ {p q c}, .composite c ∈ f.elementsOf p → .composite c ∈ f.elementsOf q → p = q
  /-- and once at most; -/
  once : ∀ p c, (f.elementsOf p).count (.composite c) ≤ 1
  /-- it was begun under that one, and after it. -/
  parent : ∀ {p c}, .composite c ∈ f.elementsOf p → p < c ∧ ∃ b, .begun c (some p) b ∈ es
  /-- It has the root of what it was begun under, element or not. -/
  root : ∀ {p c b}, .begun c (some p) b ∈ es →
    p < c ∧ ∃ r, f.rootOf? p = some r ∧ f.rootOf? c = some r
  self : ∀ {p b}, .begun p none b ∈ es → f.rootOf? p = some p
  /-- What a failing block was building is an element of nothing. -/
  failed : ∀ {c}, .failed c ∈ es → ∀ p, .composite c ∉ f.elementsOf p

namespace Forest.Sound

variable {f : Forest} {es : List Event} {p c : Nat}

theorem elementsOf_eq (h : f.Sound es) (p : Nat) : f.elementsOf p = accepted p es := by
  rw [elementsOf, elementsAt]
  cases hc : f.get? p with
  | some c => exact h.elements hc
  | none =>
    rw [eq_comm, Option.map_none, Option.getD_none, List.eq_nil_iff_forall_not_mem]
    intro e he
    have hlt := h.accepted_lt (mem_accepted.1 he)
    rw [Forest.get?, List.getElem?_eq_none_iff] at hc
    exact absurd hlt (Nat.not_lt.2 hc)

/-- A composite becomes an element once. -/
theorem count_accepted (h : f.Sound es) (p c : Nat) :
    (accepted p es).count (.composite c) ≤ 1 := by
  have hn : (es.filterMap settled?).count c ≤ 1 := List.nodup_iff_count_le_one.1 h.once c
  have hle : (accepted p es).count (.composite c) ≤ (es.filterMap settled?).count c := by
    rw [accepted, List.count_filterMap, List.count_filterMap]
    refine List.countP_mono_left fun x _ hx => ?_
    have hx : x.accepted? p = some (.composite c) := by simpa using hx
    have hs : x.settled? = some c := by
      cases x with
      | accepted q e =>
        rw [accepted?] at hx
        split at hx
        · cases hx
          rfl
        · cases hx
      | _ => cases hx
    rw [hs]
    exact beq_self_eq_true _
  omega

theorem mem_accepted_of_elementsOf (h : f.Sound es) {e : Element} (he : e ∈ f.elementsOf p) :
    e ∈ accepted p es := by
  rwa [← h.elementsOf_eq p]

theorem grown (h : f.Sound es) : f.Grown es where
  places := h.begun
  single hp hq := by
    obtain ⟨⟨b, hb⟩, -⟩ := h.begun_of_accepted (h.mem_accepted_of_elementsOf hp)
    obtain ⟨⟨b', hb'⟩, -⟩ := h.begun_of_accepted (h.mem_accepted_of_elementsOf hq)
    exact Option.some.inj (h.begun_unique hb hb').1
  once p c := by
    rw [h.elementsOf_eq]
    exact h.count_accepted p c
  parent hp := by
    obtain ⟨hb, hlt, -⟩ := h.begun_of_accepted (h.mem_accepted_of_elementsOf hp)
    exact ⟨hlt, hb⟩
  root hb := by
    obtain ⟨d, hd, -, hlt, -, k, hk, hroot⟩ := h.rooted hb
    exact ⟨hlt, k.root, by rw [rootOf?, hk]; rfl, by rw [rootOf?, hd, ← hroot]; rfl⟩
  self hb := by
    obtain ⟨d, hd, -, hroot⟩ := h.rooted hb
    rw [rootOf?, hd, Option.map_some, hroot]
  failed hf p hp := by
    -- a composite is settled once, by becoming an element or by being given up
    cases eq_of_nodup h.once (mem_accepted.1 (h.mem_accepted_of_elementsOf hp)) hf rfl rfl

end Forest.Sound

open CxxWriter.Action in
/-- Writing an open root succeeds and appends the tree of what was accepted. -/
theorem writeInitializer_text {s : Session} {es : List Event} (h : s.Sound es) {p : Nat}
    (hr : s.forest.isRoot p = true) (ho : s.forest.isClosed p = false) :
    ∃ t u, IsTree es p t ∧ (writeInitializer p).apply s = (.ok (), u) ∧
      u.buffer.text = s.buffer.text ++
        if s.buffer.atLineStart then t.shown s.buffer.depth s.buffer.unit
        else t.shownAfter s.buffer.depth s.buffer.unit := by
  have hp : p < s.forest.size := by
    obtain ⟨c, hc, -⟩ := (Option.any_eq_true _ _).1 hr
    exact (List.getElem?_eq_some_iff.1 hc).1
  have hclosed := h.forest.congr (Forest.unwritten_close s.forest p)
  have hsize := s.forest.size_close p
  have ht := hclosed.isTree p (by omega)
  have hroot := apply_closeRoot p s
  rw [if_pos hr, ho, if_neg (by simp)] at hroot
  have hw : (((s.forest.close p).tree p).write s.buffer).rejected = none := by
    rw [Tree.write_rejected, ht.refusal?]
  refine ⟨_, { s with
    buffer := (((s.forest.close p).tree p).write s.buffer).buffer
    forest := s.forest.close p
    log := s.log ++ [announcement (s.forest.close p) p] }, ht, ?_, ?_⟩
  · rw [writeInitializer_eq, apply_bind_ok hroot]
    exact apply_writeTree_written hw
  · cases hl : s.buffer.atLineStart with
    | true => exact Tree.write_text _ ht.refusal? hl
    | false => exact Tree.write_text_after _ ht.refusal? hl

/-- **Initializers form a forest, and nothing of them is left out.** At every
    moment of a run composites have the structure of `Forest.Grown`.  Writing an
    open root at that moment succeeds, and appends the tree in which each element
    that a composite accepted stands for itself, in order, and nothing else. -/
theorem initializers_form_forest {s : Session} {es : List Event} (h : Reached s es) :
    s.forest.Grown es ∧
    ∀ p, s.forest.isRoot p = true → s.forest.isClosed p = false →
      ∃ t u, IsTree es p t ∧ (Action.writeInitializer p).apply s = (.ok (), u) ∧
        u.buffer.text = s.buffer.text ++
          if s.buffer.atLineStart then t.shown s.buffer.depth s.buffer.unit
          else t.shownAfter s.buffer.depth s.buffer.unit :=
  ⟨h.sound.forest.grown, fun _ hr ho => writeInitializer_text h.sound hr ho⟩

/-- A structure that is given up inside of an array, and an array in its place. -/
theorem initializers_form_forest_attempt :
    let s₀ := Session.start .empty Config.default "\t" Files.empty []
    let s₁ := ((Op.beginInitializer .array "a").perform.apply s₀).2
    let op₂ := Op.attempt [.nestedWith "a" .struct "b" [.element "b" (.text "1"), .element "b" .null]]
    let s₂ := (op₂.perform.apply s₁).2
    let op₃ := Op.nestedWith "a" .array "c" [.element "c" (.text "2")]
    let s₃ := (op₃.perform.apply s₂).2
    let es := [.begun 0 none .array, .begun 1 (some 0) .struct, .accepted 1 (.text "1"), .failed 1,
      .begun 2 (some 0) .array, .accepted 2 (.text "2"), .accepted 0 (.composite 2)]
    Reached s₃ es ∧ s₃.forest.isRoot 0 = true ∧ s₃.forest.isClosed 0 = false ∧
      s₃.forest.elementsOf 0 = [.composite 2] ∧ s₃.forest.Grown es ∧
      ∃ t u, IsTree es 0 t ∧ (Action.writeInitializer 0).apply s₃ = (.ok (), u) := by
  intro s₀ s₁ op₂ s₂ op₃ s₃ es
  have hes : [] ++ (Op.beginInitializer .array "a").events s₀ ++ op₂.events s₁ ++ op₃.events s₂ =
      es := by decide +kernel
  have h₃ : Reached s₃ es := by
    rw [← hes]
    exact .perform op₃ (.perform op₂ (.perform (.beginInitializer .array "a") (.start _ _ _ _ _)))
  have hr : s₃.forest.isRoot 0 = true := by decide +kernel
  have ho : s₃.forest.isClosed 0 = false := by decide +kernel
  obtain ⟨hg, hw⟩ := initializers_form_forest h₃
  obtain ⟨t, u, ht, hu, -⟩ := hw 0 hr ho
  exact ⟨h₃, hr, ho, by decide +kernel, hg, t, u, ht, hu⟩

end CxxWriter
