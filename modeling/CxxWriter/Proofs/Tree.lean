/-
  What writing a tree comes to.

  * `refusal?` is the first value of a tree that is not a fragment: writing
    stops at it whatever the buffer is (`write_rejected`);
  * `isAppend_write`: writing only appends, at the depth it started at;
  * `RefusedAt t b v b'`: on the way through `t` from the buffer `b`, the value
    `v` is refused at a moment when the buffer is `b'`.  Nothing is written
    after that moment (`RefusedAt.write`).
-/
import CxxWriter.Initializer.Tree
import CxxWriter.Proofs.Buffer

namespace CxxWriter.Tree

open Buffer (IsAppend)

/-! ## What is written -/

mutual

/-- The first value of a tree that is not a fragment. -/
def refusal? : Tree → Option Value
  | .leaf value => if value.fragment?.isSome then none else some value
  | .node _ _ children => refusals? children

/-- The first value of trees that is not a fragment. -/
def refusals? : List Tree → Option Value
  | [] => none
  | t :: ts => (refusal? t).or (refusals? ts)

end

mutual

theorem write_rejected (t : Tree) (b : Buffer) : (t.write b).rejected = t.refusal? := by
  match t with
  | .leaf v =>
    simp only [write, refusal?]
    cases v.fragment? <;> rfl
  | .node opening closing children =>
    simp only [write, refusal?, ← writeItems_rejected children (writeOpening opening b).enter]
    split <;> simp_all

theorem writeItems_rejected (ts : List Tree) (b : Buffer) :
    (writeItems ts b).rejected = refusals? ts := by
  match ts with
  | [] => rfl
  | t :: ts =>
    have ht := write_rejected t b
    simp only [writeItems, refusals?, ← ht]
    split
    · next v hv => simp [hv]
    · next hv => simp [hv, writeItems_rejected ts]

end

theorem isAppend_writeOpening (opening : String) : IsAppend (writeOpening opening) := by
  obtain ⟨g₁, h₁⟩ := Buffer.isAppend_emit opening
  obtain ⟨g₂, h₂⟩ := (Buffer.isAppend_emitRaw opening).comp Buffer.isAppend_newline
  refine ⟨fun d u l => if l then g₁ d u l else g₂ d u l, fun b => ?_⟩
  unfold writeOpening
  split
  · next h => simpa [h] using h₁ b
  · next h => simpa [h] using h₂ b

/-- Appending one level deeper is appending. -/
theorem isAppend_deeper {f : Buffer → Buffer} (h : IsAppend f) :
    IsAppend fun b => (f b.enter).leave := by
  obtain ⟨g, h⟩ := h
  refine ⟨fun d u l => g (d + 1) u l, fun b => ?_⟩
  obtain ⟨ht, hd, hu⟩ := h b.enter
  exact ⟨ht, by show (f b.enter).depth - 1 = b.depth; rw [hd]; rfl, hu⟩

mutual

theorem isAppend_write (t : Tree) : IsAppend fun b => (t.write b).buffer := by
  match t with
  | .leaf v =>
    simp only [write]
    cases v.fragment? with
    | none => exact ⟨fun _ _ _ => "", fun b => ⟨by simp, rfl, rfl⟩⟩
    | some s => exact Buffer.isAppend_emitOpen s
  | .node opening closing children =>
    have inner := (isAppend_writeOpening opening).comp (isAppend_deeper (isAppend_writeItems children))
    simp only [write, writeItems_rejected]
    cases refusals? children with
    | some v => exact inner
    | none => exact inner.comp (Buffer.isAppend_emitOpen closing)

theorem isAppend_writeItems (ts : List Tree) : IsAppend fun b => (writeItems ts b).buffer := by
  match ts with
  | [] => exact ⟨fun _ _ _ => "", fun b => ⟨by simp [writeItems], rfl, rfl⟩⟩
  | t :: ts =>
    simp only [writeItems, write_rejected]
    cases t.refusal? with
    | some v => exact isAppend_write t
    | none =>
      refine (IsAppend.comp ?_ Buffer.isAppend_newline).comp (isAppend_writeItems ts)
      cases ts.isEmpty
      · exact (isAppend_write t).comp (Buffer.isAppend_emitRaw ",")
      · exact isAppend_write t

end

/-! ## The moment of a refusal -/

mutual

/-- On the way through a tree a value is refused at a moment when the buffer is
    the last one. -/
inductive RefusedAt : Tree → Buffer → Value → Buffer → Prop
  | leaf {v b} : v.fragment? = none → RefusedAt (.leaf v) b v b
  | node {opening closing children b v b'} :
      ItemsRefusedAt children (writeOpening opening b).enter v b' →
      RefusedAt (.node opening closing children) b v b'

/-- On the way through the elements of a node a value is refused. -/
inductive ItemsRefusedAt : List Tree → Buffer → Value → Buffer → Prop
  | first {t ts b v b'} : RefusedAt t b v b' → ItemsRefusedAt (t :: ts) b v b'
  | later {t ts b v b'} : (t.write b).rejected = none →
      ItemsRefusedAt ts
        (if ts.isEmpty then (t.write b).buffer else (t.write b).buffer.emitRaw ",").newline v b' →
      ItemsRefusedAt (t :: ts) b v b'

end

mutual

theorem exists_refusedAt (t : Tree) {b : Buffer} {v : Value} (h : (t.write b).rejected = some v) :
    ∃ b', RefusedAt t b v b' := by
  match t with
  | .leaf w =>
    simp only [write] at h
    cases hw : w.fragment? with
    | some s => rw [hw] at h; cases h
    | none => rw [hw] at h; cases h; exact ⟨b, .leaf hw⟩
  | .node opening closing children =>
    simp only [write] at h
    cases hc : (writeItems children (writeOpening opening b).enter).rejected with
    | none => rw [hc] at h; cases h
    | some w =>
      rw [hc] at h; cases h
      obtain ⟨b', hb'⟩ := exists_itemsRefusedAt children hc
      exact ⟨b', .node hb'⟩

theorem exists_itemsRefusedAt (ts : List Tree) {b : Buffer} {v : Value}
    (h : (writeItems ts b).rejected = some v) : ∃ b', ItemsRefusedAt ts b v b' := by
  match ts with
  | [] => cases h
  | t :: ts =>
    simp only [writeItems] at h
    cases ht : (t.write b).rejected with
    | some w =>
      rw [ht] at h; cases h
      obtain ⟨b', hb'⟩ := exists_refusedAt t ht
      exact ⟨b', .first hb'⟩
    | none =>
      rw [ht] at h
      obtain ⟨b', hb'⟩ := exists_itemsRefusedAt ts h
      exact ⟨b', .later ht hb'⟩

end

mutual

/-- Writing ends with the text of the moment of the refusal. -/
theorem RefusedAt.write {t : Tree} {b b' : Buffer} {v : Value} (h : RefusedAt t b v b') :
    v.fragment? = none ∧ (t.write b).rejected = some v ∧ (t.write b).buffer.text = b'.text := by
  match h with
  | .leaf hv => simp [Tree.write, hv]
  | .node hc =>
    obtain ⟨hv, hr, ht⟩ := hc.writeItems
    simp only [Tree.write, hr]
    exact ⟨hv, trivial, ht⟩

theorem ItemsRefusedAt.writeItems {ts : List Tree} {b b' : Buffer} {v : Value}
    (h : ItemsRefusedAt ts b v b') :
    v.fragment? = none ∧ (writeItems ts b).rejected = some v ∧
      (writeItems ts b).buffer.text = b'.text := by
  match h with
  | .first ht =>
    obtain ⟨hv, hr, ht⟩ := ht.write
    simp only [Tree.writeItems, hr]
    exact ⟨hv, trivial, ht⟩
  | .later hn hl =>
    obtain ⟨hv, hr, ht⟩ := hl.writeItems
    simp only [Tree.writeItems, hn]
    exact ⟨hv, hr, ht⟩

end

end CxxWriter.Tree
