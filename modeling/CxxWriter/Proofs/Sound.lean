/-
  What events make of a forest.

  * `Known`: an event concerns composites that were begun before;
  * `Forest.Sound f es`: the forest `f` is what the events `es` made of it;
  * `Forest.Sound.begin` and its neighbours: it stays so, event by event.
-/
import CxxWriter.Proofs.Events
import CxxWriter.Proofs.Forest
import CxxWriter.Proofs.Still
import Mathlib.Data.List.Nodup
import Mathlib.Data.List.Pairwise

namespace CxxWriter

open Event

/-! ## Events -/

section
variable {es fs : List Event} {p q c : Nat} {e : Element}

theorem accepted_append (p : Nat) (es fs : List Event) :
    accepted p (es ++ fs) = accepted p es ++ accepted p fs :=
  List.filterMap_append

theorem mem_accepted : e ∈ accepted p es ↔ .accepted p e ∈ es := by
  rw [accepted, List.mem_filterMap]
  constructor
  · rintro ⟨_ | _ | _, hm, he⟩
    · cases he
    · rw [accepted?] at he
      split at he
      · next h => cases he; rwa [← h]
      · cases he
    · cases he
  · intro h
    exact ⟨_, h, if_pos rfl⟩

/-- Events of which at most one concerns each place. -/
theorem eq_of_nodup {f : Event → Option Nat} (h : (es.filterMap f).Nodup) {x y : Event}
    (hx : x ∈ es) (hy : y ∈ es) (hfx : f x = some c) (hfy : f y = some c) : x = y := by
  by_cases hxy : x = y
  · exact hxy
  · have hp : es.Pairwise fun x y => f x = some c → f y = some c → False :=
      (List.pairwise_filterMap.1 h).imp fun hR hx hy => hR c hx c hy rfl
    have hsymm : Std.Symm fun x y => f x = some c → f y = some c → False :=
      ⟨fun _ _ hR hx hy => hR hy hx⟩
    exact (hp.forall hx hy hxy hfx hfy).elim

/-- Does an event concern composites that were begun before? -/
def Event.Known (es : List Event) : Event → Prop
  | .begun .. => True
  | .accepted p (.text _) => ∃ parent b, .begun p parent b ∈ es
  | .accepted p (.composite c) =>
    (∃ parent b, .begun p parent b ∈ es) ∧ ∃ b, .begun c (some p) b ∈ es
  | .failed c => ∃ p b, .begun c (some p) b ∈ es

theorem Event.Known.mono {x : Event} (h : x.Known es) (hs : es ⊆ fs) : x.Known fs := by
  match x with
  | .begun .. => trivial
  | .accepted p (.text _) =>
    obtain ⟨parent, b, hb⟩ := h
    exact ⟨parent, b, hs hb⟩
  | .accepted p (.composite c) =>
    obtain ⟨⟨parent, b, hb⟩, b', hb'⟩ := h
    exact ⟨⟨parent, b, hs hb⟩, b', hs hb'⟩
  | .failed c =>
    obtain ⟨p, b, hb⟩ := h
    exact ⟨p, b, hs hb⟩

theorem known_concat {x : Event} (h : ∀ y ∈ es, y.Known es) (hx : x.Known es) :
    ∀ y ∈ es ++ [x], y.Known (es ++ [x]) := by
  intro y hy
  have hs : es ⊆ es ++ [x] := List.subset_append_left _ _
  rcases List.mem_append.1 hy with hy | hy
  · exact (h y hy).mono hs
  · cases List.mem_singleton.1 hy
    exact hx.mono hs

theorem once_concat {x : Event} (h : (es.filterMap settled?).Nodup)
    (hx : ∀ c, x.settled? = some c → c ∉ es.filterMap settled?) :
    ((es ++ [x]).filterMap settled?).Nodup := by
  rw [List.filterMap_append]
  cases hs : x.settled? with
  | none => simpa [hs] using h
  | some c =>
    rw [List.filterMap_cons_some hs]
    exact List.nodup_append'.2 ⟨h, List.nodup_singleton c, by simpa using hx c hs⟩

end

/-! ## What events make of a forest -/

/-- Do composites stay where they are, with their brackets and roots? -/
def Kept (f g : Forest) : Prop :=
  ∀ ⦃p c⦄, f.get? p = some c → ∃ c', g.get? p = some c' ∧ c'.brackets = c.brackets ∧
    c'.root = c.root

/-- Is there a composite with these brackets, which is a root if it has no
    parent, and else belongs to the tree of an older one? -/
def Rooted (f : Forest) (p : Nat) (parent : Option Nat) (b : Brackets) : Prop :=
  ∃ c, f.get? p = some c ∧ c.brackets = b ∧ match parent with
    | none => c.root = p
    | some q => q < p ∧ c.root ≤ q ∧ ∃ d, f.get? q = some d ∧ c.root = d.root

theorem Rooted.mono {f g : Forest} {p : Nat} {parent : Option Nat} {b : Brackets}
    (h : Rooted f p parent b) (hk : Kept f g) : Rooted g p parent b := by
  obtain ⟨c, hc, hb, hp⟩ := h
  obtain ⟨c', hc', hb', hr'⟩ := hk hc
  refine ⟨c', hc', hb'.trans hb, ?_⟩
  cases parent with
  | none => exact hr'.trans hp
  | some q =>
    obtain ⟨hlt, hle, d, hd, hr⟩ := hp
    obtain ⟨d', hd', -, hdr⟩ := hk hd
    exact ⟨hlt, hr' ▸ hle, d', hd', by rw [hr', hdr, hr]⟩

/-- Is a forest what events made of it? -/
structure Forest.Sound (f : Forest) (es : List Event) : Prop where
  /-- Places are given in order. -/
  begun : es.filterMap begun? = List.range f.size
  rooted : ∀ {p parent b}, .begun p parent b ∈ es → Rooted f p parent b
  elements : ∀ {p c}, f.get? p = some c → c.elements = accepted p es
  known : ∀ x ∈ es, x.Known es
  /-- A composite becomes an element once, or is given up. -/
  once : (es.filterMap settled?).Nodup

namespace Forest.Sound

variable {f g : Forest} {es : List Event} {p c : Nat}

theorem empty : Sound .empty [] where
  begun := rfl
  rooted h := by cases h
  elements h := by cases h
  known _ h := by cases h
  once := .nil

theorem lt_size {parent b} (h : Sound f es) (hb : .begun p parent b ∈ es) : p < f.size := by
  have hm : p ∈ es.filterMap begun? := List.mem_filterMap.2 ⟨_, hb, rfl⟩
  rwa [h.begun, List.mem_range] at hm

/-- Each composite is begun in one way only. -/
theorem begun_unique {parent parent' b b'} (h : Sound f es) (hb : .begun p parent b ∈ es)
    (hb' : .begun p parent' b' ∈ es) : parent = parent' ∧ b = b' := by
  have hn : (es.filterMap begun?).Nodup := by rw [h.begun]; exact List.nodup_range
  cases eq_of_nodup hn hb hb' rfl rfl
  exact ⟨rfl, rfl⟩

theorem exists_begun (h : Sound f es) (hp : p < f.size) : ∃ parent b, .begun p parent b ∈ es := by
  have hm : p ∈ es.filterMap begun? := by rwa [h.begun, List.mem_range]
  obtain ⟨_ | _ | _, he, hp⟩ := List.mem_filterMap.1 hm
  · cases hp
    exact ⟨_, _, he⟩
  · cases hp
  · cases hp

/-- What has elements was begun before. -/
theorem accepted_lt {e} (h : Sound f es) (he : .accepted p e ∈ es) : p < f.size := by
  have hk := h.known _ he
  obtain ⟨parent, b, hb⟩ : ∃ parent b, .begun p parent b ∈ es := by
    cases e with
    | text t => exact hk
    | composite c => exact hk.1
  exact h.lt_size hb

/-- What is settled was begun before. -/
theorem settled_lt (h : Sound f es) (hc : c ∈ es.filterMap settled?) : c < f.size := by
  obtain ⟨_ | ⟨p, _ | d⟩ | d, he, hs⟩ := List.mem_filterMap.1 hc
  · cases hs
  · cases hs
  · cases hs
    obtain ⟨-, b, hb⟩ := h.known _ he
    exact h.lt_size hb
  · cases hs
    obtain ⟨p, b, hb⟩ := h.known _ he
    exact h.lt_size hb

theorem root_le (h : Sound f es) {c : Composite} (hc : f.get? p = some c) : c.root ≤ p := by
  obtain ⟨parent, b, hb⟩ := h.exists_begun (List.getElem?_eq_some_iff.1 hc).1
  obtain ⟨c', hc', -, hp⟩ := h.rooted hb
  cases hc.symm.trans hc'
  cases parent with
  | none => exact Nat.le_of_eq hp
  | some q =>
    obtain ⟨hlt, hle, -⟩ := hp
    omega

/-! ## Single events -/

/-- A composite that is begun has no elements. -/
theorem add (h : Sound f es) (c : Composite) (he : c.elements = []) (parent : Option Nat)
    (hr : Rooted ⟨f.composites ++ [c]⟩ f.size parent c.brackets) :
    Sound ⟨f.composites ++ [c]⟩ (es ++ [.begun f.size parent c.brackets]) := by
  have hsize : Forest.size ⟨f.composites ++ [c]⟩ = f.size + 1 := List.length_append
  have hkept : Kept f ⟨f.composites ++ [c]⟩ := fun p d hd =>
    ⟨d, (List.getElem?_append_left (List.getElem?_eq_some_iff.1 hd).1).trans hd, rfl, rfl⟩
  have helements : ∀ {p d}, Forest.get? ⟨f.composites ++ [c]⟩ p = some d →
      d.elements = accepted p es := by
    intro p d hd
    have hlt : p < f.size + 1 := by
      rw [← hsize]
      exact (List.getElem?_eq_some_iff.1 hd).1
    rcases Nat.lt_or_eq_of_le (Nat.le_of_lt_succ hlt) with hp | rfl
    · rw [Forest.get?, List.getElem?_append_left hp] at hd
      exact h.elements hd
    · -- nothing can have been added to a composite before it was begun
      rw [Forest.get?, show f.size = f.composites.length from rfl, List.getElem?_concat_length] at hd
      cases hd
      rw [he, eq_comm, List.eq_nil_iff_forall_not_mem]
      intro e hm
      exact Nat.lt_irrefl _ (h.accepted_lt (mem_accepted.1 hm))
  exact {
    begun := by
      rw [List.filterMap_append, h.begun, hsize, List.range_succ]
      rfl
    rooted := by
      intro p parent' b hb
      rcases List.mem_append.1 hb with hb | hb
      · exact (h.rooted hb).mono hkept
      · cases List.mem_singleton.1 hb
        exact hr
    elements := by
      intro p d hd
      rw [accepted_append, show accepted p [.begun f.size parent c.brackets] = [] from rfl,
        List.append_nil]
      exact helements hd
    known := known_concat h.known trivial
    once := once_concat h.once nofun }

theorem begin (h : Sound f es) (b : Brackets) :
    Sound (f.begin b) (es ++ [.begun f.size none b]) :=
  h.add ⟨b, [], f.size, false⟩ rfl none ⟨_, List.getElem?_concat_length, rfl, rfl⟩

theorem beginUnder (h : Sound f es) {q : Nat} (hq : q < f.size) (b : Brackets) :
    Sound (f.beginUnder q b) (es ++ [.begun f.size (some q) b]) := by
  obtain ⟨d, hd⟩ : ∃ d, f.get? q = some d := ⟨_, List.getElem?_eq_getElem hq⟩
  have hle := h.root_le hd
  rw [Forest.beginUnder, hd]
  refine h.add ⟨b, [], d.root, false⟩ rfl (some q) ⟨_, List.getElem?_concat_length, rfl, hq,
    hle, d, ?_, rfl⟩
  exact (List.getElem?_append_left hq).trans hd

/-- A composite becomes an element of its parent only, and only if it is not
    settled yet. -/
theorem attach (h : Sound f es) {e : Element} (hk : (Event.accepted p e).Known es)
    (ho : ∀ c, e = .composite c → c ∉ es.filterMap settled?) :
    Sound (f.attach p e) (es ++ [.accepted p e]) := by
  have hsize := f.size_attach p e
  have hkept : Kept f (f.attach p e) := by
    intro q d hd
    rw [Forest.get?_attach, hd, Option.map_some]
    exact ⟨_, rfl, by split <;> rfl, by split <;> rfl⟩
  exact {
    begun := by
      rw [List.filterMap_append, h.begun, hsize]
      exact List.append_nil _
    rooted := fun hb => (h.rooted (by simpa using hb)).mono hkept
    elements := by
      intro q d hd
      rw [Forest.get?_attach] at hd
      obtain ⟨c, hq, rfl⟩ := Option.map_eq_some_iff.1 hd
      rw [accepted_append, ← h.elements hq]
      by_cases hpq : p = q
      · simp [accepted, accepted?, hpq]
      · simp [accepted, accepted?, hpq]
    known := known_concat h.known hk
    once := by
      refine once_concat h.once fun c hc => ?_
      cases e with
      | text t => cases hc
      | composite d =>
        cases hc
        exact ho c rfl }

/-- A composite is given up if it is no element. -/
theorem fail (h : Sound f es) {b : Brackets} (hb : .begun c (some p) b ∈ es)
    (hc : c ∉ es.filterMap settled?) : Sound f (es ++ [.failed c]) where
  begun := by
    rw [List.filterMap_append, h.begun]
    exact List.append_nil _
  rooted hb := h.rooted (by simpa using hb)
  elements hd := by
    rw [accepted_append, h.elements hd]
    exact (List.append_nil _).symm
  known := known_concat h.known ⟨p, b, hb⟩
  once := by
    refine once_concat h.once ?_
    rintro _ ⟨⟩
    exact hc

/-- It does not matter what has been written. -/
theorem congr (h : Sound f es) (hg : g.unwritten = f.unwritten) : Sound g es := by
  have hlist : g.composites.map (fun c => { c with isWritten := false }) =
      f.composites.map fun c => { c with isWritten := false } := congrArg Forest.composites hg
  have hsize : g.size = f.size := by simpa [Forest.size] using congrArg List.length hlist
  have hget (p : Nat) : (g.get? p).map (fun c => { c with isWritten := false }) =
      (f.get? p).map fun c => { c with isWritten := false } := by
    rw [Forest.get?, Forest.get?, ← List.getElem?_map, ← List.getElem?_map, hlist]
  have hkept : Kept f g := by
    intro p d hd
    have hp := hget p
    rw [hd, Option.map_some] at hp
    obtain ⟨c, hc, hcd⟩ := Option.map_eq_some_iff.1 hp
    rw [Composite.mk.injEq] at hcd
    exact ⟨c, hc, hcd.1, hcd.2.2.1⟩
  refine ⟨?_, fun hb => (h.rooted hb).mono hkept, ?_, h.known, h.once⟩
  · rw [h.begun, hsize]
  · intro p c hc
    have hp := hget p
    rw [hc, Option.map_some] at hp
    obtain ⟨d, hd, hdc⟩ := Option.map_eq_some_iff.1 hp.symm
    rw [Composite.mk.injEq] at hdc
    rw [← hdc.2.1, h.elements hd]

end Forest.Sound

end CxxWriter
