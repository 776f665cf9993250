/-
  What becomes of a forest.

  * `Later blocks f g`: the forest `f` may become `g` by beginning composites,
    adding elements and writing trees, where closed composites keep their
    elements unless they are among `blocks`;
  * `Becomes f g`: the same for some `blocks`;
  * `Gained places f g`: the composites at `places` have more elements in `g`
    than in `f`.
-/
import CxxWriter.Initializer.Forest

namespace CxxWriter.Forest

/-- The elements of a composite, if there is one at the place. -/
def elementsAt (f : Forest) (place : Nat) : Option (List Element) :=
  (f.get? place).map (·.elements)

/-- The root of the tree that a composite belongs to. -/
def rootOf? (f : Forest) (p : Nat) : Option Nat := (f.get? p).map (·.root)

theorem elementCount_eq (f : Forest) (place : Nat) :
    f.elementCount place = ((f.elementsAt place).map (·.length)).getD 0 := by
  rw [elementCount, elementsAt, Option.map_map]
  rfl

/-- Can the forest `f` become `g`, if only the closed composites at `blocks`
    gain elements? -/
def Later (blocks : List Nat) (f g : Forest) : Prop :=
  ∀ ⦃p c⦄, f.get? p = some c → ∃ c', g.get? p = some c' ∧ c'.root = c.root ∧
    (c.isWritten = true → c'.isWritten = true) ∧ c.elements <+: c'.elements ∧
    (f.isClosed p = true → p ∉ blocks → c'.elements = c.elements)

/-- Do the composites at `places` have more elements in `g` than in `f`? -/
def Gained (places : List Nat) (f g : Forest) : Prop :=
  ∀ p ∈ places, ∀ c, f.get? p = some c → ∃ c', g.get? p = some c' ∧
    c.elements.length < c'.elements.length

variable {blocks blocks' : List Nat} {f g h : Forest}

theorem isClosed_iff {f : Forest} {p : Nat} :
    f.isClosed p = true ↔ ∃ c, f.get? p = some c ∧ ∃ r, f.get? c.root = some r ∧
      r.isWritten = true := by
  simp only [isClosed, Option.any_eq_true]

theorem Later.refl (blocks : List Nat) (f : Forest) : Later blocks f f := fun _ c hc =>
  ⟨c, hc, rfl, id, List.prefix_rfl, fun _ _ => rfl⟩

/-- What is closed stays closed. -/
theorem Later.closed (hl : Later blocks f g) {p : Nat} (hp : f.isClosed p = true) :
    g.isClosed p = true := by
  obtain ⟨c, hc, r, hr, hw⟩ := isClosed_iff.1 hp
  obtain ⟨c', hc', hroot, -⟩ := hl hc
  obtain ⟨r', hr', -, hw', -⟩ := hl hr
  exact isClosed_iff.2 ⟨c', hc', r', by rw [hroot]; exact hr', hw' hw⟩

theorem Later.trans (hl : Later blocks f g) (hl' : Later blocks g h) : Later blocks f h := by
  intro p c hc
  obtain ⟨d, hd, hr, hw, hp, he⟩ := hl hc
  obtain ⟨e, hd', hr', hw', hp', he'⟩ := hl' hd
  refine ⟨e, hd', hr'.trans hr, fun h => hw' (hw h), hp.trans hp', fun hcl hn => ?_⟩
  rw [he' (hl.closed hcl) hn, he hcl hn]

theorem Later.mono (hl : Later blocks f g) (hb : blocks ⊆ blocks') : Later blocks' f g := by
  intro p c hc
  obtain ⟨d, hd, hr, hw, hp, he⟩ := hl hc
  exact ⟨d, hd, hr, hw, hp, fun hcl hn => he hcl fun hm => hn (hb hm)⟩

/-- An open composite need not stay as it is anyway. -/
theorem Later.of_open {place : Nat} (hl : Later [place] f g) (ho : f.isClosed place = false) :
    Later [] f g := by
  intro p c hc
  obtain ⟨d, hd, hr, hw, hp, he⟩ := hl hc
  refine ⟨d, hd, hr, hw, hp, fun hcl _ => he hcl fun hm => ?_⟩
  rw [List.mem_singleton.1 hm, ho] at hcl
  cases hcl

theorem Gained.after (hg : Gained blocks g h) (hl : Later blocks' f g) : Gained blocks f h := by
  intro p hp c hc
  obtain ⟨d, hd, -, -, hpre, -⟩ := hl hc
  obtain ⟨e, he, hlt⟩ := hg p hp d hd
  exact ⟨e, he, Nat.lt_of_le_of_lt hpre.length_le hlt⟩

theorem Later.size_le (hl : Later blocks f g) : f.size ≤ g.size := by
  rcases Nat.eq_zero_or_pos f.size with hz | hz
  · omega
  · have hlt : f.size - 1 < f.composites.length := Nat.sub_one_lt (Nat.ne_of_gt hz)
    obtain ⟨d, hd, -⟩ := hl (List.getElem?_eq_getElem hlt)
    have hlt' : f.size - 1 < g.size := (List.getElem?_eq_some_iff.1 hd).1
    omega

/-- Can the forest `f` become `g`? -/
def Becomes (f g : Forest) : Prop := ∃ blocks, Later blocks f g

theorem Becomes.refl (f : Forest) : Becomes f f := ⟨[], .refl [] f⟩

theorem Becomes.trans (hl : Becomes f g) (hl' : Becomes g h) : Becomes f h := by
  obtain ⟨bs, hl⟩ := hl
  obtain ⟨bs', hl'⟩ := hl'
  exact ⟨bs ++ bs', (hl.mono (List.subset_append_left _ _)).trans (hl'.mono (List.subset_append_right _ _))⟩

/-! ## Single steps -/

theorem size_begin (f : Forest) (b : Brackets) : (f.begin b).size = f.size + 1 :=
  List.length_append

theorem size_beginUnder (f : Forest) (q : Nat) (b : Brackets) :
    (f.beginUnder q b).size = f.size + 1 :=
  List.length_append

theorem size_attach (f : Forest) (p : Nat) (e : Element) : (f.attach p e).size = f.size :=
  List.length_modify _ _ _

theorem size_close (f : Forest) (p : Nat) : (f.close p).size = f.size :=
  List.length_modify _ _ _

/-- A composite that is added at the end changes none before it. -/
theorem later_add (f : Forest) (c : Composite) : Later [] f ⟨f.composites ++ [c]⟩ := by
  intro p d hd
  refine ⟨d, ?_, rfl, id, List.prefix_rfl, fun _ _ => rfl⟩
  obtain ⟨hlt, -⟩ := List.getElem?_eq_some_iff.1 hd
  exact (List.getElem?_append_left hlt).trans hd

theorem later_begin (f : Forest) (brackets : Brackets) : Later [] f (f.begin brackets) :=
  later_add f _

theorem later_beginUnder (f : Forest) (parent : Nat) (brackets : Brackets) :
    Later [] f (f.beginUnder parent brackets) :=
  later_add f _

theorem get?_attach (f : Forest) (place : Nat) (e : Element) (p : Nat) :
    (f.attach place e).get? p = (f.get? p).map fun c =>
      if place = p then { c with elements := c.elements ++ [e] } else c :=
  List.getElem?_modify _ _ _ _

theorem get?_close (f : Forest) (place p : Nat) :
    (f.close place).get? p = (f.get? p).map fun c =>
      if place = p then { c with isWritten := true } else c :=
  List.getElem?_modify _ _ _ _

/-- Only an open composite, or one of `blocks`, may gain an element. -/
theorem later_attach {place : Nat} (h : f.isClosed place = true → place ∈ blocks) (e : Element) :
    Later blocks f (f.attach place e) := by
  intro p c hc
  rw [get?_attach, hc, Option.map_some]
  by_cases hp : place = p
  · rw [if_pos hp]
    subst hp
    exact ⟨_, rfl, rfl, id, List.prefix_append _ _, fun hcl hn => absurd (h hcl) hn⟩
  · rw [if_neg hp]
    exact ⟨_, rfl, rfl, id, List.prefix_rfl, fun _ _ => rfl⟩

theorem gained_attach (f : Forest) (place : Nat) (e : Element) :
    Gained [place] f (f.attach place e) := by
  intro p hp c hc
  cases List.mem_singleton.1 hp
  rw [get?_attach, hc, Option.map_some, if_pos rfl]
  refine ⟨_, rfl, ?_⟩
  rw [List.length_append]
  exact Nat.lt_succ_self _

theorem later_close (f : Forest) (place : Nat) : Later [] f (f.close place) := by
  intro p c hc
  rw [get?_close, hc, Option.map_some]
  split
  · exact ⟨_, rfl, rfl, fun _ => rfl, List.prefix_rfl, fun _ _ => rfl⟩
  · exact ⟨_, rfl, rfl, id, List.prefix_rfl, fun _ _ => rfl⟩

end CxxWriter.Forest
