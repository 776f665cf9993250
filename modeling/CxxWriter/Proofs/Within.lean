/-
  The characters of what operations are given.

  * `Text.Within q t`: `q` holds of all characters of a text;
  * `Op.isWithin q`: it does so for the texts that an operation is given to be
    written as they are.  Values of string literals are not among them;
  * `within_fragment`, `within_split`, `tab_ofString`: what becomes of those
    texts before they are written.
-/
import CxxWriter.Proofs.Block
import CxxWriter.Proofs.Number
import CxxWriter.Script

namespace CxxWriter

open Text

/-- Does `q` hold of all characters of a text? -/
def Text.Within (q : Char → Bool) (t : String) : Prop := ∀ c ∈ t.toList, q c = true

theorem Text.Within.append {q : Char → Bool} {t u : String} (ht : Within q t) (hu : Within q u) :
    Within q (t ++ u) := by
  intro c hc
  rw [String.toList_append] at hc
  rcases List.mem_append.1 hc with hc | hc
  · exact ht c hc
  · exact hu c hc

theorem Text.Within.tab {t : String} (h : Within (· != '\t') t) : '\t' ∉ t.toList := by
  intro hm
  simpa using h _ hm

/-- Does `q` hold of a value, if that is a text? -/
def Value.isWithin (q : Char → Bool) : Value → Bool
  | .text t => t.toList.all q
  | _ => true

mutual

/-- Does `q` hold of the delimiters and values of a tree? -/
def Tree.isWithin (q : Char → Bool) : Tree → Bool
  | .leaf v => v.isWithin q
  | .node opening closing children =>
    opening.toList.all q && closing.toList.all q && Tree.areWithin q children

/-- Does `q` hold of the delimiters and values of trees? -/
def Tree.areWithin (q : Char → Bool) : List Tree → Bool
  | [] => true
  | t :: ts => t.isWithin q && areWithin q ts

end

theorem Tree.areWithin_iff {q : Char → Bool} {ts : List Tree} :
    Tree.areWithin q ts = true ↔ ∀ t ∈ ts, t.isWithin q = true := by
  induction ts with
  | nil => simp [Tree.areWithin]
  | cons t ts ih => simp [Tree.areWithin, ih]

/-- Does `q` hold of the texts that an operation itself writes as they are? -/
def Op.isWithin (q : Char → Bool) : Op → Bool
  | .emit v | .emitOpen v | .emitRaw v | .comment v | .includeHeader v | .define v
  | .defineString v _ | .guarded v _ | .struct v _ | .typedefStruct v _ | .function v _
  | .declare v | .declareWith v _ | .declareInitializer v _ | .element _ v => v.isWithin q
  | .declareValue v w => v.isWithin q && w.isWithin q
  | .constructor v initial _ =>
    v.isWithin q && initial.all fun e => e.1.isWithin q && e.2.isWithin q
  | .writeTree t => t.isWithin q
  | _ => true

variable {q : Char → Bool}

/-- Numbers hold no white space. -/
theorem within_fragment (hq : ∀ c, isSpace c = false → q c = true) {v : Value} {t : String}
    (h : v.isWithin q = true) (ht : v.fragment? = some t) : Within q t := by
  rcases solid_fragment ht with rfl | hs
  · intro c hc
    rw [Value.isWithin, List.all_eq_true] at h
    exact h c hc
  · exact fun c hc => hq c (hs c hc)

/-! ## Declarations -/

namespace Declaration

theorem eq_of_call? {t name rest : List Char} (h : call? t = some (name, rest)) :
    name = t.takeWhile isToken ∧ afterParen? (t.dropWhile isToken) = some rest := by
  unfold call? at h
  dsimp only at h
  split at h
  · cases h
  · obtain ⟨r, hr, he⟩ := Option.map_eq_some_iff.1 h
    cases he
    exact ⟨rfl, hr⟩

theorem mem_of_call? {t name rest : List Char} (h : call? t = some (name, rest)) :
    (∀ c ∈ name, c ∈ t) ∧ ∀ c ∈ rest, c ∈ t := by
  obtain ⟨rfl, hr⟩ := eq_of_call? h
  refine ⟨fun c hc => (List.takeWhile_prefix _).subset hc, fun c hc => ?_⟩
  unfold afterParen? at hr
  split at hr
  · next rest' hd =>
    cases hr
    have hm : c ∈ (t.dropWhile isToken).dropWhile isSpace := by
      rw [hd]
      exact List.mem_cons_of_mem _ hc
    exact (List.dropWhile_suffix _).subset ((List.dropWhile_suffix _).subset hm)
  · cases hr

theorem firstCall?_cons (c : Char) (t : List Char) :
    firstCall? (c :: t) = match call? (c :: t) with
      | some (name, rest) => some ([], name, rest)
      | none => (firstCall? t).map fun p => (c :: p.1, p.2) := by
  rfl

/-- The first call is a call, behind the text that stands before it. -/
theorem exists_of_firstCall? {t before name rest : List Char}
    (h : firstCall? t = some (before, name, rest)) :
    ∃ u, t = before ++ u ∧ call? u = some (name, rest) := by
  induction t generalizing before with
  | nil => cases h
  | cons a t ih =>
    rw [firstCall?_cons] at h
    split at h
    · next hc =>
      cases h
      exact ⟨a :: t, rfl, hc⟩
    · obtain ⟨⟨before', _⟩, hp, he⟩ := Option.map_eq_some_iff.1 h
      cases he
      obtain ⟨u, rfl, hu⟩ := ih hp
      exact ⟨u, rfl, hu⟩

/-- The parts of a declaration consist of its characters. -/
theorem mem_of_firstCall? {t : List Char} {p : List Char × List Char × List Char}
    (h : firstCall? t = some p) : ∀ c, c ∈ p.1 ∨ c ∈ p.2.1 ∨ c ∈ p.2.2 → c ∈ t := by
  obtain ⟨u, rfl, hu⟩ := exists_of_firstCall? h
  obtain ⟨hname, hrest⟩ := mem_of_call? hu
  rintro c (hc | hc | hc)
  · exact List.mem_append_left u hc
  · exact List.mem_append_right _ (hname c hc)
  · exact List.mem_append_right _ (hrest c hc)

theorem within_split (hp : q '(' = true) {s : String} {d : Declaration} (h : Within q s)
    (hd : split? s = some d) : Within q d.returnType ∧ Within q d.signature := by
  obtain ⟨⟨before, name, rest⟩, hc, rfl⟩ := Option.map_eq_some_iff.1 hd
  have hmem := mem_of_firstCall? hc
  have htrim {t : List Char} {c : Char} (hc : c ∈ trim isSpace t) : c ∈ t :=
    (List.dropWhile_suffix _).subset (mem_of_mem_trimEnd hc)
  refine ⟨fun c hc => ?_, fun c hc => ?_⟩
  · rw [String.toList_ofList] at hc
    exact h c (hmem c (.inl (htrim hc)))
  · rw [String.toList_ofList] at hc
    rcases List.mem_append.1 (htrim hc) with hc | hc
    · exact h c (hmem c (.inr (.inl hc)))
    · rcases List.mem_cons.1 hc with rfl | hc
      · exact hp
      · exact h c (hmem c (.inr (.inr hc)))

end Declaration

/-! ## Literals -/

namespace Literal

/-- There are no tabs in a literal, whatever its value. -/
theorem tab_ofString (t : String) : '\t' ∉ (ofString t).toList := by
  rw [ofString, String.toList_ofList]
  exact fun h => absurd (isControl_quoted h) (by decide)

end Literal

end CxxWriter
