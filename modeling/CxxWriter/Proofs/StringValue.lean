/-
  String values reach the output as they are.

  * `Carries v x`: the literal of `v` stands in a text, on one line, and is read
    as `v`, whatever is written behind that text;
  * `Forest.Below`: composites below another one in its tree, whose texts are
    values of that tree (`Below.has`);
  * `string_values_survive`: definitions, variables, values of members and
    elements at any place of an initializer carry the text that they are given.
-/
import CxxWriter.Proofs.Forest
import CxxWriter.Proofs.Literal
import CxxWriter.Proofs.Retained
import CxxWriter.Proofs.Root
import CxxWriter.Proofs.Word

namespace CxxWriter

open Literal (ofString quoted bare_quoted read? read?_quoted)
open Text
open CxxWriter.Tree (IsBare)

/-- Does the literal of `v` stand in a text, on one line?  Reading it from its
    opening quote gives `v` and ends behind its closing quote, whatever is
    written later. -/
def Carries (v x : String) : Prop :=
  '\n' ∉ (ofString v).toList ∧ ∃ before after, x = before ++ ofString v ++ after ∧
    ∀ later, read? (ofString v ++ after ++ later).toList = some (v.toList, (after ++ later).toList)

theorem toList_ofString (v : String) : (ofString v).toList = quoted v.toList := String.toList_ofList

theorem bare_ofString (v : String) : IsBare (ofString v).toList := by
  rw [toList_ofString]
  exact bare_quoted v.toList

/-- A text that the literal is part of carries its value. -/
theorem carries_of_infix {v x : String} (h : (ofString v).toList <:+: x.toList) : Carries v x := by
  refine ⟨(bare_ofString v).line, ?_⟩
  obtain ⟨s, e, h⟩ := h
  refine ⟨String.ofList s, String.ofList e, ?_, fun later => ?_⟩
  · rw [← String.toList_inj, ← h]
    simp only [String.toList_append, String.toList_ofList]
  · simp only [String.toList_append, String.toList_ofList, toList_ofString, List.append_assoc]
    exact read?_quoted _ _

/-! ## Forests -/

namespace Forest

/-- Is a composite another one, or below it in its tree? -/
inductive Below (f : Forest) : Nat → Nat → Prop
  | refl (p : Nat) : Below f p p
  | step {p q child : Nat} {c : Composite} : f.get? p = some c → .composite child ∈ c.elements →
    p < child → child < f.size → Below f child q → Below f p q

/-- The texts of a composite are values of the trees that it is in. -/
theorem Below.has {f : Forest} {p q : Nat} (h : f.Below p q) {c : Composite} (hc : f.get? q = some c)
    {s : String} (hs : .text s ∈ c.elements) : (f.tree p).Has s := by
  induction h with
  | refl p =>
    rw [tree, hc]
    exact .node (List.mem_filterMap.2 ⟨_, hs, rfl⟩) .leaf
  | @step p q child d hd hmem hlt hsize _ ih =>
    rw [tree, hd]
    exact .node (List.mem_filterMap.2 ⟨_, hmem, dif_pos ⟨hlt, hsize⟩⟩) (ih hc)

theorem Below.close {f : Forest} {p q : Nat} (h : f.Below p q) (place : Nat) :
    (f.close place).Below p q := by
  induction h with
  | refl p => exact .refl p
  | @step p q child d hd hmem hlt hsize _ ih =>
    refine .step (by rw [get?_close, hd]; rfl) ?_ hlt (by rwa [size_close]) ih
    split <;> exact hmem

end Forest

namespace Action

/-! ## Initial values of members -/

/-- The initial values of members are written with the words that are in them. -/
theorem exists_members {initial : List (Value × Value)}
    (hf : ∀ e ∈ initial, e.1.fragment?.isSome = true ∧ e.2.fragment?.isSome = true) (lead : String)
    (s : Session) : ∃ t x, (members lead initial).apply s = (.ok (), t) ∧
      t.buffer.text = s.buffer.text ++ x ∧
      ∀ e ∈ initial, ∀ w, e.2.fragment? = some w → ∀ q, IsBare q → q <:+: w.toList → q <:+: x.toList := by
  induction initial generalizing lead s with
  | nil => exact ⟨s, "", rfl, (String.append_empty).symm, fun _ h => absurd h List.not_mem_nil⟩
  | cons e rest ih =>
    obtain ⟨name, value⟩ := e
    obtain ⟨hfirst, hrest⟩ := List.forall_mem_cons.1 hf
    obtain ⟨n, hn⟩ := Option.isSome_iff_exists.1 hfirst.1
    obtain ⟨v, hv⟩ := Option.isSome_iff_exists.1 hfirst.2
    rw [members, apply_bind_ok (apply_fragment hn s), apply_bind_ok (apply_fragment hv s),
      apply_bind_ok (apply_changeBuffer _ _)]
    obtain ⟨t, x, ht, hx, hwords⟩ := ih hrest "  " _
    refine ⟨t, s.buffer.indentation ++ lead ++ n ++ "(" ++ memberValue s.buffer v ++
      (")" ++ (if rest.isEmpty then "" else ",") ++ "\n" ++ x), ht, hx.trans ?_, ?_⟩
    · simp only [Buffer.newline, Buffer.emitRaw, Buffer.text_push, String.append_assoc]
    · intro e he w hw q hq hqw
      rw [String.toList_append, String.toList_append]
      rcases List.mem_cons.1 he with rfl | he
      · cases hv.symm.trans hw
        exact (hq.infix_memberValue s.buffer hqw).trans (List.infix_append _ _ _)
      · refine (hwords e he w hw q hq hqw).trans (List.IsSuffix.isInfix ?_)
        simp only [String.toList_append, ← List.append_assoc]
        exact List.suffix_append _ _

/-- Words that were written stay, as they are not at the end. -/
theorem exists_retained {q : List Char} (hq : IsBare q) {b x : String} (hx : q <:+: x.toList)
    {t : List Char} (h : trimEnd (· == '\n') (b ++ x).toList <+: t) :
    ∃ y, t = (b ++ y).toList ∧ q <:+: y.toList := by
  have hspace : ∀ c : Char, (c == '\n') = true → isSpace c = true := by
    intro c hc
    rw [beq_iff_eq.1 hc]
    decide
  -- a word ends in ink, so no line feed at the end of the text is part of it
  have hword := hq.infix_trimEnd hspace hx
  have hne : trimEnd (· == '\n') x.toList ≠ [] := by
    intro he
    rw [he, List.infix_nil] at hword
    exact hq.ne_nil hword
  obtain ⟨e, rfl⟩ := h
  rw [String.toList_append, trimEnd_append, if_neg hne]
  refine ⟨String.ofList (trimEnd (· == '\n') x.toList ++ e), ?_, ?_⟩
  · rw [String.toList_append, String.toList_ofList, List.append_assoc]
  · rw [String.toList_ofList]
    exact hword.trans (List.prefix_append _ _).isInfix

/-- The lines of a constructor before its body. -/
def constructorHead (d : Declaration) (initial : List (Value × Value)) : Action Unit := do
  returnType d
  emitText d.signature
  indented (members ": " initial)

/-- The body of a constructor and the lines around it. -/
def constructorBody (body : Action Unit) : Action Unit := do
  emitText "\x7b"
  indented body
  emitText "\x7d"
  separator

theorem constructor_eq (declaration : Value) (initial : List (Value × Value)) (body : Action Unit) :
    constructor declaration initial body = report (.declaration declaration) >>= fun d =>
      constructorHead d initial >>= fun _ => constructorBody body := by
  simp only [constructor, constructorHead, constructorBody, bind_assoc]

theorem exists_constructorHead (d : Declaration) {initial : List (Value × Value)}
    (hf : ∀ e ∈ initial, e.1.fragment?.isSome = true ∧ e.2.fragment?.isSome = true) (s : Session) :
    ∃ t x, (constructorHead d initial).apply s = (.ok (), t) ∧ t.buffer.text = s.buffer.text ++ x ∧
      ∀ e ∈ initial, ∀ w, e.2.fragment? = some w → ∀ q, IsBare q → q <:+: w.toList → q <:+: x.toList := by
  obtain ⟨r, y, hr, hy⟩ : ∃ r y, (returnType d).apply s = (.ok (), r) ∧
      r.buffer.text = s.buffer.text ++ y := by
    unfold returnType
    split
    · exact ⟨s, "", rfl, String.append_empty.symm⟩
    · exact ⟨_, _, rfl, String.append_assoc⟩
  obtain ⟨t, x, ht, hx, hwords⟩ := exists_members hf ": "
    { r with buffer := (r.buffer.emit d.signature).enter }
  refine ⟨{ t with buffer := t.buffer.leave }, y ++ (Buffer.blockOf r.buffer.depth r.buffer.unit
    d.signature ++ "\n") ++ x, ?_, ?_, ?_⟩
  · rw [constructorHead, apply_bind_ok hr, emitText, apply_bind_ok (apply_changeBuffer _ r),
      apply_indented, ht]
  · show t.buffer.text = _
    rw [hx]
    show (r.buffer.emit d.signature).text ++ x = _
    rw [Buffer.emit, Buffer.newline, Buffer.text_push, Buffer.emitOpen_text, hy]
    simp only [String.append_assoc]
  · intro e he w hw q hq hqw
    rw [String.toList_append]
    exact (hwords e he w hw q hq hqw).trans (List.suffix_append _ _).isInfix

theorem Retains.constructorBody {body : Action Unit} (hb : Retains body) :
    Retains (constructorBody body) := by
  have hemit (t : String) : Retains (emitText t) := retains_append (Buffer.isAppend_emit t)
  exact (hemit _).next fun _ => hb.indented.next fun _ => (hemit _).next fun _ => hemit ""

/-- Whatever its body writes and however it ends, a constructor is written with
    the words in the values of its members. -/
theorem exists_constructor {declaration : String} {d : Declaration}
    (hd : Declaration.split? declaration = some d) {initial : List (Value × Value)}
    (hf : ∀ e ∈ initial, e.1.fragment?.isSome = true ∧ e.2.fragment?.isSome = true)
    {body : Action Unit} (hb : Retains body) {e : Value × Value} (he : e ∈ initial) {w : String}
    (hw : e.2.fragment? = some w) {q : List Char} (hq : IsBare q) (hqw : q <:+: w.toList)
    (s : Session) : ∃ x,
      ((constructor (.text declaration) initial body).apply s).2.buffer.text = s.buffer.text ++ x ∧
        q <:+: x.toList := by
  obtain ⟨t, x, ht, hx, hwords⟩ := exists_constructorHead d hf s
  have hkept := hb.constructorBody t
  rw [hx] at hkept
  obtain ⟨y, hy, hqy⟩ := exists_retained hq (hwords e he w hw q hq hqw) hkept
  refine ⟨y, ?_, hqy⟩
  rw [constructor_eq, apply_bind_ok (apply_declaration rfl hd s), apply_bind_ok ht]
  exact String.toList_inj.1 hy

/-! ## Elements of initializers -/

/-- A string literal becomes an element of an open composite. -/
theorem exists_stringElement {s : Session} {handle e : String} {place : Nat}
    (hh : s.handles.find? (·.1 == handle) = some (e, place)) (hp : place < s.forest.size)
    (ho : s.forest.isClosed place = false) (v : String) :
    ∃ t c, (Op.stringElement handle (.text v)).perform.apply s = (.ok .nothing, t) ∧
      t.forest.get? place = some c ∧ .text (ofString v) ∈ c.elements := by
  obtain ⟨c, hc⟩ : ∃ c, s.forest.get? place = some c := ⟨_, List.getElem?_eq_getElem hp⟩
  have hplace : (placeOf handle).apply s = (.ok place, s) := by
    rw [apply_placeOf, hh]
  have hadd : (addElement place (.text (ofString v))).apply s =
      (.ok (), { s with forest := s.forest.attach place (.text (ofString v)) }) := by
    rw [apply_addElement, ho]
    rfl
  have hliteral : (report (.literal (.text v))).apply s = (.ok (ofString v), s) := rfl
  have hstring : (addString place (.text v)).apply s =
      (.ok (), { s with forest := s.forest.attach place (.text (ofString v)) }) := by
    rw [addString, apply_bind_ok hliteral, hadd]
  refine ⟨{ s with forest := s.forest.attach place (.text (ofString v)) },
    { c with elements := c.elements ++ [.text (ofString v)] }, ?_, ?_, by simp⟩
  · rw [Op.perform, apply_bind_ok hplace, Op.silent, apply_bind_ok hstring]
    rfl
  · rw [Forest.get?_attach, hc, Option.map_some, if_pos rfl]

/-- An open root is written with the words in its values. -/
theorem exists_writeInitializer {s : Session} {root : Nat} (hr : s.forest.isRoot root = true)
    (ho : s.forest.isClosed root = false) {w : String} (ht : ((s.forest.close root).tree root).Has w)
    {q : List Char} (hq : IsBare q) (hqw : q <:+: w.toList) :
    ∃ t x, (writeInitializer root).apply s = (.ok (), t) ∧ t.buffer.text = s.buffer.text ++ x ∧
      q <:+: x.toList := by
  have hn := (s.forest.close root).refusal?_tree root
  have happly := apply_writeInitializer root s
  rw [if_pos hr, ho, if_neg (by simp)] at happly
  cases hl : s.buffer.atLineStart with
  | true => exact ⟨_, _, happly, Tree.write_text _ hn hl, ht.infix_shown hq hqw _ _⟩
  | false => exact ⟨_, _, happly, Tree.write_text_after _ hn hl, ht.infix_shownAfter hq hqw _ _⟩

end Action

/-- A fragment that the literal is part of is written with it. -/
theorem exists_emit {v : String} {t : String} (h : (ofString v).toList <:+: t.toList) (b : Buffer) :
    ∃ x, (b.emit t).text = b.text ++ x ∧ Carries v x := by
  refine ⟨Buffer.blockOf b.depth b.unit t ++ "\n", ?_, carries_of_infix ?_⟩
  · rw [Buffer.emit, Buffer.newline, Buffer.text_push, Buffer.emitOpen_text, String.append_assoc]
  · rw [String.toList_append]
    exact ((bare_ofString v).infix_blockOf _ _ h).trans (List.prefix_append _ _).isInfix

/-! ## The result -/

/-- **String values survive.**  Whatever characters a text consists of, its
    literal reaches the output on one line, at any depth and with any unit of
    indentation, and is read from there as the text: as the value of a macro, of a
    variable and of a member, and as an element of an initializer, wherever it
    stands in its tree and whenever that is written. -/
theorem string_values_survive (v : String) :
    (∀ s, (Op.literal (.text v)).perform.apply s = (.ok (.value (.text (ofString v))), s)) ∧
    (∀ s name, ∃ t x, (Op.defineString (.text name) (.text v)).perform.apply s = (.ok .nothing, t) ∧
      t.buffer.text = s.buffer.text ++ x ∧ Carries v x) ∧
    (∀ s declaration, ∃ t x,
      (Op.declareValue (.text declaration) (.text (ofString v))).perform.apply s = (.ok .nothing, t) ∧
      t.buffer.text = s.buffer.text ++ x ∧ Carries v x) ∧
    (∀ s declaration d initial body name, Declaration.split? declaration = some d →
      (∀ e ∈ initial, e.1.fragment?.isSome = true ∧ e.2.fragment?.isSome = true) →
      (name, .text (ofString v)) ∈ initial → ∃ x,
      ((Op.constructor (.text declaration) initial body).perform.apply s).2.buffer.text =
        s.buffer.text ++ x ∧ Carries v x) ∧
    (∀ s handle e place, s.handles.find? (·.1 == handle) = some (e, place) →
      place < s.forest.size → s.forest.isClosed place = false → ∃ s₁,
      (Op.stringElement handle (.text v)).perform.apply s = (.ok .nothing, s₁) ∧
      ∀ s₂ root, s₁.forest.Becomes s₂.forest → s₂.forest.isRoot root = true →
        s₂.forest.isClosed root = false → s₂.forest.Below root place → ∃ t x,
        (Action.writeInitializer root).apply s₂ = (.ok (), t) ∧
        t.buffer.text = s₂.buffer.text ++ x ∧ Carries v x) := by
  refine ⟨fun s => rfl, ?define, ?declare, ?constructor, ?element⟩
  case define =>
    intro s name
    have hinfix : (ofString v).toList <:+: ("#define " ++ (name ++ " " ++ ofString v)).toList := by
      simp only [String.toList_append, ← List.append_assoc]
      exact (List.suffix_append _ _).isInfix
    obtain ⟨x, hx, hv⟩ := exists_emit hinfix s.buffer
    exact ⟨_, x, rfl, hx, hv⟩
  case declare =>
    intro s declaration
    have hinfix : (ofString v).toList <:+: (declaration ++ " = " ++ ofString v ++ ";").toList := by
      rw [String.toList_append, String.toList_append]
      exact List.infix_append _ _ _
    obtain ⟨x, hx, hv⟩ := exists_emit hinfix s.buffer
    exact ⟨_, x, rfl, hx, hv⟩
  case constructor =>
    intro s declaration d initial body name hd hf hmem
    obtain ⟨x, hx, hq⟩ := Action.exists_constructor hd hf (Op.retains_performAll body) hmem rfl
      (bare_ofString v) List.infix_rfl s
    refine ⟨x, ?_, carries_of_infix hq⟩
    rw [← hx, Op.perform, Op.silent, Action.apply_bind]
    rcases (Action.constructor (.text declaration) initial (Op.performAll body)).apply s with ⟨_ | _, _⟩
    · rfl
    · rfl
  case element =>
    intro s handle e place hh hp ho
    obtain ⟨s₁, c, hs₁, hc, hmem⟩ := Action.exists_stringElement hh hp ho v
    refine ⟨s₁, hs₁, ?_⟩
    rintro s₂ root ⟨blocks, hl⟩ hr hopen hbelow
    obtain ⟨c', hc', -, -, hprefix, -⟩ := hl hc
    have hhas : ((s₂.forest.close root).tree root).Has (ofString v) := by
      refine (hbelow.close root).has (by rw [Forest.get?_close, hc']; rfl) ?_
      split <;> exact hprefix.subset hmem
    obtain ⟨t, x, ht, hx, hq⟩ := Action.exists_writeInitializer hr hopen hhas (bare_ofString v)
      List.infix_rfl
    exact ⟨t, x, ht, hx, carries_of_infix hq⟩

/-- A text with a line feed, leading spaces, a quote, a control character in front
    of a digit and white space beyond ASCII at its end. -/
theorem string_values_survive_escaped :
    let v := "\n  a\"\\\x017\u00a0"
    let s : Session := { Session.start .empty Config.default " \t" Files.empty [] with
      buffer := ⟨["x = "], 2, " \t"⟩ }
    let s₀ := ((Op.performAll [.beginInitializer .array "a", .element "a" (.text "1"),
      .nested "a" .struct "b"]).apply s).2
    let member := [(Value.text "y", Value.text "1"), (.text "name", .text (ofString v))]
    let d : Declaration := ⟨"", "T::T", "T::T()"⟩
    Declaration.split? "T::T()" = some d ∧
    (∃ x, ((Op.constructor (.text "T::T()") member [.newline]).perform.apply s).2.buffer.text =
      s.buffer.text ++ x ∧ Carries v x) ∧
    s₀.handles.find? (·.1 == "b") = some ("b", 1) ∧ 1 < s₀.forest.size ∧
    s₀.forest.isClosed 1 = false ∧
    ∃ s₁, (Op.stringElement "b" (.text v)).perform.apply s₀ = (.ok .nothing, s₁) ∧
      s₁.forest.isRoot 0 = true ∧ s₁.forest.isClosed 0 = false ∧ s₁.forest.Below 0 1 ∧
      ∃ t x, (Action.writeInitializer 0).apply s₁ = (.ok (), t) ∧
        t.buffer.text = s₁.buffer.text ++ x ∧ Carries v x := by
  intro v s s₀ member d
  obtain ⟨-, -, -, hconstructor, helement⟩ := string_values_survive v
  have hd : Declaration.split? "T::T()" = some d := by decide +kernel
  have hf : ∀ e ∈ member, e.1.fragment?.isSome = true ∧ e.2.fragment?.isSome = true := by
    decide +kernel
  have hh : s₀.handles.find? (·.1 == "b") = some ("b", 1) := by decide +kernel
  have hp : 1 < s₀.forest.size := by decide +kernel
  have ho : s₀.forest.isClosed 1 = false := by decide +kernel
  have hforest : ((Op.stringElement "b" (.text v)).perform.apply s₀).2.forest = ⟨[
      ⟨.array, [.text "1", .composite 1], 0, false⟩, ⟨.struct, [.text (ofString v)], 0, false⟩]⟩ := by
    decide +kernel
  obtain ⟨s₁, hs₁, hwrite⟩ := helement s₀ "b" "b" 1 hh hp ho
  rw [hs₁] at hforest
  have hbelow : s₁.forest.Below 0 1 := by
    rw [hforest]
    exact .step rfl (by simp) (by decide) (by decide) (.refl 1)
  have hr : s₁.forest.isRoot 0 = true := by rw [hforest]; rfl
  have hopen : s₁.forest.isClosed 0 = false := by rw [hforest]; rfl
  exact ⟨hd, hconstructor s "T::T()" d member [.newline] (.text "name") hd hf (by simp [member]), hh, hp, ho,
    s₁, hs₁, hr, hopen, hbelow, hwrite s₁ 0 (.refl _) hr hopen hbelow⟩

end CxxWriter
