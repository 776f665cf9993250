/-
  Sessions whose initializers are written alike.

  * `Forest.normal`: the initializers with the texts of their elements in normal
    form, in which they are written: `Tree.write_eq`;
  * `Session.Like`: two sessions agree but for the elements, which have the same
    normal forms, and for the replies in their notes;
  * `Matches R a a'`: carried out on such sessions, two actions come to outcomes
    that `R` relates and to such sessions again.  Operations without others in
    them match themselves (`matches_simple`), and operations around a body match
    if the bodies do (`matches_compound`).
-/
import CxxWriter.Proofs.Growth
import CxxWriter.Proofs.Root

namespace CxxWriter

open Block (unindent)

/-! ## Normal forms -/

/-- A fragment without its margin. -/
def Block.core (s : String) : String := String.ofList (unindent s.toList)

theorem Block.unindent_of_core {s t : String} (h : core s = core t) :
    unindent s.toList = unindent t.toList := String.ofList_injective h

/-- A text in normal form. -/
def Value.normal (v : Value) : Value :=
  match v.asText? with
  | some s => .text (Block.core s)
  | none => v

theorem Value.asText?_eq_some {v : Value} {s : String} : v.asText? = some s ↔ v = .text s := by
  constructor
  · intro h
    cases v <;> cases h
    rfl
  · rintro rfl
    rfl

/-- Values with the same normal form are the same, or texts with the same one. -/
theorem Value.eq_of_normal {v w : Value} (h : v.normal = w.normal) :
    v = w ∨ ∃ s t, v = .text s ∧ w = .text t ∧ Block.core s = Block.core t := by
  unfold Value.normal at h
  cases hv : v.asText? with
  | some s =>
    rw [hv] at h
    cases hw : w.asText? with
    | some t =>
      rw [hw] at h
      exact .inr ⟨s, t, asText?_eq_some.1 hv, asText?_eq_some.1 hw, Value.text.inj h⟩
    | none =>
      rw [hw] at h
      rw [asText?_eq_some.2 h.symm] at hw
      cases hw
  | none =>
    rw [hv] at h
    cases hw : w.asText? with
    | some t =>
      rw [hw] at h
      rw [asText?_eq_some.2 h] at hv
      cases hv
    | none =>
      rw [hw] at h
      exact .inl h

/-- An element whose text is in normal form. -/
def Element.normal : Element → Element
  | .text s => .text (Block.core s)
  | .composite place => .composite place

/-- A composite whose texts are in normal form. -/
def Composite.normal (c : Composite) : Composite :=
  { c with elements := c.elements.map Element.normal }

namespace Tree

mutual

/-- A tree whose texts are in normal form. -/
def normal : Tree → Tree
  | .leaf v => .leaf v.normal
  | .node opening closing children => .node opening closing (normals children)

/-- Trees whose texts are in normal form. -/
def normals : List Tree → List Tree
  | [] => []
  | t :: ts => t.normal :: normals ts

end

theorem normals_eq (ts : List Tree) : normals ts = ts.map normal := by
  induction ts with
  | nil => rfl
  | cons t ts ih => rw [normals, ih, List.map_cons]

end Tree

theorem Buffer.emitOpen_core {s t : String} (h : Block.core s = Block.core t) (b : Buffer) :
    b.emitOpen s = b.emitOpen t := by
  rw [emitOpen, emitOpen, formatted, formatted, Block.format, Block.format, Block.unindent_of_core h]

namespace Tree

mutual

/-- Trees are written by their normal form. -/
theorem write_eq : ∀ {t u : Tree}, t.normal = u.normal → ∀ b, t.write b = u.write b
  | .leaf v, .leaf w, h, b => by
    rw [normal, normal, leaf.injEq] at h
    rcases Value.eq_of_normal h with rfl | ⟨s, t, rfl, rfl, hcore⟩
    · rfl
    · simp only [write, Value.fragment?, Buffer.emitOpen_core hcore]
  | .node opening closing children, .node opening' closing' children', h, b => by
    rw [normal, normal, node.injEq] at h
    obtain ⟨rfl, rfl, h⟩ := h
    rw [write, write, writeItems_eq h]
  | .leaf _, .node .., h, _ | .node .., .leaf _, h, _ => by cases h

theorem writeItems_eq : ∀ {ts us : List Tree}, normals ts = normals us →
    ∀ b, writeItems ts b = writeItems us b
  | [], [], _, _ => rfl
  | t :: ts, u :: us, h, b => by
    rw [normals, normals, List.cons.injEq] at h
    have hempty : ts.isEmpty = us.isEmpty := by
      cases ts <;> cases us <;> first | rfl | cases h.2
    rw [writeItems, writeItems, write_eq h.1, hempty]
    simp only [writeItems_eq h.2]
  | [], _ :: _, h, _ | _ :: _, [], h, _ => by cases h

end

end Tree

/-! ## Forests -/

namespace Forest

/-- The initializers with the texts of their elements in normal form. -/
def normal (f : Forest) : Forest := ⟨f.composites.map Composite.normal⟩

theorem size_normal (f : Forest) : f.normal.size = f.size := List.length_map _

theorem get?_normal (f : Forest) (p : Nat) : f.normal.get? p = (f.get? p).map Composite.normal :=
  List.getElem?_map

theorem isRoot_normal (f : Forest) (p : Nat) : f.normal.isRoot p = f.isRoot p := by
  rw [isRoot, isRoot, get?_normal, Option.any_map]
  rfl

theorem isClosed_normal (f : Forest) (p : Nat) : f.normal.isClosed p = f.isClosed p := by
  simp only [isClosed, get?_normal, Option.any_map]
  rfl

theorem elementCount_normal (f : Forest) (p : Nat) : f.normal.elementCount p = f.elementCount p := by
  rw [elementCount, elementCount, get?_normal, Option.map_map]
  cases f.get? p with
  | none => rfl
  | some c =>
    simp [Composite.normal]

theorem normal_begin (f : Forest) (b : Brackets) : (f.begin b).normal = f.normal.begin b := by
  rw [normal, begin, List.map_append, begin, size_normal]
  rfl

theorem normal_beginUnder (f : Forest) (p : Nat) (b : Brackets) :
    (f.beginUnder p b).normal = f.normal.beginUnder p b := by
  rw [normal, beginUnder, List.map_append, beginUnder, get?_normal, Option.map_map]
  rfl

theorem normal_attach (f : Forest) (p : Nat) (e : Element) :
    (f.attach p e).normal = f.normal.attach p e.normal := by
  rw [normal, attach, attach, Forest.mk.injEq]
  ext i
  simp only [normal, List.getElem?_map, List.getElem?_modify]
  cases f.composites[i]? with
  | none => rfl
  | some c =>
    simp only [Option.map_some]
    split <;> simp [Composite.normal]

theorem normal_close (f : Forest) (p : Nat) : (f.close p).normal = f.normal.close p := by
  rw [normal, close, close, Forest.mk.injEq]
  ext i
  simp only [normal, List.getElem?_map, List.getElem?_modify]
  cases f.composites[i]? with
  | none => rfl
  | some c =>
    simp only [Option.map_some]
    split <;> rfl

theorem normal_tree (f : Forest) (p : Nat) : (f.tree p).normal = f.normal.tree p := by
  rw [tree, tree, get?_normal]
  cases hc : f.get? p with
  | none => rfl
  | some c =>
    rw [Option.map_some, Tree.normal, Tree.normals_eq, List.map_filterMap]
    simp only [Composite.normal, List.filterMap_map]
    congr 1
    refine List.filterMap_congr fun e _ => ?_
    cases e with
    | text s => rfl
    | composite child =>
      simp only [Function.comp_apply, Element.normal, size_normal]
      by_cases h : p < child ∧ child < f.size
      · rw [dif_pos h, dif_pos h, Option.map_some, normal_tree f child]
      · rw [dif_neg h, dif_neg h, Option.map_none]
termination_by f.size - p

end Forest

/-! ## Sessions -/

/-- Were two notes taken of the same text, and of operations that ended alike? -/
structure Step.Like (n n' : Step) : Prop where
  label : n.label = n'.label
  buffer : n.buffer = n'.buffer
  outcome : EndAlike n.outcome n'.outcome

/-- Do two sessions agree but for the elements of their initializers, of which
    the normal forms agree, and for the replies in their notes? -/
structure Session.Like (s s' : Session) : Prop where
  buffer : s.buffer = s'.buffer
  forest : s.forest.normal = s'.forest.normal
  handles : s.handles = s'.handles
  config : s.config = s'.config
  library : s.library = s'.library
  engine : s.engine = s'.engine
  files : s.files = s'.files
  log : s.log = s'.log
  trace : List.Forall₂ Step.Like s.trace s'.trace

theorem Session.Like.refl (s : Session) : s.Like s :=
  ⟨rfl, rfl, rfl, rfl, rfl, rfl, rfl, rfl, List.forall₂_same.2 fun _ _ => ⟨rfl, rfl, .of_eq rfl⟩⟩

namespace Action

variable {α β : Type} {R : Except Error α → Except Error α → Prop}

/-- Do two actions, carried out on sessions that are alike, come to outcomes that
    `R` relates and to such sessions again? -/
def Matches (R : Except Error α → Except Error α → Prop) (a a' : Action α) : Prop :=
  ∀ ⦃s s'⦄, s.Like s' → R (a.apply s).1 (a'.apply s').1 ∧ (a.apply s).2.Like (a'.apply s').2

theorem Matches.next {a a' : Action α} {f f' : α → Action β} (ha : Matches Eq a a')
    (hf : ∀ x, Matches Eq (f x) (f' x)) : Matches Eq (a >>= f) (a' >>= f') := by
  intro s s' h
  obtain ⟨ho, ht⟩ := ha h
  rcases same_outcome ho with ⟨err, t, t', e, e'⟩ | ⟨x, t, t', e, e'⟩
  · rw [e, e'] at ht
    rw [apply_bind_error e, apply_bind_error e']
    exact ⟨rfl, ht⟩
  · rw [e, e'] at ht
    rw [apply_bind_ok e, apply_bind_ok e']
    exact hf x ht

theorem Matches.reply {a a' : Action Reply} (h : Matches Eq a a') : Matches EndAlike a a' :=
  fun _ _ hs => ⟨.of_eq (h hs).1, (h hs).2⟩

theorem Matches.discarded {a a' : Action Reply} (h : Matches EndAlike a a') :
    Matches Eq (discard a) (discard a') := by
  intro s s' hs
  obtain ⟨ho, ht⟩ := h hs
  rcases e : a.apply s with ⟨err | x, t⟩ <;> rcases e' : a'.apply s' with ⟨err' | x', t'⟩ <;>
    rw [e, e'] at ho ht <;> cases ho
  · rw [discard_eq, discard_eq, apply_bind_error e, apply_bind_error e']
    exact ⟨rfl, ht⟩
  · rw [discard_eq, discard_eq, apply_bind_ok e, apply_bind_ok e']
    exact ⟨rfl, ht⟩

theorem matches_pure (x : α) : Matches Eq (pure x) (pure x) := fun _ _ hs => ⟨rfl, hs⟩

theorem matches_throw (e : Error) : Matches Eq (throw e : Action α) (throw e) := fun _ _ hs => ⟨rfl, hs⟩

theorem matches_report (r : Reporting α) : Matches Eq (report r) (report r) := by
  intro s s' hs
  rw [apply_report, apply_report, hs.log]
  exact ⟨rfl, { hs with log := rfl }⟩

theorem matches_changeBuffer (f : Buffer → Buffer) :
    Matches Eq (changeBuffer f) (changeBuffer f) := fun _ _ hs =>
  ⟨rfl, { hs with buffer := congrArg f hs.buffer }⟩

theorem matches_emitText (t : String) : Matches Eq (emitText t) (emitText t) := matches_changeBuffer _

/-- What is done with the session has to match on sessions that are alike. -/
theorem matches_get {k k' : Session → Action α}
    (h : ∀ s s', s.Like s' → Matches R (k s) (k' s')) : Matches R (get >>= k) (get >>= k') := by
  intro s s' hs
  rw [apply_bind_ok (apply_get s), apply_bind_ok (apply_get s')]
  exact h s s' hs hs

theorem matches_setEngine (e : Engine) :
    Matches Eq (modify ({ · with engine := some e }) : Action Unit)
      (modify ({ · with engine := some e })) := fun _ _ hs => ⟨rfl, { hs with engine := rfl }⟩

theorem matches_changeForest {f : Forest → Forest}
    (h : ∀ {g g' : Forest}, g.normal = g'.normal → (f g).normal = (f g').normal) :
    Matches Eq (changeForest f) (changeForest f) := fun _ _ hs =>
  ⟨rfl, { hs with forest := h hs.forest }⟩

theorem Matches.indented {a a' : Action Unit} (h : Matches Eq a a') :
    Matches Eq (indented a) (indented a') := by
  intro s s' hs
  have hdeeper : ({ s with buffer := s.buffer.enter } : Session).Like { s' with buffer := s'.buffer.enter } :=
    { hs with buffer := congrArg Buffer.enter hs.buffer }
  obtain ⟨ho, ht⟩ := h hdeeper
  rw [apply_indented, apply_indented]
  exact ⟨ho, { ht with buffer := congrArg Buffer.leave ht.buffer }⟩

theorem Matches.attempt {a a' : Action Unit} (h : Matches Eq a a') :
    Matches Eq (attempt a) (attempt a') := by
  intro s s' hs
  rw [apply_attempt, apply_attempt]
  exact ⟨congrArg attempted (h hs).1, (h hs).2⟩

theorem Matches.noted (label : String) {a a' : Action Reply} (h : Matches EndAlike a a') :
    Matches EndAlike (noted label a) (noted label a') := by
  intro s s' hs
  obtain ⟨ho, ht⟩ := h hs
  rw [apply_noted, apply_noted]
  exact ⟨ho, { ht with trace := List.rel_append ht.trace (.cons ⟨rfl, ht.buffer, ho⟩ .nil) }⟩

theorem Matches.silent {a a' : Action Unit} (h : Matches Eq a a') :
    Matches EndAlike (Op.silent a) (Op.silent a') :=
  (h.next fun _ => matches_pure _).reply

/-! ## Initializers -/

theorem matches_placeOf (handle : String) : Matches Eq (placeOf handle) (placeOf handle) := by
  intro s s' hs
  rw [apply_placeOf, apply_placeOf, hs.handles]
  exact ⟨rfl, hs⟩

theorem matches_setHandle (handle : String) (place : Nat) :
    Matches Eq (setHandle handle place) (setHandle handle place) := by
  intro s s' hs
  rw [apply_setHandle, apply_setHandle, hs.handles]
  exact ⟨rfl, { hs with handles := rfl }⟩

/-- What only depends on the normal form gives the same. -/
theorem matches_ask {f : Forest → α} (h : ∀ g : Forest, f g.normal = f g) :
    Matches Eq (do return f (← get).forest) (do return f (← get).forest) := by
  refine matches_get fun s s' hs => ?_
  rw [← h s.forest, hs.forest, h s'.forest]
  exact matches_pure _

theorem matches_checkOpen (place : Nat) : Matches Eq (checkOpen place) (checkOpen place) := by
  intro s s' hs
  rw [apply_checkOpen, apply_checkOpen, ← s.forest.isClosed_normal, hs.forest,
    s'.forest.isClosed_normal]
  exact ⟨rfl, hs⟩

theorem matches_beginInitializer (brackets : Brackets) :
    Matches Eq (beginInitializer brackets) (beginInitializer brackets) := by
  intro s s' hs
  rw [apply_beginInitializer, apply_beginInitializer]
  refine ⟨?_, { hs with forest := ?_ }⟩
  · rw [← s.forest.size_normal, hs.forest, s'.forest.size_normal]
  · rw [Forest.normal_begin, Forest.normal_begin, hs.forest]

theorem matches_beginNested (place : Nat) (brackets : Brackets) :
    Matches Eq (beginNested place brackets) (beginNested place brackets) := by
  intro s s' hs
  rw [apply_beginNested, apply_beginNested, ← s.forest.isClosed_normal, hs.forest,
    s'.forest.isClosed_normal]
  split
  · exact ⟨rfl, hs⟩
  · refine ⟨?_, { hs with forest := ?_ }⟩
    · rw [← s.forest.size_normal, hs.forest, s'.forest.size_normal]
    · rw [Forest.normal_beginUnder, Forest.normal_beginUnder, hs.forest]

theorem matches_attachNested (place child : Nat) :
    Matches Eq (attachNested place child) (attachNested place child) :=
  matches_changeForest fun h => by rw [Forest.normal_attach, Forest.normal_attach, h]

/-- Elements with the same normal form make no difference. -/
theorem matches_addElement (place : Nat) {v w : Value} (h : v.normal = w.normal) :
    Matches Eq (addElement place v) (addElement place w) := by
  rcases Value.eq_of_normal h with rfl | ⟨t, u, rfl, rfl, hcore⟩
  · refine (matches_checkOpen place).next fun _ => (matches_report _).next fun t => ?_
    exact matches_changeForest fun h => by rw [Forest.normal_attach, Forest.normal_attach, h]
  · refine (matches_checkOpen place).next fun _ => ?_
    intro s s' hs
    refine ⟨rfl, { hs with forest := ?_ }⟩
    show (s.forest.attach place (.text t)).normal = (s'.forest.attach place (.text u)).normal
    rw [Forest.normal_attach, Forest.normal_attach, hs.forest, Element.normal, Element.normal, hcore]

theorem matches_writeTree (t : Tree) : Matches Eq (writeTree t) (writeTree t) := by
  refine matches_get fun s s' hs => ?_
  rw [hs.buffer]
  refine (matches_changeBuffer _).next fun _ => ?_
  split
  · exact matches_pure _
  · exact (matches_report _).next fun _ => matches_pure _

theorem announcement_eq {f g : Forest} (h : f.normal = g.normal) (place : Nat) :
    announcement f place = announcement g place := by
  have ht : (f.tree place).normal = (g.tree place).normal := by
    rw [Forest.normal_tree, Forest.normal_tree, h]
  have hc : f.elementCount place = g.elementCount place := by
    rw [← f.elementCount_normal, h, g.elementCount_normal]
  rw [announcement, announcement, hc]
  cases hf : f.tree place with
  | leaf v =>
    cases hg : g.tree place with
    | leaf w => rfl
    | node => rw [hf, hg] at ht; cases ht
  | node opening closing children =>
    cases hg : g.tree place with
    | leaf w => rw [hf, hg] at ht; cases ht
    | node opening' closing' children' =>
      rw [hf, hg, Tree.normal, Tree.normal, Tree.node.injEq] at ht
      rw [ht.1, ht.2.1]

/-- The tree of a root is written alike. -/
theorem matches_writeInitializer (place : Nat) :
    Matches Eq (writeInitializer place) (writeInitializer place) := by
  intro s s' hs
  have hr : s.forest.isRoot place = s'.forest.isRoot place := by
    rw [← s.forest.isRoot_normal, hs.forest, s'.forest.isRoot_normal]
  have hc : s.forest.isClosed place = s'.forest.isClosed place := by
    rw [← s.forest.isClosed_normal, hs.forest, s'.forest.isClosed_normal]
  have hclose : (s.forest.close place).normal = (s'.forest.close place).normal := by
    rw [Forest.normal_close, Forest.normal_close, hs.forest]
  have ht : ((s.forest.close place).tree place).normal = ((s'.forest.close place).tree place).normal := by
    rw [Forest.normal_tree, Forest.normal_tree, hclose]
  rw [apply_writeInitializer, apply_writeInitializer, hr, hc]
  split
  · split
    · exact ⟨rfl, hs⟩
    · refine ⟨rfl, { hs with buffer := ?_, forest := hclose, log := ?_ }⟩
      · rw [hs.buffer, Tree.write_eq ht]
      · rw [hs.log, announcement_eq hclose]
  · exact ⟨rfl, hs⟩

/-! ## Text -/

/-- Fragments with the same normal form may be given, if what follows makes
    nothing else of them. -/
theorem matches_fragment {v w : Value} (h : v.normal = w.normal) {f f' : String → Action β}
    (hf : ∀ {t u}, Block.core t = Block.core u → Matches Eq (f t) (f' u)) :
    Matches Eq (report (.fragment v) >>= f) (report (.fragment w) >>= f') := by
  rcases Value.eq_of_normal h with rfl | ⟨t, u, rfl, rfl, hcore⟩
  · exact (matches_report _).next fun _ => hf rfl
  · exact fun _ _ hs => hf hcore hs

theorem matches_emit {v w : Value} (h : v.normal = w.normal) :
    Matches EndAlike (Op.emit v).perform (Op.emit w).perform := by
  refine Matches.silent (matches_fragment h fun {t u} hcore => ?_)
  have heq : (fun b : Buffer => b.emit t) = fun b => b.emit u := by
    funext b
    rw [Buffer.emit, Buffer.emit, Buffer.emitOpen_core hcore]
  rw [emitText, emitText, heq]
  exact matches_changeBuffer _

theorem matches_comment {v w : Value} (h : v.normal = w.normal) :
    Matches EndAlike (Op.comment v).perform (Op.comment w).perform := by
  refine Matches.silent (matches_fragment h fun {t u} hcore => ?_)
  have heq : (fun b : Buffer => b.emitComment t) = fun b => b.emitComment u := by
    funext b
    rw [Buffer.emitComment, Buffer.emitComment, Block.unindent_of_core hcore]
  rw [heq]
  exact matches_changeBuffer _

theorem matches_returnType (d : Declaration) : Matches Eq (returnType d) (returnType d) := by
  unfold returnType
  split
  · exact matches_pure _
  · exact matches_emitText _

/-- Do initial values of members have the same normal forms? -/
def MembersAlike (initial initial' : List (Value × Value)) : Prop :=
  List.Forall₂ (fun e e' => e.1 = e'.1 ∧ e.2.normal = e'.2.normal) initial initial'

theorem matches_members {initial initial' : List (Value × Value)} (h : MembersAlike initial initial')
    (lead : String) : Matches Eq (members lead initial) (members lead initial') := by
  induction h generalizing lead with
  | nil => exact matches_pure _
  | @cons e e' rest rest' he hrest ih =>
    obtain ⟨name, value⟩ := e
    obtain ⟨name', value'⟩ := e'
    obtain ⟨rfl, hvalue⟩ := he
    have hempty : rest.isEmpty = rest'.isEmpty := by cases hrest <;> rfl
    rw [members, members, hempty]
    refine (matches_report _).next fun n => matches_fragment hvalue fun {t u} hcore => ?_
    simp only [memberValue, Block.unindent_of_core hcore]
    exact (matches_changeBuffer _).next fun _ => ih "  "

theorem membersAlike_refl (initial : List (Value × Value)) : MembersAlike initial initial :=
  List.forall₂_same.2 fun _ _ => ⟨rfl, rfl⟩

theorem matches_setUnit (unit : Value) : Matches Eq (setUnit unit) (setUnit unit) := by
  refine (matches_report _).next fun u => matches_get fun s s' hs => ?_
  rw [hs.buffer]
  dsimp only
  split
  · exact (matches_report _).next fun _ => matches_changeBuffer _
  · exact matches_changeBuffer _

theorem Matches.declareWith (declaration : Value) {a a' : Action Unit} (h : Matches Eq a a') :
    Matches Eq (declareWith declaration a) (declareWith declaration a') :=
  (matches_report _).next fun _ => (matches_changeBuffer _).next fun _ => h.next fun _ =>
    matches_changeBuffer _

/-! ## Templates -/

theorem matches_engine : Matches Eq engine engine := by
  refine matches_get fun s s' hs => ?_
  rw [hs.engine, hs.files, hs.config]
  split
  · exact matches_pure _
  · exact (matches_report _).next fun e => (matches_setEngine e).next fun _ => matches_pure _

theorem matches_checkVariables (own : List String) (given : Template.Bindings) :
    Matches Eq (checkVariables own given) (checkVariables own given) := by
  unfold checkVariables
  split
  · exact matches_throw _
  · exact matches_pure _

theorem matches_template {op : Op} (h : op.isTemplate = true) : Matches Eq op.perform op.perform := by
  cases op with
  | template source given =>
    refine Matches.next ?_ fun _ => matches_pure _
    refine (matches_checkVariables _ _).next fun _ => matches_engine.next fun e => ?_
    refine matches_get fun s s' hs => ?_
    rw [hs.library, hs.files]
    exact (matches_setEngine _).next fun _ => (matches_report _).next fun _ => matches_emitText _
  | templateFile name given =>
    refine Matches.next ?_ fun _ => matches_pure _
    refine (matches_checkVariables _ _).next fun _ => matches_engine.next fun e => ?_
    refine matches_get fun s s' hs => ?_
    rw [hs.library, hs.files]
    exact (matches_setEngine _).next fun _ => (matches_report _).next fun _ => matches_emitText _
  | addTemplate name source =>
    refine Matches.next ?_ fun _ => matches_pure _
    exact matches_engine.next fun e => (matches_report _).next fun e => matches_setEngine e
  | hasTemplate name =>
    refine Matches.next ?_ fun _ => matches_pure _
    refine matches_engine.next fun e => matches_get fun s s' hs => ?_
    rw [hs.library, hs.files]
    exact matches_pure _
  | _ => cases h

end Action

/-! ## Operations -/

open CxxWriter.Action

/-- An operation around another body. -/
def Op.withBody : Op → List Op → Op
  | indented _ reply, ops => indented ops reply
  | attempt _, ops => attempt ops
  | guarded name _, ops => guarded name ops
  | struct name _, ops => struct name ops
  | typedefStruct name _, ops => typedefStruct name ops
  | function declaration _, ops => function declaration ops
  | constructor declaration initial _, ops => constructor declaration initial ops
  | declareWith declaration _, ops => declareWith declaration ops
  | nestedWith handle brackets child _, ops => nestedWith handle brackets child ops
  | initializer brackets handle _, ops => initializer brackets handle ops
  | op, _ => op

namespace Op

theorem matches_constructor (declaration : Value) {initial initial' : List (Value × Value)}
    (h : MembersAlike initial initial') {body body' : List Op}
    (hb : Matches Eq (performAll body) (performAll body')) :
    Matches EndAlike (Op.constructor declaration initial body).perform
      (Op.constructor declaration initial' body').perform :=
  Matches.silent <| (matches_report _).next fun d => (matches_returnType d).next fun _ =>
    (matches_emitText _).next fun _ => (matches_members h _).indented.next fun _ =>
    (matches_emitText _).next fun _ => hb.indented.next fun _ => (matches_emitText _).next fun _ =>
    matches_emitText _

/-- Operations around bodies that match. -/
theorem matches_compound {op : Op} (hc : op.isCompound = true) {body : List Op}
    (hb : Matches Eq (performAll op.body) (performAll body)) :
    Matches EndAlike op.perform (op.withBody body).perform := by
  cases op with
  | indented _ reply => exact (hb.indented.next fun _ => matches_pure _).reply
  | attempt _ => exact hb.attempt.reply
  | guarded name _ =>
    refine Matches.silent ((matches_report _).next fun name => ?_)
    exact (matches_emitText _).next fun _ => (matches_emitText _).next fun _ =>
      (matches_emitText _).next fun _ => hb.next fun _ => (matches_emitText _).next fun _ =>
      matches_emitText _
  | struct name _ =>
    exact Matches.silent <| (matches_report _).next fun name => (matches_emitText _).next fun _ =>
      hb.indented.next fun _ => matches_emitText _
  | typedefStruct name _ =>
    exact Matches.silent <| (matches_emitText _).next fun _ => hb.indented.next fun _ =>
      (matches_report _).next fun name => matches_emitText _
  | function declaration _ =>
    exact Matches.silent <| (matches_report _).next fun d => (matches_returnType d).next fun _ =>
      (matches_emitText _).next fun _ => hb.indented.next fun _ => (matches_emitText _).next fun _ =>
      matches_emitText _
  | constructor declaration initial _ =>
    exact matches_constructor declaration (membersAlike_refl initial) hb
  | declareWith declaration _ => exact Matches.silent (hb.declareWith declaration)
  | nestedWith handle brackets child _ =>
    exact ((matches_placeOf handle).next fun place => (matches_beginNested place brackets).next
      fun inner => (matches_setHandle child inner).next fun _ => hb.next fun _ =>
      (matches_attachNested place inner).next fun _ => matches_pure _).reply
  | initializer brackets handle _ =>
    exact ((matches_beginInitializer brackets).next fun place =>
      (matches_setHandle handle place).next fun _ => hb.next fun _ =>
      (matches_writeInitializer place).next fun _ => matches_pure _).reply
  | _ => cases hc

theorem matches_element (handle : String) {v w : Value} (h : v.normal = w.normal) :
    Matches EndAlike (Op.element handle v).perform (Op.element handle w).perform :=
  Matches.reply <| (matches_placeOf handle).next fun place => (matches_addElement place h).next
    fun _ => matches_pure _

/-- Replies that show a tree are all that differs. -/
theorem matches_treeOf (handle : String) :
    Matches EndAlike (Op.treeOf handle).perform (Op.treeOf handle).perform := by
  intro s s' hs
  rw [perform, apply_bind, apply_bind, apply_placeOf, apply_placeOf, hs.handles]
  cases s'.handles.find? (·.1 == handle) with
  | none => exact ⟨.error, hs⟩
  | some e => exact ⟨.ok, hs⟩

/-- Operations without others in them. -/
theorem matches_simple {op : Op} (hs : op.isSimple = true) : Matches EndAlike op.perform op.perform := by
  have hcode {f : String → Action Unit} (v : Value) (hf : ∀ t, Matches Eq (f t) (f t)) :
      Matches EndAlike (silent (report (.fragment v) >>= f)) (silent (report (.fragment v) >>= f)) :=
    Matches.silent ((matches_report _).next hf)
  cases op with
  | newline | stripNewlines => exact Matches.silent (matches_changeBuffer _)
  | emit v | emitOpen v | emitRaw v | comment v | includeHeader v | define v | declare v =>
    exact hcode v fun _ => matches_changeBuffer _
  | separator => exact Matches.silent (matches_emitText _)
  | setUnit unit => exact Matches.silent (matches_setUnit unit)
  | snapshot =>
    refine Matches.reply ((matches_changeBuffer _).next fun _ => matches_get fun s s' hs => ?_)
    rw [hs.buffer]
    exact matches_pure _
  | state =>
    refine Matches.reply (matches_get fun s s' hs => ?_)
    rw [hs.buffer]
    exact matches_pure _
  | literal v => exact Matches.reply ((matches_report _).next fun _ => matches_pure _)
  | fail message => exact Matches.reply (matches_throw _)
  | defineString name v => exact hcode name fun _ => (matches_report _).next fun _ => matches_emitText _
  | declareValue v w => exact hcode v fun _ => (matches_report _).next fun _ => matches_emitText _
  | declareInitializer v handle =>
    exact Matches.reply ((matches_placeOf handle).next fun place =>
      ((matches_writeInitializer place).declareWith v).next fun _ => matches_pure _)
  | beginInitializer brackets handle =>
    exact Matches.reply ((matches_beginInitializer brackets).next fun place =>
      (matches_setHandle handle place).next fun _ => matches_pure _)
  | element handle v => exact matches_element handle rfl
  | stringElement handle v =>
    refine Matches.reply ((matches_placeOf handle).next fun place => Matches.next ?_ fun _ => matches_pure _)
    exact (matches_report _).next fun _ => matches_addElement place rfl
  | nested handle brackets child =>
    exact Matches.reply ((matches_placeOf handle).next fun place =>
      (matches_beginNested place brackets).next fun inner => (matches_attachNested place inner).next
      fun _ => (matches_setHandle child inner).next fun _ => matches_pure _)
  | writeInitializer handle =>
    exact Matches.reply ((matches_placeOf handle).next fun place =>
      (matches_writeInitializer place).next fun _ => matches_pure _)
  | elementCount handle =>
    exact Matches.reply ((matches_placeOf handle).next fun place =>
      matches_ask (f := fun f => Reply.value (.int (f.elementCount place))) fun g => by
        rw [g.elementCount_normal])
  | isRoot handle =>
    exact Matches.reply ((matches_placeOf handle).next fun place =>
      matches_ask (f := fun f => Reply.value (.bool (f.isRoot place))) fun g => by
        rw [g.isRoot_normal])
  | treeOf handle => exact matches_treeOf handle
  | writeTree t => exact Matches.silent (matches_writeTree t)
  | template _ _ | templateFile _ _ | addTemplate _ _ | hasTemplate _ =>
    exact (matches_template rfl).reply
  | _ => cases hs

theorem withBody_body (op : Op) : op.withBody op.body = op := by
  cases op <;> rfl

/-- Every operation matches itself. -/
theorem matches_both : (∀ op : Op, Matches EndAlike op.perform op.perform) ∧
    ∀ ops : List Op, Matches Eq (performAll ops) (performAll ops) := by
  refine Op.induction ?noted ?compound ?simple ?nil ?cons
  case noted => exact fun label op ih => ih.noted label
  case compound =>
    intro op hc ih
    have h := matches_compound hc ih
    rwa [withBody_body] at h
  case simple => exact fun op hs => matches_simple hs
  case nil => exact matches_pure _
  case cons => exact fun op ops ih ihs => ih.discarded.next fun _ => ihs

end Op

end CxxWriter
