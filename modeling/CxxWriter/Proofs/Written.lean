/-
  Trees that have been written.

  * `Keeps a`: the action adds nothing to a composite that is closed when it
    starts.  All operations do (`keeps_perform`), so whatever starts after a
    tree has been written leaves it as it is;
  * `Opens opening`: the opening of an operation adds nothing to such composites
    either, and its ending adds to those only that it was given for;
  * `Course`: what holds of the moments of an operation;
  * `written_elements_kept`: a composite of a written tree keeps its elements
    from a moment on exactly if no block is running on it that ends well.
-/
import CxxWriter.Proofs.Forest
import CxxWriter.Proofs.Initializer
import CxxWriter.Proofs.Moments

namespace CxxWriter

open Forest

namespace Action

variable {α β : Type}

/-! ## Actions that start after a tree was written -/

/-- Does the action add nothing to composites that are closed when it starts,
    unless they are among `blocks`? -/
def Keeps (blocks : List Nat) (a : Action α) : Prop :=
  ∀ s, Later blocks s.forest (a.apply s).2.forest

variable {blocks : List Nat}

/-- An action that does not touch the forest. -/
theorem Keeps.of_eq {a : Action α} (h : ∀ s, (a.apply s).2.forest = s.forest) : Keeps blocks a := by
  intro s
  rw [h s]
  exact .refl _ _

theorem Keeps.next {a : Action α} {f : α → Action β} (ha : Keeps blocks a)
    (hf : ∀ x, Keeps blocks (f x)) : Keeps blocks (a >>= f) :=
  related_bind (R := fun s t => Later blocks s.forest t.forest) .trans ha hf

theorem Keeps.mono {a : Action α} (ha : Keeps [] a) : Keeps blocks a := fun s =>
  (ha s).mono (List.nil_subset _)

theorem keeps_pure (x : α) : Keeps blocks (pure x) := .of_eq fun _ => rfl

theorem keeps_throw (e : Error) : Keeps blocks (throw e : Action α) := .of_eq fun _ => rfl

theorem keeps_report (r : Reporting α) : Keeps blocks (report r) := .of_eq fun _ => rfl

theorem keeps_changeBuffer (f : Buffer → Buffer) : Keeps blocks (changeBuffer f) :=
  .of_eq fun _ => rfl

theorem keeps_writeTree (t : Tree) : Keeps blocks (writeTree t) := by
  refine .of_eq fun s => ?_
  obtain ⟨log, h⟩ := apply_writeTree t s
  rw [h]

theorem keeps_setUnit (unit : Value) : Keeps blocks (setUnit unit) := by
  refine .of_eq fun s => ?_
  obtain ⟨log, h⟩ := apply_setUnit unit s
  rw [h]
  cases unit.asText? <;> rfl

theorem keeps_placeOf (handle : String) : Keeps blocks (placeOf handle) :=
  .of_eq fun s => by rw [apply_placeOf]

theorem keeps_setHandle (handle : String) (place : Nat) : Keeps blocks (setHandle handle place) :=
  .of_eq fun _ => rfl

theorem Keeps.indented {a : Action α} (ha : Keeps blocks a) : Keeps blocks (indented a) := by
  intro s
  rw [apply_indented]
  exact ha { s with buffer := s.buffer.enter }

theorem Keeps.attempt {a : Action Unit} (ha : Keeps blocks a) : Keeps blocks (attempt a) := by
  intro s
  rw [apply_attempt]
  exact ha s

theorem Keeps.noted (label : String) {a : Action Reply} (ha : Keeps blocks a) :
    Keeps blocks (noted label a) := by
  intro s
  rw [apply_noted]
  exact ha s

theorem Keeps.declareWith (declaration : Value) {a : Action Unit} (ha : Keeps blocks a) :
    Keeps blocks (declareWith declaration a) :=
  (keeps_report _).next fun _ => (keeps_changeBuffer _).next fun _ => ha.next fun _ =>
    keeps_changeBuffer _

theorem keeps_beginInitializer (brackets : Brackets) : Keeps [] (beginInitializer brackets) :=
  fun s => later_begin s.forest brackets

theorem keeps_beginNested (place : Nat) (brackets : Brackets) :
    Keeps [] (beginNested place brackets) := by
  intro s
  rw [apply_beginNested]
  split
  · exact .refl _ _
  · exact later_beginUnder _ _ _

theorem keeps_attachNested (place child : Nat) : Keeps [place] (attachNested place child) :=
  fun _ => later_attach (fun _ => List.mem_singleton_self _) _

theorem keeps_addElement (place : Nat) (code : Value) : Keeps [] (addElement place code) := by
  intro s
  rw [apply_addElement]
  split
  · exact .refl _ _
  · next h =>
    split
    · exact later_attach (fun hc => absurd hc h) _
    · exact .refl _ _

theorem keeps_closeRoot (place : Nat) : Keeps [] (closeRoot place) := by
  intro s
  rw [apply_closeRoot]
  split
  · split
    · exact .refl _ _
    · exact later_close s.forest place
  · exact .refl _ _

theorem keeps_writeInitializer (place : Nat) : Keeps [] (writeInitializer place) := by
  rw [writeInitializer_eq]
  exact (keeps_closeRoot place).next keeps_writeTree

/-- Once a root has passed the checks for being written, its whole tree is
    closed, even if a value in it is no fragment. -/
theorem isClosed_writeInitializer {place p : Nat} {s : Session} {c : Composite}
    (hr : s.forest.isRoot place = true) (ho : s.forest.isClosed place = false)
    (hp : s.forest.get? p = some c) (hc : c.root = place) :
    ((writeInitializer place).apply s).2.forest.isClosed p = true := by
  have hclosed : (s.forest.close place).isClosed p = true := by
    rw [isRoot, Option.any_eq_true] at hr
    obtain ⟨r, hroot, -⟩ := hr
    refine isClosed_iff.2 ⟨_, by rw [get?_close, hp]; rfl, { r with isWritten := true }, ?_, rfl⟩
    rw [apply_ite Composite.root]
    simp only [hc, ite_self]
    rw [get?_close, hroot, Option.map_some, if_pos rfl]
  have hroot := apply_closeRoot place s
  rw [if_pos hr, ho] at hroot
  have hw : Keeps [] (writeTree ((s.forest.close place).tree place)) := keeps_writeTree _
  rw [writeInitializer_eq, apply_bind_ok hroot]
  exact (hw _).closed hclosed

/-- The composite that gets the nested one is open at the start, so that it is
    none of those that have to stay as they are. -/
theorem keeps_beginNested_next (place : Nat) (brackets : Brackets) {f : Nat → Action Unit}
    (hf : ∀ inner, Keeps [place] (f inner)) : Keeps [] (beginNested place brackets >>= f) := by
  intro s
  have hl := (keeps_beginNested place brackets).mono.next hf s
  cases h : s.forest.isClosed place with
  | true => rw [apply_bind_error (by rw [apply_beginNested, if_pos h])]; exact .refl _ _
  | false => exact hl.of_open h

theorem keepsTemplateLaw : TemplateLaw (fun a => Keeps [] a) where
  result := keeps_pure
  next := Keeps.next
  failure := keeps_throw
  report := keeps_report
  session := .of_eq fun _ => rfl
  setEngine _ := .of_eq fun _ => rfl
  append _ := keeps_changeBuffer _

theorem keepsLaw : Law (fun _ => true) (fun a => Keeps [] a) (fun a => Keeps [] a) where
  result := keeps_pure
  next := Keeps.next
  failure := keeps_throw
  report _ := keeps_report _
  reply := id
  discarded ha := ha.next fun _ => keeps_pure _
  append _ := keeps_changeBuffer _
  strip _ := keeps_changeBuffer _
  setUnit unit _ := keeps_setUnit unit
  snapshot := .of_eq fun _ => rfl
  state := .of_eq fun _ => rfl
  writeTree := keeps_writeTree
  indented := Keeps.indented
  attempt := Keeps.attempt
  noted label _ := Keeps.noted label
  declareWith declaration _ := Keeps.declareWith declaration
  placeOf := keeps_placeOf
  ask _ := .of_eq fun _ => rfl
  setHandle := keeps_setHandle
  begin := keeps_beginInitializer
  addElement := keeps_addElement
  nested place brackets child := keeps_beginNested_next place brackets fun inner =>
    (keeps_attachNested place inner).next fun _ => keeps_setHandle child inner
  nestedWith place brackets child _ ha := keeps_beginNested_next place brackets fun inner =>
    (keeps_setHandle child inner).next fun _ => ha.mono.next fun _ => keeps_attachNested place inner
  writeInitializer := keeps_writeInitializer
  template op h _ := keepsTemplateLaw.perform op h

theorem keeps_perform (op : Op) : Keeps [] op.perform :=
  keepsLaw.perform op ((Op.everywhere_of_all fun _ => rfl).1 op)

theorem keeps_performAll (ops : List Op) : Keeps [] (Op.performAll ops) :=
  keepsLaw.performAll ops ((Op.everywhere_of_all fun _ => rfl).2 ops)

/-! ## Actions around a body -/

/-- Does the ending leave closed composites as they are but for its places,
    which get elements? -/
def Fills (ending : Ending) : Prop :=
  ∀ s, Later ending.places s.forest (ending.perform.apply s).2.forest ∧
    Gained ending.places s.forest (ending.perform.apply s).2.forest

/-- Does the action leave closed composites as they are, and give such an
    ending? -/
def Opens (opening : Action Ending) : Prop :=
  ∀ s, Later [] s.forest (opening.apply s).2.forest ∧
    ∀ ending, (opening.apply s).1 = .ok ending → Fills ending

theorem Opens.after {a : Action α} {f : α → Action Ending} (ha : Keeps [] a)
    (hf : ∀ x, Opens (f x)) : Opens (a >>= f) := by
  intro s
  have hs := ha s
  rcases h : a.apply s with ⟨_ | x, t⟩
  · rw [h] at hs
    rw [apply_bind_error h]
    exact ⟨hs, nofun⟩
  · rw [h] at hs
    rw [apply_bind_ok h]
    exact ⟨hs.trans (hf x t).1, (hf x t).2⟩

/-- An ending for no composites. -/
theorem opens_pure {closing : Action Closing} (h : Keeps [] (closing >>= Closing.perform)) :
    Opens (pure ⟨[], closing⟩) := by
  refine fun s => ⟨.refl _ _, ?_⟩
  rintro _ ⟨⟩
  exact fun s => ⟨h s, fun _ hp => absurd hp List.not_mem_nil⟩

/-- A closing that does not touch the forest itself. -/
theorem keeps_closing {c : Closing} (h : ∀ s, (c.change s).forest = s.forest) :
    Keeps [] (pure c >>= Closing.perform) := by
  rw [pure_bind]
  refine Keeps.next ?_ fun _ => Keeps.next (.of_eq h) fun _ => keeps_pure _
  cases c.tree with
  | none => exact keeps_pure _
  | some t => exact keeps_writeTree t

/-- An action without a body. -/
theorem opens_whole (a : Action Reply) (ha : Keeps [] a) :
    Opens (do let r ← a; return ⟨[], return .replying r⟩) :=
  .after ha fun _ => opens_pure (keeps_closing fun _ => rfl)

/-- The nested composite is attached to one that was open. -/
theorem opens_nestedWith (place : Nat) (brackets : Brackets) (child : String) :
    Opens (do
      let inner ← beginNested place brackets
      setHandle child inner
      return ⟨[place], return ⟨none, fun s => { s with
        forest := s.forest.attach place (.composite inner) }, .nothing⟩⟩) := by
  refine .after (keeps_beginNested place brackets) fun inner =>
    .after (keeps_setHandle child inner) fun _ s => ⟨.refl _ _, ?_⟩
  rintro _ ⟨⟩
  exact fun s => ⟨later_attach (fun _ => List.mem_singleton_self _) _, gained_attach _ _ _⟩

/-- Every operation begins and ends in this way. -/
theorem opens_opening (op : Op) : Opens op.opening := by
  have hemit (t : String) : Keeps [] (emitText t) := keeps_changeBuffer _
  have hclose {f : Buffer → Buffer} : Keeps [] (pure (.changing f) >>= Closing.perform) :=
    keeps_closing fun _ => rfl
  have hleave {closing : Action Closing} (h : Keeps [] (closing >>= Closing.perform)) :
      Keeps [] ((do changeBuffer (·.leave); closing) >>= Closing.perform) := by
    rw [bind_assoc]
    exact (keeps_changeBuffer _).next fun _ => h
  cases op with
  | indented body reply =>
    exact .after (keeps_changeBuffer _) fun _ => opens_pure (hleave (keeps_closing fun _ => rfl))
  | attempt body => exact opens_pure (keeps_closing fun _ => rfl)
  | guarded name body =>
    exact .after (keeps_report _) fun name => .after (hemit _) fun _ => .after (hemit _) fun _ =>
      .after (hemit _) fun _ => opens_pure hclose
  | struct name body =>
    exact .after (keeps_report _) fun name => .after (hemit _) fun _ =>
      .after (keeps_changeBuffer _) fun _ => opens_pure (hleave hclose)
  | typedefStruct name body =>
    refine .after (hemit _) fun _ => .after (keeps_changeBuffer _) fun _ => opens_pure (hleave ?_)
    rw [bind_assoc]
    exact (keeps_report _).next fun _ => hclose
  | function declaration body =>
    exact .after (keeps_report _) fun d => .after (keepsLaw.returnType d) fun _ =>
      .after (hemit _) fun _ => .after (keeps_changeBuffer _) fun _ => opens_pure (hleave hclose)
  | constructor declaration initial body =>
    exact .after (keeps_report _) fun d => .after (keepsLaw.returnType d) fun _ =>
      .after (hemit _) fun _ => .after (keepsLaw.members _ initial).indented fun _ =>
      .after (hemit _) fun _ => .after (keeps_changeBuffer _) fun _ => opens_pure (hleave hclose)
  | declareWith declaration body =>
    exact .after (keeps_report _) fun s => .after (keeps_changeBuffer _) fun _ => opens_pure hclose
  | declareInitializer declaration handle =>
    exact .after (keeps_placeOf handle) fun place => .after (keeps_report _) fun s =>
      .after (keeps_changeBuffer _) fun _ => .after (keeps_closeRoot place) fun t =>
      opens_pure (keeps_closing fun _ => rfl)
  | nestedWith handle brackets child body =>
    exact .after (keeps_placeOf handle) fun place => opens_nestedWith place brackets child
  | writeInitializer handle =>
    exact .after (keeps_placeOf handle) fun place => .after (keeps_closeRoot place) fun t =>
      opens_pure (keeps_closing fun _ => rfl)
  | initializer brackets handle body =>
    refine .after (keeps_beginInitializer brackets) fun place =>
      .after (keeps_setHandle handle place) fun _ => opens_pure ?_
    rw [bind_assoc]
    exact (keeps_closeRoot place).next fun t => keeps_closing fun _ => rfl
  | writeTree t => exact opens_pure (keeps_closing fun _ => rfl)
  | _ => exact opens_whole _ (keeps_perform _)

end Action

/-! ## The moments of a run -/

/-- Does every block that runs at some moment, but for the first ones, end at a
    later moment by adding an element? -/
def EndsBlocks (blocks : List Nat) : List Moment → Prop
  | [] => True
  | m :: ms => (∀ p ∈ m.blocks, p ∈ blocks ∨ ∃ n ∈ ms, Gained [p] m.forest n.forest) ∧
    EndsBlocks blocks ms

theorem EndsBlocks.append {blocks : List Nat} {ms ns : List Moment} (hm : EndsBlocks blocks ms)
    (hn : EndsBlocks blocks ns) : EndsBlocks blocks (ms ++ ns) := by
  induction ms with
  | nil => exact hn
  | cons m ms ih =>
    refine ⟨fun p hp => ?_, ih hm.2⟩
    rcases hm.1 p hp with hb | ⟨n, hmem, hg⟩
    · exact .inl hb
    · exact .inr ⟨n, List.mem_append_left ns hmem, hg⟩

/-- A moment at which all of some blocks have ended. -/
theorem EndsBlocks.snoc {blocks places : List Nat} {ms : List Moment} {n : Moment}
    (hm : EndsBlocks (places ++ blocks) ms) (hg : ∀ m ∈ ms, Gained places m.forest n.forest)
    (hn : n.blocks = blocks) : EndsBlocks blocks (ms ++ [n]) := by
  induction ms with
  | nil => exact ⟨fun p hp => .inl (hn ▸ hp), trivial⟩
  | cons m ms ih =>
    refine ⟨fun p hp => ?_, ih hm.2 fun m' h => hg m' (List.mem_cons_of_mem m h)⟩
    rcases hm.1 p hp with hb | ⟨n', hmem, hg'⟩
    · rcases List.mem_append.1 hb with hb | hb
      · refine .inr ⟨n, List.mem_append_right ms List.mem_cons_self, fun q hq => ?_⟩
        rw [List.mem_singleton.1 hq]
        exact hg m List.mem_cons_self p hb
      · exact .inl hb
    · exact .inr ⟨n', List.mem_append_left _ hmem, hg'⟩

theorem EndsBlocks.at_moment {blocks : List Nat} {pre post : List Moment} {m : Moment}
    (h : EndsBlocks blocks (pre ++ m :: post)) :
    ∀ p ∈ m.blocks, p ∈ blocks ∨ ∃ n ∈ post, Gained [p] m.forest n.forest := by
  induction pre with
  | nil => exact h.1
  | cons _ _ ih => exact ih h.2

/-- What holds of the moments `ms` between the forests `f` and `g`, while
    `blocks` are running. -/
structure Course (blocks : List Nat) (f g : Forest) (ms : List Moment) : Prop where
  start : ∀ m ∈ ms, Later [] f m.forest
  finish : ∀ m ∈ ms, Later m.blocks m.forest g
  within : ∀ m ∈ ms, blocks ⊆ m.blocks
  pairs : ms.Pairwise fun m n => Later m.blocks m.forest n.forest
  ends : EndsBlocks blocks ms

namespace Course

variable {blocks places : List Nat} {f g h : Forest} {ms ns : List Moment}

theorem nil (blocks : List Nat) (f g : Forest) : Course blocks f g [] where
  start := by simp
  finish := by simp
  within := by simp
  pairs := .nil
  ends := trivial

/-- One after the other. -/
theorem append (hm : Course blocks f g ms) (hn : Course blocks g h ns) (hfg : Later [] f g)
    (hgh : Later [] g h) : Course blocks f h (ms ++ ns) where
  start := List.forall_mem_append.2 ⟨hm.start, fun n hmem => hfg.trans (hn.start n hmem)⟩
  finish := List.forall_mem_append.2
    ⟨fun m hmem => (hm.finish m hmem).trans (hgh.mono (List.nil_subset _)), hn.finish⟩
  within := List.forall_mem_append.2 ⟨hm.within, hn.within⟩
  pairs := List.pairwise_append.2 ⟨hm.pairs, hn.pairs, fun m hmem n hn' =>
    (hm.finish m hmem).trans ((hn.start n hn').mono (List.nil_subset _))⟩
  ends := hm.ends.append hn.ends

/-- The moments of a body, with those before and after it: blocks that were
    opened for the body end with it. -/
theorem around {t u : Forest} (hm : Course (places ++ blocks) t u ms) (hl : Later [] f t)
    (hu : Later places u g) (hg : Gained places u g) (hfg : Later [] f g) :
    Course blocks f g (⟨f, blocks⟩ :: (ms ++ [⟨g, blocks⟩])) := by
  have hfin : ∀ m ∈ ms, Later m.blocks m.forest g := fun m hmem =>
    (hm.finish m hmem).trans (hu.mono fun p hp => hm.within m hmem (List.mem_append_left _ hp))
  have hstart : ∀ m ∈ ms ++ [⟨g, blocks⟩], Later [] f m.forest :=
    List.forall_mem_append.2
      ⟨fun m hmem => hl.trans (hm.start m hmem), List.forall_mem_singleton.2 hfg⟩
  have hfinish : ∀ m ∈ ms ++ [⟨g, blocks⟩], Later m.blocks m.forest g :=
    List.forall_mem_append.2 ⟨hfin, List.forall_mem_singleton.2 (.refl _ _)⟩
  have hwithin : ∀ m ∈ ms ++ [⟨g, blocks⟩], blocks ⊆ m.blocks :=
    List.forall_mem_append.2 ⟨fun m hmem p hp => hm.within m hmem (List.mem_append_right _ hp),
      List.forall_mem_singleton.2 (List.Subset.refl _)⟩
  have hpairs : List.Pairwise (fun m n : Moment => Later m.blocks m.forest n.forest)
      (ms ++ [⟨g, blocks⟩]) :=
    List.pairwise_append.2 ⟨hm.pairs, List.pairwise_singleton _ _,
      fun m hmem => List.forall_mem_singleton.2 (hfin m hmem)⟩
  exact {
    start := List.forall_mem_cons.2 ⟨.refl _ _, hstart⟩
    finish := List.forall_mem_cons.2 ⟨hfg.mono (List.nil_subset _), hfinish⟩
    within := List.forall_mem_cons.2 ⟨List.Subset.refl _, hwithin⟩
    pairs := List.pairwise_cons.2
      ⟨fun m hmem => (hstart m hmem).mono (List.nil_subset _), hpairs⟩
    -- blocks of the body end when it is over, and the others go on
    ends := ⟨fun p hp => .inl hp,
      hm.ends.snoc (fun m hmem => hg.after (hm.finish m hmem)) rfl⟩ }

variable {pre post : List Moment} {m : Moment} {p : Nat}

/-- A closed composite keeps its elements if no block is running on it. -/
theorem keeps (h : Course blocks f g (pre ++ m :: post)) (hc : m.forest.isClosed p = true)
    (hn : p ∉ m.blocks) : ∀ n ∈ post, n.forest.elementsAt p = m.forest.elementsAt p := by
  intro n hmem
  obtain ⟨c, hp, -⟩ := isClosed_iff.1 hc
  have hl := (List.pairwise_cons.1 (List.pairwise_append.1 h.pairs).2.1).1 n hmem
  obtain ⟨d, hd, -, -, -, he⟩ := hl hp
  rw [elementsAt, elementsAt, hd, hp, Option.map_some, Option.map_some, he hc hn]

/-- It gains one if a block is. -/
theorem fills (h : Course [] f g (pre ++ m :: post)) (hc : m.forest.isClosed p = true)
    (hb : p ∈ m.blocks) : ∃ n ∈ post, m.forest.elementCount p < n.forest.elementCount p := by
  obtain ⟨c, hp, -⟩ := isClosed_iff.1 hc
  rcases h.ends.at_moment p hb with hnil | ⟨n, hmem, hg⟩
  · cases hnil
  · obtain ⟨d, hd, hlt⟩ := hg p (List.mem_singleton_self p) c hp
    refine ⟨n, hmem, ?_⟩
    rw [Forest.elementCount, Forest.elementCount, hp, hd]
    exact hlt

end Course

open CxxWriter.Action Op

theorem gained_nil (f g : Forest) : Gained [] f g := fun _ hp => absurd hp List.not_mem_nil

/-- An operation with a body: blocks that it opens get their elements only if
    the body ends well. -/
theorem course_compound {op : Op} (h : op.isCompound = true)
    (ih : ∀ t blocks, Course blocks t.forest ((performAll op.body).apply t).2.forest
      (allMoments op.body t blocks)) (s : Session) (blocks : List Nat) :
    Course blocks s.forest (op.perform.apply s).2.forest (op.moments s blocks) := by
  rw [moments_compound h]
  have hk := keeps_perform op s
  obtain ⟨hl, hf⟩ := opens_opening op s
  rcases ho : op.opening.apply s with ⟨_ | ending, t⟩
  · exact (Course.nil ([] ++ blocks) s.forest s.forest).around (.refl _ _) hk (gained_nil _ _) hk
  · rw [ho] at hl hf
    have hi := ih t
    dsimp only at hl hf ⊢
    rcases hb : (performAll op.body).apply t with ⟨e | _, u⟩
    · -- nothing becomes of the forest when the body fails
      rw [hb] at hi
      have hu : (op.perform.apply s).2.forest = u.forest := by
        rw [perform_body_error ho hb, unwind_forest]
      exact (hi ([] ++ blocks)).around hl (by rw [hu]; exact .refl _ _) (gained_nil _ _) hk
    · rw [hb] at hi
      obtain ⟨hlater, hgained⟩ := hf ending rfl u
      rw [← perform_body_ok ho hb] at hlater hgained
      exact (hi (ending.places ++ blocks)).around hl hlater hgained hk

/-- An operation without other operations in it. -/
theorem course_simple {op : Op} (h : op.isSimple = true) (s : Session) (blocks : List Nat) :
    Course blocks s.forest (op.perform.apply s).2.forest (op.moments s blocks) := by
  rw [moments_simple h]
  exact (Course.nil ([] ++ blocks) s.forest s.forest).around (.refl _ _) (keeps_perform op s)
    (gained_nil _ _) (keeps_perform op s)

theorem course_moments :
    (∀ (op : Op) (s : Session) (blocks : List Nat),
      Course blocks s.forest (op.perform.apply s).2.forest (op.moments s blocks)) ∧
    ∀ (ops : List Op) (s : Session) (blocks : List Nat),
      Course blocks s.forest ((performAll ops).apply s).2.forest (allMoments ops s blocks) := by
  refine Op.induction ?noted ?compound ?simple ?nil ?cons
  case noted =>
    intro label op ih s blocks
    rw [moments]
    have ho : Course ([] ++ blocks) s.forest (op.perform.apply s).2.forest (op.moments s blocks) :=
      ih s blocks
    exact ho.around (.refl _ _) (.refl _ _) (gained_nil _ _) (keeps_perform op s)
  case compound => exact fun op hc ih => course_compound hc ih
  case simple => exact fun op hs => course_simple hs
  case nil => exact fun s blocks => .nil blocks _ _
  case cons =>
    -- what follows an operation that fails has no moments
    intro op ops ih ihs s blocks
    have ho := ih s blocks
    have hk := keeps_perform op s
    rw [allMoments]
    rcases e : op.perform.apply s with ⟨_ | x, t⟩
    · rw [apply_performAll_cons_error e, List.append_nil]
      rw [e] at ho
      exact ho
    · rw [apply_performAll_cons e]
      rw [e] at ho hk
      exact ho.append (ihs t blocks) hk (keeps_performAll ops t)

theorem course_play (ops : List Op) (s : Session) :
    Course [] s.forest (s.play ops).session.forest (s.moments ops) ∧
      Later [] s.forest (s.play ops).session.forest := by
  induction ops generalizing s with
  | nil => exact ⟨.nil _ _ _, .refl _ _⟩
  | cons op ops ih =>
    have ho := course_moments.1 op { s with trace := [] } []
    have hk := keeps_perform op { s with trace := [] }
    obtain ⟨hc, hl⟩ := ih (op.perform.apply { s with trace := [] }).2
    exact ⟨ho.append hc hk hl, hk.trans hl⟩

/-- **A tree that has been written changes by blocks that were running only.**
    Writing a root that is open closes the tree.  Take a moment of a run at which
    the tree of a composite is closed.  If no block is running on the composite,
    or only such as end with an error, then the composite has the same elements
    at all later moments; a block that ends without an error gives it one more. -/
theorem written_elements_kept (p : Nat) :
    (∀ (s : Session) (place : Nat) (c : Composite), s.forest.isRoot place = true →
      s.forest.isClosed place = false → s.forest.get? p = some c → c.root = place →
      ((writeInitializer place).apply s).2.forest.isClosed p = true) ∧
    ∀ (s : Session) (ops : List Op) (pre post : List Moment) (m : Moment),
      s.moments ops = pre ++ m :: post → m.forest.isClosed p = true →
      (p ∉ m.blocks → ∀ n ∈ post, n.forest.elementsAt p = m.forest.elementsAt p ∧
        n.forest.elementCount p = m.forest.elementCount p) ∧
      (p ∈ m.blocks → ∃ n ∈ post, m.forest.elementCount p < n.forest.elementCount p) := by
  refine ⟨fun s place c => isClosed_writeInitializer, fun s ops pre post m h hc => ?_⟩
  have hcourse := (course_play ops s).1
  rw [h] at hcourse
  refine ⟨fun hn n hmem => ?_, hcourse.fills hc⟩
  have hkept := hcourse.keeps hc hn n hmem
  exact ⟨hkept, by rw [elementCount_eq, elementCount_eq, hkept]⟩

/-- An array that is written in a block of its own, and gets the nested array
    afterwards. -/
theorem written_elements_kept_in_block :
    let s := Session.start .empty Config.default "\t" Files.empty []
    let ops : List Op := [.beginInitializer .array "a",
      .nestedWith "a" .array "c" [.writeInitializer "a"]]
    let m : Moment := ⟨⟨[⟨.array, [], 0, true⟩, ⟨.array, [], 0, false⟩]⟩, [0]⟩
    ∃ pre post, s.moments ops = pre ++ m :: post ∧ m.forest.isClosed 0 = true ∧
      ∃ n ∈ post, m.forest.elementCount 0 < n.forest.elementCount 0 := by
  intro s ops m
  have h : s.moments ops = (s.moments ops).take 4 ++ m :: (s.moments ops).drop 5 := by
    decide +kernel
  exact ⟨_, _, h, rfl, ((written_elements_kept 0).2 s ops _ _ m h rfl).2 List.mem_cons_self⟩

/-- Elements of written trees are not the same forever. -/
theorem written_elements_not_constant :
    ¬ ∀ (s : Session) (ops : List Op), (s.moments ops).Pairwise fun m n => ∀ p,
      m.forest.isClosed p = true → n.forest.elementCount p = m.forest.elementCount p := by
  intro h
  have hp := h (Session.start .empty Config.default "\t" Files.empty [])
    [.beginInitializer .array "a", .nestedWith "a" .array "c" [.writeInitializer "a"]]
  have hm : (Session.start .empty Config.default "\t" Files.empty []).moments
      [.beginInitializer .array "a", .nestedWith "a" .array "c" [.writeInitializer "a"]] = [
      ⟨⟨[]⟩, []⟩,
      ⟨⟨[⟨.array, [], 0, false⟩]⟩, []⟩,
      ⟨⟨[⟨.array, [], 0, false⟩]⟩, []⟩,
      ⟨⟨[⟨.array, [], 0, false⟩, ⟨.array, [], 0, false⟩]⟩, [0]⟩,
      ⟨⟨[⟨.array, [], 0, true⟩, ⟨.array, [], 0, false⟩]⟩, [0]⟩,
      ⟨⟨[⟨.array, [.composite 1], 0, true⟩, ⟨.array, [], 0, false⟩]⟩, []⟩] := by decide +kernel
  rw [hm] at hp
  have h4 := List.rel_of_pairwise_cons (List.Pairwise.drop (i := 4) hp) List.mem_cons_self 0 rfl
  cases h4

end CxxWriter
