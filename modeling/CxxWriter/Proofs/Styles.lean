/-
  Ways to build an initializer.

  * `Plan`: what is to be built, a tree of arrays and structures whose leaves are
    fragments, with a style for each composite that is an element: a body fills
    it before it becomes one, or it is filled later by way of its handle;
  * `Progress kept ts ops us`: operations that carry on with tasks, in any order,
    and leave other tasks;
  * `Advance`: such operations change no tree that will be there in the end
    (`Progress.run`), and leave the text alone;
  * `initializers_built_alike`: so all ways to build the same tree write the same
    text as the plain tree.
-/
import CxxWriter.Proofs.Building
import CxxWriter.Proofs.Completed
import CxxWriter.Proofs.Root
import Mathlib.Data.List.Forall2
import Mathlib.Data.Fintype.EquivFin
import Mathlib.Logic.Function.Basic

namespace CxxWriter

open CxxWriter.Action
open Op (performAll apply_performAll_cons)

/-! ## Plans -/

/-- How a composite is filled that is an element of another one. -/
inductive Style where
  /-- By a body, before it becomes an element. -/
  | body
  /-- By way of its handle, after it has become one. -/
  | handle
deriving DecidableEq, Repr

/-- What is to become an element. -/
inductive Plan where
  | leaf (value : Value) (text : String) (isFragment : value.fragment? = some text)
  | nested (style : Style) (brackets : Brackets) (children : List Plan)

namespace Plan

mutual

/-- The tree that is to be built. -/
def tree : Plan → Tree
  | .leaf value _ _ => .leaf value
  | .nested _ brackets children => .node brackets.opening brackets.closing (trees children)

/-- The trees that are to be built. -/
def trees : List Plan → List Tree
  | [] => []
  | p :: ps => p.tree :: trees ps

end

mutual

/-- The tree that is to be built, with texts for its leaves. -/
def built : Plan → Tree
  | .leaf _ text _ => .leaf (.text text)
  | .nested _ brackets children => .node brackets.opening brackets.closing (builts children)

/-- The trees that are to be built, with texts for their leaves. -/
def builts : List Plan → List Tree
  | [] => []
  | p :: ps => p.built :: builts ps

end

mutual

/-- A fragment is written like its text. -/
theorem write_built : ∀ (p : Plan) (b : Buffer), p.built.write b = p.tree.write b
  | .leaf value text h, b => by
    rw [built, tree, Tree.write, Tree.write, h]
    rfl
  | .nested _ brackets children, b => by
    rw [built, tree, Tree.write, Tree.write, writeItems_builts children]

theorem writeItems_builts : ∀ (ps : List Plan) (b : Buffer),
    Tree.writeItems (builts ps) b = Tree.writeItems (trees ps) b
  | [], _ => rfl
  | p :: ps, b => by
    have hempty : (builts ps).isEmpty = (trees ps).isEmpty := by cases ps <;> rfl
    rw [builts, trees, Tree.writeItems, Tree.writeItems, write_built p, hempty]
    simp only [writeItems_builts ps]

end

end Plan

/-! ## Tasks -/

/-- A composite that is to be filled: its handle, and what is still to be added,
    in order. -/
structure Task where
  handle : String
  rest : List Plan

/-- Can operations carry on with tasks, so that other ones are left?  The handles
    in `kept` are in use for something else. -/
inductive Progress : List String → List Task → List Op → List Task → Prop
  | done {kept : List String} {ts : List Task} : Progress kept ts [] ts
  /-- Any task may be the next. -/
  | perm {kept : List String} {ts ts' us : List Task} {ops : List Op} :
      ts.Perm ts' → Progress kept ts' ops us → Progress kept ts ops us
  | leaf {kept : List String} {handle text : String} {value : Value}
      {isFragment : value.fragment? = some text} {rest : List Plan} {ts us : List Task}
      {ops : List Op} :
      Progress kept (⟨handle, rest⟩ :: ts) ops us →
      Progress kept (⟨handle, .leaf value text isFragment :: rest⟩ :: ts) (.element handle value :: ops) us
  /-- The new composite is to be filled at any time from now on. -/
  | handle {kept : List String} {handle child : String} {brackets : Brackets}
      {children rest : List Plan} {ts us : List Task} {ops : List Op} :
      child ∉ handle :: ts.map (·.handle) ++ kept →
      Progress kept (⟨handle, rest⟩ :: ⟨child, children⟩ :: ts) ops us →
      Progress kept (⟨handle, .nested .handle brackets children :: rest⟩ :: ts)
        (.nested handle brackets child :: ops) us
  /-- The body adds to the new composite only, and below it. -/
  | body {kept : List String} {handle child : String} {brackets : Brackets}
      {children rest : List Plan} {ts left us : List Task} {body ops : List Op} :
      child ∉ handle :: ts.map (·.handle) ++ kept →
      Progress (handle :: ts.map (·.handle) ++ kept) [⟨child, children⟩] body (⟨child, []⟩ :: left) →
      Progress kept (⟨handle, rest⟩ :: (left ++ ts)) ops us →
      Progress kept (⟨handle, .nested .body brackets children :: rest⟩ :: ts)
        (.nestedWith handle brackets child body :: ops) us

/-- Do operations fill the composite that a handle names, until nothing is left to
    be added to it and to those in it? -/
def Builds (handle : String) (children : List Plan) (ops : List Op) : Prop :=
  ∃ us, Progress [] [⟨handle, children⟩] ops us ∧ ∀ u ∈ us, u.rest = []

/-! ## Handles -/

namespace Session

variable {s : Session}

/-- Makes a handle name a place. -/
def withHandle (s : Session) (handle : String) (place : Nat) : Session :=
  { s with handles := (handle, place) :: s.handles.filter (·.1 != handle) }

/-- Begins a composite below the one at a place, and makes a handle name it. -/
def beginBelow (s : Session) (place : Nat) (brackets : Brackets) (child : String) : Session :=
  ({ s with forest := s.forest.beginUnder place brackets }).withHandle child s.forest.size

/-- Adds an element to the composite at a place. -/
def attach (s : Session) (place : Nat) (e : Element) : Session :=
  { s with forest := s.forest.attach place e }

theorem placeOf?_withHandle_self (s : Session) (handle : String) (place : Nat) :
    (s.withHandle handle place).placeOf? handle = some place := by
  rw [placeOf?, withHandle, List.find?_cons_of_pos (by simp)]
  rfl

theorem placeOf?_withHandle_ne {handle k : String} (h : k ≠ handle) (place : Nat) :
    (s.withHandle handle place).placeOf? k = s.placeOf? k := by
  have hfind : (s.handles.filter (·.1 != handle)).find? (·.1 == k) = s.handles.find? (·.1 == k) := by
    rw [List.find?_filter]
    congr 1
    funext e
    by_cases he : e.1 = k
    · simp [he, h]
    · simp [he]
  rw [placeOf?, withHandle, List.find?_cons_of_neg (by simpa using Ne.symm h), hfind, placeOf?]

end Session

/-! ## The state of tasks -/

/-- Is a composite at a place the one that a task is about, and does `todo` say
    what is still to be added to it? -/
structure Task.Site (n : Nat) (s : Session) (todo : Nat → List Tree) (t : Task) (p : Nat) : Prop where
  placeOf : s.placeOf? t.handle = some p
  le : n ≤ p
  lt : p < s.forest.size
  isOpen : s.forest.isClosed p = false
  todo : todo p = Plan.builts t.rest

/-- Are tasks about different composites, from the place `n` on? -/
structure Stage (n : Nat) (s : Session) (todo : Nat → List Tree) (ts : List Task) (ps : List Nat) :
    Prop where
  sites : List.Forall₂ (Task.Site n s todo) ts ps
  nodup : ps.Nodup
  begun : s.forest.BegunFrom n
  beyond : ∀ p, s.forest.size ≤ p → todo p = []

/-- What operations that carry on with tasks leave as it is.  The tasks are about
    the composites at `ps` before and at `qs` after. -/
structure Advance (n : Nat) (names : List String) (s : Session) (todo : Nat → List Tree) (ps : List Nat)
    (s' : Session) (todo' : Nat → List Tree) (qs : List Nat) : Prop where
  same : s' = { s with handles := s'.handles, forest := s'.forest }
  names : ∀ k ∈ names, s'.placeOf? k = s.placeOf? k
  kept : s.forest.Enlarged s'.forest
  /-- The tree that will be there in the end is the same. -/
  completed : ∀ p, n ≤ p → p < s.forest.size →
    s'.forest.completed todo' p = s.forest.completed todo p
  todo : ∀ p, p ∉ qs → todo' p = todo p
  subset : ps ⊆ qs
  new : ∀ q ∈ qs, q ∈ ps ∨ s.forest.size ≤ q

section
variable {n : Nat} {names names' : List String} {s s' s'' : Session} {todo todo' todo'' : Nat → List Tree}
  {ts us : List Task} {ps ps' qs rs : List Nat}

theorem Advance.refl (n : Nat) (names : List String) (s : Session) (todo : Nat → List Tree)
    (ps : List Nat) : Advance n names s todo ps s todo ps :=
  ⟨rfl, fun _ _ => rfl, .refl _, fun _ _ _ => rfl, fun _ _ => rfl, List.Subset.refl _,
    fun _ h => .inl h⟩

theorem Advance.trans (h : Advance n names s todo ps s' todo' qs)
    (h' : Advance n names' s' todo' qs s'' todo'' rs) (hn : names ⊆ names') :
    Advance n names s todo ps s'' todo'' rs where
  same := by rw [h'.same, h.same]
  names k hk := (h'.names k (hn hk)).trans (h.names k hk)
  kept := h.kept.trans h'.kept
  completed p hp hlt :=
    (h'.completed p hp (Nat.lt_of_lt_of_le hlt h.kept.size)).trans (h.completed p hp hlt)
  todo p hp := (h'.todo p hp).trans (h.todo p fun hq => hp (h'.subset hq))
  subset := fun _ hp => h'.subset (h.subset hp)
  new r hr := by
    rcases h'.new r hr with hq | hle
    · exact h.new r hq
    · exact .inr (Nat.le_trans h.kept.size hle)

/-- The order of the tasks does not matter. -/
theorem Advance.perm (h : Advance n names s todo ps s' todo' qs) (hp : ps.Perm ps')
    (hn : names' ⊆ names) : Advance n names' s todo ps' s' todo' qs :=
  { h with
    names := fun k hk => h.names k (hn hk)
    subset := fun _ hm => h.subset (hp.mem_iff.2 hm)
    new := fun q hq => (h.new q hq).imp_left hp.mem_iff.1 }

theorem Stage.perm (h : Stage n s todo ts ps) (hp : us.Perm ts) :
    ∃ ps', Stage n s todo us ps' ∧ ps'.Perm ps := by
  obtain ⟨ps', hs, hps⟩ := List.perm_comp_forall₂ hp h.sites
  exact ⟨ps', ⟨hs, hps.nodup_iff.2 h.nodup, h.begun, h.beyond⟩, hps⟩

/-- A task goes on to be about the same composite. -/
theorem Task.Site.later {t : Task} {p : Nat} (h : t.Site n s todo p)
    (hname : s'.placeOf? t.handle = s.placeOf? t.handle) (hkept : s.forest.Enlarged s'.forest)
    (htodo : todo' p = todo p) : t.Site n s' todo' p :=
  ⟨hname.trans h.placeOf, h.le, Nat.lt_of_lt_of_le h.lt hkept.size,
    (hkept.isClosed h.lt).trans h.isOpen, htodo.trans h.todo⟩

/-- Each place is the one of a task. -/
theorem exists_site (h : List.Forall₂ (Task.Site n s todo) ts ps) :
    ∀ p ∈ ps, ∃ t ∈ ts, t.Site n s todo p := by
  induction h with
  | nil => exact fun _ hp => absurd hp List.not_mem_nil
  | @cons t p ts ps hsite _ ih =>
    refine List.forall_mem_cons.2 ⟨⟨t, List.mem_cons_self, hsite⟩, fun q hq => ?_⟩
    obtain ⟨u, hu, hsite⟩ := ih q hq
    exact ⟨u, List.mem_cons_of_mem _ hu, hsite⟩

theorem lt_of_sites (h : List.Forall₂ (Task.Site n s todo) ts ps) : ∀ p ∈ ps, p < s.forest.size := by
  intro p hp
  obtain ⟨t, -, hsite⟩ := exists_site h p hp
  exact hsite.lt

/-- Nothing is to be added where tasks are done. -/
theorem nothing_of_sites (h : List.Forall₂ (Task.Site n s todo) ts ps)
    (hdone : ∀ t ∈ ts, t.rest = []) : ∀ p ∈ ps, todo p = [] := by
  intro p hp
  obtain ⟨t, ht, hsite⟩ := exists_site h p hp
  rw [hsite.todo, hdone t ht]
  rfl

theorem sites_later (h : List.Forall₂ (Task.Site n s todo) ts ps)
    (hnames : ∀ k ∈ ts.map (·.handle), s'.placeOf? k = s.placeOf? k)
    (hkept : s.forest.Enlarged s'.forest) (htodo : ∀ p ∈ ps, todo' p = todo p) :
    List.Forall₂ (Task.Site n s' todo') ts ps := by
  induction h with
  | nil => exact .nil
  | cons hsite _ ih =>
    obtain ⟨hname, hnames⟩ := List.forall_mem_cons.1 hnames
    obtain ⟨hp, htodo⟩ := List.forall_mem_cons.1 htodo
    exact .cons (hsite.later hname hkept hp) (ih hnames htodo)

/-- The next element of a task becomes one. -/
theorem Stage.attach {handle : String} {plan : Plan} {rest : List Plan} {p : Nat} {e : Element}
    (h : Stage n s todo (⟨handle, plan :: rest⟩ :: ts) (p :: ps))
    (he : Forest.branch s.forest.size p (s.forest.completed todo) e = some plan.built)
    (names : List String) :
    let todo' := Function.update todo p (Plan.builts rest)
    Stage n (s.attach p e) todo' (⟨handle, rest⟩ :: ts) (p :: ps) ∧
    Advance n names s todo (p :: ps) (s.attach p e) todo' (p :: ps) := by
  intro todo'
  obtain ⟨hsite, hsites⟩ := List.forall₂_cons.1 h.sites
  obtain ⟨hnotin, hnodup⟩ := List.nodup_cons.1 h.nodup
  have hkept := Forest.Enlarged.attach s.forest p e
  have hchild : ∀ child, e = .composite child → child < s.forest.size := by
    rintro child rfl
    rw [Forest.branch] at he
    split at he
    · next hlt => exact hlt.2
    · cases he
  have hself : todo' p = Plan.builts rest := Function.update_self _ _ _
  have hsame : ∀ q, q ≠ p → todo' q = todo q := fun q hq => Function.update_of_ne hq _ _
  have hnext : todo p = plan.built :: todo' p := by
    rw [hself, hsite.todo]
    rfl
  have hsite' : Task.Site n (s.attach p e) todo' ⟨handle, rest⟩ p :=
    ⟨hsite.placeOf, hsite.le, Nat.lt_of_lt_of_le hsite.lt hkept.size,
      (hkept.isClosed hsite.lt).trans hsite.isOpen, hself⟩
  have hsites' : List.Forall₂ (Task.Site n (s.attach p e) todo') ts ps :=
    sites_later hsites (fun _ _ => rfl) hkept fun q hq => hsame q fun hqp => hnotin (hqp ▸ hq)
  have hbeyond : ∀ q, (s.attach p e).forest.size ≤ q → todo' q = [] := by
    intro q hq
    rw [Session.attach, Forest.size_attach] at hq
    have hlt := hsite.lt
    rw [hsame q (by omega), h.beyond q hq]
  refine ⟨⟨.cons hsite' hsites', h.nodup, h.begun.attach hchild, hbeyond⟩, ?_⟩
  exact {
    same := rfl
    names := fun _ _ => rfl
    kept := hkept
    completed := fun q _ _ => Forest.completed_attach he hnext hsame q
    todo := fun q hq => hsame q fun hqp => hq (hqp ▸ List.mem_cons_self)
    subset := List.Subset.refl _
    new := fun _ hq => .inl hq }

/-- A composite is begun below the one that a task is about, and is a task. -/
theorem Stage.begin {t : Task} {p : Nat} (h : Stage n s todo (t :: ts) (p :: ps)) {child : String}
    (hchild : child ∉ (t :: ts).map (·.handle) ++ names) (brackets : Brackets) (children : List Plan) :
    let s' := s.beginBelow p brackets child
    let todo' := Function.update todo s.forest.size (Plan.builts children)
    Stage n s' todo' (t :: ⟨child, children⟩ :: ts) (p :: s.forest.size :: ps) ∧
    Advance n ((t :: ts).map (·.handle) ++ names) s todo (p :: ps) s' todo' (p :: s.forest.size :: ps) ∧
    s'.forest.completed todo' s.forest.size =
      .node brackets.opening brackets.closing (Plan.builts children) := by
  intro s' todo'
  obtain ⟨hsite, hsites⟩ := List.forall₂_cons.1 h.sites
  obtain ⟨hnotin, hnodup⟩ := List.nodup_cons.1 h.nodup
  obtain ⟨c, hc⟩ : ∃ c, s.forest.get? p = some c := ⟨_, List.getElem?_eq_getElem hsite.lt⟩
  have hroot : s'.forest = ⟨s.forest.composites ++ [⟨brackets, [], c.root, false⟩]⟩ := by
    show s.forest.beginUnder p brackets = _
    rw [Forest.beginUnder, hc]
    rfl
  have hkept : s.forest.Enlarged s'.forest := hroot ▸ .add s.forest rfl
  have hsize : s'.forest.size = s.forest.size + 1 := Forest.size_beginUnder _ _ _
  have hnew : s'.forest.get? s.forest.size = some ⟨brackets, [], c.root, false⟩ := by
    rw [hroot]
    exact Forest.get?_add_self _ _
  have hname (k : String) (hk : k ∈ (t :: ts).map (·.handle) ++ names) :
      s'.placeOf? k = s.placeOf? k :=
    Session.placeOf?_withHandle_ne (by rintro rfl; exact hchild hk) _
  have hself : todo' s.forest.size = Plan.builts children := Function.update_self _ _ _
  have hsame {q : Nat} (hq : q ≠ s.forest.size) : todo' q = todo q := Function.update_of_ne hq _ _
  have hlt := lt_of_sites h.sites
  obtain ⟨hsite', hsites'⟩ := List.forall₂_cons.1 <|
    sites_later h.sites (fun k hk => hname k (List.mem_append_left _ hk)) hkept
      fun q hq => hsame (Nat.ne_of_lt (hlt q hq))
  have hopen : s'.forest.isClosed s.forest.size = false := by
    have hp := hsite'.isOpen
    rw [Forest.isClosed_eq, hkept.root p hsite.lt, Forest.rootOf?, hc] at hp
    rw [Forest.isClosed_eq, Forest.rootOf?, hnew]
    exact hp
  have hbegun : Task.Site n s' todo' ⟨child, children⟩ s.forest.size :=
    ⟨Session.placeOf?_withHandle_self _ _ _, Nat.le_of_lt (Nat.lt_of_le_of_lt hsite.le hsite.lt),
      by rw [hsize]; exact Nat.lt_succ_self _, hopen, hself⟩
  have hplaces : (p :: s.forest.size :: ps).Nodup := by
    have hfresh : s.forest.size ∉ ps := fun hm =>
      Nat.lt_irrefl _ (hlt _ (List.mem_cons_of_mem _ hm))
    refine List.nodup_cons.2 ⟨?_, List.nodup_cons.2 ⟨hfresh, hnodup⟩⟩
    rw [List.mem_cons, not_or]
    exact ⟨Nat.ne_of_lt hsite.lt, hnotin⟩
  have hstage : Stage n s' todo' (t :: ⟨child, children⟩ :: ts) (p :: s.forest.size :: ps) := {
    sites := .cons hsite' (.cons hbegun hsites')
    nodup := hplaces
    begun := by rw [hroot]; exact h.begun.add rfl
    beyond := by
      intro q hq
      rw [hsize] at hq
      rw [hsame (by omega), h.beyond q (by omega)] }
  -- a composite that nothing refers to yet changes no tree but its own
  have hcompleted : ∀ q, n ≤ q → q < s.forest.size →
      s'.forest.completed todo' q = s.forest.completed todo q := by
    intro q hq hqlt
    rw [hroot, Forest.completed_add h.begun _ hq hqlt]
    exact Forest.completed_congr (fun r hr => hsame (Nat.ne_of_lt hr)) q
  have htree : s'.forest.completed todo' s.forest.size =
      .node brackets.opening brackets.closing (Plan.builts children) := by
    rw [Forest.completed_eq hnew]
    show Tree.node _ _ ([] ++ todo' s.forest.size) = _
    rw [List.nil_append, hself]
  refine ⟨hstage, ?_, htree⟩
  exact {
    same := rfl
    names := hname
    kept := hkept
    completed := hcompleted
    todo := fun q hq => hsame fun hqe => hq (by simp [hqe])
    subset := List.cons_subset_cons _ (List.subset_cons_self _ _)
    new := by
      intro q hq
      rcases List.mem_cons.1 hq with rfl | hq
      · exact .inl List.mem_cons_self
      · rcases List.mem_cons.1 hq with rfl | hq
        · exact .inr (Nat.le_refl _)
        · exact .inl (List.mem_cons_of_mem _ hq) }

/-- A body that has filled a new composite leaves the tasks it was begun for, and
    those that the body leaves. -/
theorem Stage.resume {t : Task} {left : List Task} {p m : Nat} {child : String} {children : List Plan}
    (h : Stage n s todo (t :: ts) (p :: ps)) (hm : m = s.forest.size)
    (h' : Stage n s' todo' (t :: ⟨child, children⟩ :: ts) (p :: m :: ps))
    (ha' : Advance n ((t :: ts).map (·.handle) ++ names) s todo (p :: ps) s' todo' (p :: m :: ps))
    (h'' : Stage n s'' todo'' (⟨child, []⟩ :: left) qs)
    (ha'' : Advance n (child :: ((t :: ts).map (·.handle) ++ names)) s' todo' [m] s'' todo'' qs) :
    ∃ rs, Stage n s'' todo'' (t :: (left ++ ts)) (p :: rs) ∧
      Advance n ((t :: ts).map (·.handle) ++ names) s todo (p :: ps) s'' todo'' (p :: rs) ∧
      Forest.branch s''.forest.size p (s''.forest.completed todo'') (.composite m) =
        some (s'.forest.completed todo' m) := by
  obtain ⟨hsite, hrest⟩ := List.forall₂_cons.1 h'.sites
  obtain ⟨hchild, hsites⟩ := List.forall₂_cons.1 hrest
  -- the handle still names the composite that was begun
  obtain ⟨q, ls, hdone, hleft, rfl⟩ := List.forall₂_cons_left_iff.1 h''.sites
  obtain rfl : m = q := by
    have hname := (ha''.names child List.mem_cons_self).trans hchild.placeOf
    exact Option.some.inj (hname.symm.trans hdone.placeOf)
  obtain ⟨hmls, hls⟩ := List.nodup_cons.1 h''.nodup
  have hlt := lt_of_sites h.sites
  have hnew : ∀ l ∈ ls, m < l := by
    intro l hl
    rcases ha''.new l (List.mem_cons_of_mem _ hl) with hl' | hle
    · exact absurd (List.mem_singleton.1 hl' ▸ hl) hmls
    · exact Nat.lt_of_lt_of_le hchild.lt hle
  have hout {q : Nat} (hq : q ∈ p :: ps) : q ∉ m :: ls := by
    have hqm : q < m := hm ▸ hlt q hq
    rw [List.mem_cons, not_or]
    exact ⟨Nat.ne_of_lt hqm, fun hl => Nat.lt_asymm hqm (hnew q hl)⟩
  obtain ⟨hsite'', hsites''⟩ := List.forall₂_cons.1 <|
    sites_later (List.Forall₂.cons hsite hsites)
      (fun k hk => ha''.names k (List.mem_cons_of_mem _ (List.mem_append_left _ hk))) ha''.kept
      fun q hq => ha''.todo q (hout hq)
  have hplaces : (p :: (ls ++ ps)).Nodup := by
    obtain ⟨hnotin, hnodup⟩ := List.nodup_cons.1 h.nodup
    have hapart : ∀ l ∈ ls, l ∉ ps := fun l hl hp =>
      hout (List.mem_cons_of_mem _ hp) (List.mem_cons_of_mem _ hl)
    refine List.nodup_cons.2 ⟨?_, List.nodup_append'.2 ⟨hls, hnodup, hapart⟩⟩
    rw [List.mem_append, not_or]
    exact ⟨fun hl => hout List.mem_cons_self (List.mem_cons_of_mem _ hl), hnotin⟩
  -- nothing is left to be added to the composite that the body has filled
  have htodo : ∀ q, q ∉ p :: (ls ++ ps) → todo'' q = todo q := by
    intro q hq
    rw [List.mem_cons, List.mem_append, not_or, not_or] at hq
    obtain ⟨hqp, hql, hqps⟩ := hq
    by_cases hqm : q = m
    · rw [hqm, hdone.todo, h.beyond m (Nat.le_of_eq hm.symm)]
      rfl
    · have hin : q ∉ p :: m :: ps := by simp [hqp, hqm, hqps]
      rw [ha''.todo q (by simp [hqm, hql]), ha'.todo q hin]
  have hbranch : Forest.branch s''.forest.size p (s''.forest.completed todo'') (.composite m) =
      some (s'.forest.completed todo' m) := by
    rw [Forest.branch_composite _ (hm ▸ hlt p List.mem_cons_self) hdone.lt,
      ha''.completed m hchild.le hchild.lt]
  refine ⟨ls ++ ps, ⟨.cons hsite'' (List.rel_append hleft hsites''), hplaces, h''.begun,
    h''.beyond⟩, ?_, hbranch⟩
  exact {
    same := by rw [ha''.same, ha'.same]
    names := fun k hk => (ha''.names k (List.mem_cons_of_mem _ hk)).trans (ha'.names k hk)
    kept := ha'.kept.trans ha''.kept
    completed := fun q hq hqlt =>
      (ha''.completed q hq (Nat.lt_of_lt_of_le hqlt ha'.kept.size)).trans (ha'.completed q hq hqlt)
    todo := htodo
    subset := List.cons_subset_cons _ (List.subset_append_right _ _)
    new := by
      intro q hq
      rcases List.mem_cons.1 hq with rfl | hq
      · exact .inl List.mem_cons_self
      · rcases List.mem_append.1 hq with hq | hq
        · exact .inr (Nat.le_of_lt (hm ▸ hnew q hq))
        · exact .inl (List.mem_cons_of_mem _ hq) }

end

/-! ## Operations -/

section
variable {s s' : Session} {handle child : String} {place : Nat} {brackets : Brackets}

theorem perform_element {value : Value} {text : String} (hplace : s.placeOf? handle = some place)
    (hopen : s.forest.isClosed place = false) (hvalue : value.fragment? = some text) :
    (Op.element handle value).perform.apply s = (.ok .nothing, s.attach place (.text text)) := by
  have hadd := apply_addElement place value s
  rw [hopen, hvalue, if_neg Bool.false_ne_true] at hadd
  rw [Op.perform, apply_bind_ok (apply_placeOf_some hplace), Op.silent, apply_bind_ok hadd]
  rfl

theorem apply_beginNested_open (hopen : s.forest.isClosed place = false) :
    (beginNested place brackets).apply s =
      (.ok s.forest.size, { s with forest := s.forest.beginUnder place brackets }) := by
  rw [apply_beginNested, hopen]
  rfl

theorem perform_nested (hplace : s.placeOf? handle = some place)
    (hopen : s.forest.isClosed place = false) :
    (Op.nested handle brackets child).perform.apply s =
      (.ok .nothing, (s.beginBelow place brackets child).attach place (.composite s.forest.size)) := by
  rw [Op.perform, apply_bind_ok (apply_placeOf_some hplace),
    apply_bind_ok (apply_beginNested_open hopen), apply_bind_ok (apply_attachNested _ _ _)]
  rfl

theorem perform_nestedWith {body : List Op} (hplace : s.placeOf? handle = some place)
    (hopen : s.forest.isClosed place = false)
    (hbody : (performAll body).apply (s.beginBelow place brackets child) = (.ok (), s')) :
    (Op.nestedWith handle brackets child body).perform.apply s =
      (.ok .nothing, s'.attach place (.composite s.forest.size)) := by
  rw [Op.perform, apply_bind_ok (apply_placeOf_some hplace),
    apply_bind_ok (apply_beginNested_open hopen), apply_bind_ok (apply_setHandle _ _ _)]
  show (performAll body >>= _).apply (s.beginBelow place brackets child) = _
  rw [apply_bind_ok hbody]
  rfl

theorem perform_beginInitializer (brackets : Brackets) (handle : String) (s : Session) :
    (Op.beginInitializer brackets handle).perform.apply s =
      (.ok .nothing, ({ s with forest := s.forest.begin brackets }).withHandle handle s.forest.size) := by
  rw [Op.perform, apply_bind_ok (apply_beginInitializer _ _)]
  rfl

theorem perform_writeInitializer (hplace : s.placeOf? handle = some place) :
    (Op.writeInitializer handle).perform.apply s = (Op.silent (writeInitializer place)).apply s := by
  rw [Op.perform, apply_bind_ok (apply_placeOf_some hplace)]

theorem perform_writeTree (t : Tree) : (Op.writeTree t).perform = Op.silent (writeTree t) := by
  rw [Op.perform]

end

/-- Operations that carry on with tasks succeed, and change no tree that will be
    there in the end. -/
theorem Progress.run {kept : List String} {ts us : List Task} {ops : List Op}
    (h : Progress kept ts ops us) {n : Nat} {s : Session} {todo : Nat → List Tree} {ps : List Nat}
    (hs : Stage n s todo ts ps) :
    ∃ s' todo' qs, (performAll ops).apply s = (.ok (), s') ∧ Stage n s' todo' us qs ∧
      Advance n (ts.map (·.handle) ++ kept) s todo ps s' todo' qs := by
  induction h generalizing n s todo ps with
  | done => exact ⟨s, todo, ps, rfl, hs, .refl _ _ _ _ _⟩
  | @perm kept ts ts' us ops hperm _ ih =>
    obtain ⟨ps', hs', hps⟩ := hs.perm hperm.symm
    obtain ⟨s', todo', qs, hrun, hstage, hadvance⟩ := ih hs'
    refine ⟨s', todo', qs, hrun, hstage, hadvance.perm hps ?_⟩
    exact ((hperm.map _).append_right kept).subset
  | @leaf kept handle text value isFragment rest ts us ops _ ih =>
    obtain ⟨p, ps, hsite, hsites, rfl⟩ := List.forall₂_cons_left_iff.1 hs.sites
    obtain ⟨hs', ha'⟩ := hs.attach (e := .text text) rfl (handle :: ts.map (·.handle) ++ kept)
    obtain ⟨s'', todo'', qs, hrun, hs'', ha''⟩ := ih hs'
    refine ⟨s'', todo'', qs, ?_, hs'', ha'.trans ha'' (List.Subset.refl _)⟩
    rw [apply_performAll_cons (perform_element hsite.placeOf hsite.isOpen isFragment), hrun]
  | @handle kept handle child brackets children rest ts us ops hchild _ ih =>
    obtain ⟨p, ps, hsite, hsites, rfl⟩ := List.forall₂_cons_left_iff.1 hs.sites
    obtain ⟨hs', ha', htree⟩ := hs.begin hchild brackets children
    have hlt := lt_of_sites hs'.sites s.forest.size (by simp)
    have hbranch := Forest.branch_composite ((s.beginBelow p brackets child).forest.completed
      (Function.update todo s.forest.size (Plan.builts children))) hsite.lt hlt
    obtain ⟨hs'', ha''⟩ := hs'.attach (hbranch.trans (congrArg some htree))
      (handle :: ts.map (·.handle) ++ kept)
    obtain ⟨t, todo', qs, hrun, ht, ha⟩ := ih hs''
    refine ⟨t, todo', qs, ?_, ht, (ha'.trans ha'' (List.Subset.refl _)).trans ha ?_⟩
    · rw [apply_performAll_cons (perform_nested hsite.placeOf hsite.isOpen), hrun]
    · exact List.cons_subset_cons _ (List.subset_cons_self _ _)
  | @body kept handle child brackets children rest ts left us body ops hchild _ _ ihbody ih =>
    obtain ⟨p, ps, hsite, hsites, rfl⟩ := List.forall₂_cons_left_iff.1 hs.sites
    obtain ⟨hs', ha', htree⟩ := hs.begin hchild brackets children
    -- the body has the new composite as its only task, and what is around it stays
    obtain ⟨-, hrest⟩ := List.forall₂_cons.1 hs'.sites
    obtain ⟨hnew, -⟩ := List.forall₂_cons.1 hrest
    obtain ⟨t, todo', qs, hbody, ht, ha⟩ := ihbody
      ⟨.cons hnew .nil, List.nodup_singleton _, hs'.begun, hs'.beyond⟩
    obtain ⟨rs, hs'', ha'', hbranch⟩ := hs.resume rfl hs' ha' ht ha
    obtain ⟨hs₃, ha₃⟩ := hs''.attach (hbranch.trans (congrArg some htree))
      (handle :: ts.map (·.handle) ++ kept)
    obtain ⟨u, todo'', qs', hrun, hu, ha₄⟩ := ih hs₃
    refine ⟨u, todo'', qs', ?_, hu, (ha''.trans ha₃ (List.Subset.refl _)).trans ha₄ ?_⟩
    · rw [apply_performAll_cons (perform_nestedWith hsite.placeOf hsite.isOpen hbody), hrun]
    · have hsub : ts.map (·.handle) ++ kept ⊆ (left ++ ts).map (·.handle) ++ kept := by
        rw [List.map_append, List.append_assoc]
        exact List.subset_append_right _ _
      exact List.cons_subset_cons _ hsub

/-! ## Roots -/

/-- What operations have built that fill a new root. -/
theorem Builds.run {handle : String} {children : List Plan} {ops : List Op}
    (h : Builds handle children ops) (brackets : Brackets) (s : Session) :
    ∃ s', (performAll ops).apply
        (({ s with forest := s.forest.begin brackets }).withHandle handle s.forest.size) = (.ok (), s') ∧
      s' = { s with handles := s'.handles, forest := s'.forest } ∧
      s'.placeOf? handle = some s.forest.size ∧
      s'.forest.isRoot s.forest.size = true ∧ s'.forest.isClosed s.forest.size = false ∧
      s'.forest.tree s.forest.size =
        .node brackets.opening brackets.closing (Plan.builts children) := by
  obtain ⟨us, hops, hdone⟩ := h
  let n := s.forest.size
  let t := ({ s with forest := s.forest.begin brackets }).withHandle handle n
  let todo := Function.update (fun _ => []) n (Plan.builts children)
  have hget : t.forest.get? n = some ⟨brackets, [], n, false⟩ := Forest.get?_add_self _ _
  have hsize : t.forest.size = n + 1 := Forest.size_begin _ _
  have hname : t.placeOf? handle = some n := Session.placeOf?_withHandle_self _ _ _
  have hroot : t.forest.isRoot n = true := by
    rw [Forest.isRoot, hget, Option.any_some, beq_self_eq_true]
  have hopen : t.forest.isClosed n = false := by
    rw [Forest.isClosed, hget, Option.any_some, hget]
    rfl
  have hself : todo n = Plan.builts children := Function.update_self _ _ _
  have hsame : ∀ p, p ≠ n → todo p = [] := fun p hp => Function.update_of_ne hp _ _
  have hstage : Stage n t todo [⟨handle, children⟩] [n] := by
    refine ⟨.cons ⟨hname, Nat.le_refl n, by omega, hopen, hself⟩ .nil, List.nodup_singleton n, ?_, ?_⟩
    · exact Forest.BegunFrom.add (fun p c hp hc => absurd (List.getElem?_eq_some_iff.1 hc).1
        (Nat.not_lt.2 hp)) rfl
    · intro p hp
      exact hsame p (by omega)
  obtain ⟨s', todo', qs, hrun, hs', ha⟩ := hops.run hstage
  -- nothing is to be added any more, so the tree that was to be there is there
  have hnothing : ∀ p, todo' p = [] := by
    intro p
    by_cases hp : p ∈ qs
    · exact nothing_of_sites hs'.sites hdone p hp
    · rw [ha.todo p hp]
      exact hsame p fun hpn => hp (ha.subset (hpn ▸ List.mem_singleton_self n))
  have hlt : n < t.forest.size := by omega
  refine ⟨s', hrun, ha.same, (ha.names handle (by simp)).trans hname, (ha.kept.isRoot hlt).trans hroot,
    (ha.kept.isClosed hlt).trans hopen, ?_⟩
  rw [← Forest.completed_nil _ hnothing, ha.completed n (Nat.le_refl n) hlt, Forest.completed_eq hget,
    hself]
  rfl

/-! ## Programs for each choice of styles -/

theorem Progress.trans {kept : List String} {ts us vs : List Task} {ops ops' : List Op}
    (h : Progress kept ts ops us) (h' : Progress kept us ops' vs) :
    Progress kept ts (ops ++ ops') vs := by
  induction h with
  | done => exact h'
  | perm hperm _ ih => exact .perm hperm (ih h')
  | leaf _ ih => exact .leaf (ih h')
  | handle hchild _ ih => exact .handle hchild (ih h')
  | body hchild hbody _ _ ih => exact .body hchild hbody (ih h')

theorem exists_fresh (names : List String) : ∃ name, name ∉ names := by
  have : Infinite String := Infinite.of_injective String.ofList fun _ _ h => String.ofList_injective h
  exact Infinite.exists_notMem_finset names.toFinset |>.imp fun _ h hm => h (List.mem_toFinset.2 hm)

/-- A composite can be filled, whatever is to be filled besides and whatever
    styles there are. -/
theorem exists_progress : ∀ (children : List Plan) (kept : List String) (handle : String) (ts : List Task),
    ∃ ops new, Progress kept (⟨handle, children⟩ :: ts) ops (⟨handle, []⟩ :: (new ++ ts)) ∧
      ∀ u ∈ new, u.rest = []
  | [], _, _, _ => ⟨[], [], .done, fun _ h => absurd h List.not_mem_nil⟩
  | .leaf _ _ _ :: rest, kept, handle, ts => by
    obtain ⟨ops, new, h, hnew⟩ := exists_progress rest kept handle ts
    exact ⟨_, new, .leaf h, hnew⟩
  | .nested .handle brackets children :: rest, kept, handle, ts => by
    obtain ⟨child, hchild⟩ := exists_fresh (handle :: ts.map (·.handle) ++ kept)
    -- what comes after the new composite is added first, and then it is filled
    obtain ⟨ops, new, h, hnew⟩ := exists_progress rest kept handle (⟨child, children⟩ :: ts)
    obtain ⟨ops', new', h', hnew'⟩ := exists_progress children kept child (⟨handle, []⟩ :: (new ++ ts))
    have hchildFirst : (⟨handle, []⟩ :: (new ++ ⟨child, children⟩ :: ts)).Perm
        (⟨child, children⟩ :: ⟨handle, []⟩ :: (new ++ ts)) :=
      (List.perm_middle : (⟨handle, []⟩ :: new ++ ⟨child, children⟩ :: ts).Perm _)
    have hhandleFirst : (⟨child, []⟩ :: (new' ++ ⟨handle, []⟩ :: (new ++ ts))).Perm
        (⟨handle, []⟩ :: (⟨child, []⟩ :: (new' ++ new) ++ ts)) := by
      rw [List.cons_append, List.append_assoc]
      exact (List.perm_middle : (⟨child, []⟩ :: new' ++ ⟨handle, []⟩ :: (new ++ ts)).Perm _)
    refine ⟨_, ⟨child, []⟩ :: (new' ++ new),
      .handle hchild (h.trans (.perm hchildFirst (h'.trans (.perm hhandleFirst .done)))), ?_⟩
    exact List.forall_mem_cons.2 ⟨rfl, List.forall_mem_append.2 ⟨hnew', hnew⟩⟩
  | .nested .body brackets children :: rest, kept, handle, ts => by
    obtain ⟨child, hchild⟩ := exists_fresh (handle :: ts.map (·.handle) ++ kept)
    obtain ⟨body, left, h, hleft⟩ := exists_progress children (handle :: ts.map (·.handle) ++ kept) child []
    obtain ⟨ops, new, h', hnew⟩ := exists_progress rest kept handle (left ++ ts)
    rw [List.append_nil] at h
    rw [← List.append_assoc] at h'
    exact ⟨_, new ++ left, .body hchild h h', List.forall_mem_append.2 ⟨hnew, hleft⟩⟩

/-- There are operations for each choice of styles. -/
theorem exists_builds (handle : String) (children : List Plan) : ∃ ops, Builds handle children ops := by
  obtain ⟨ops, new, h, hnew⟩ := exists_progress children [] handle []
  refine ⟨ops, _, h, List.forall_mem_cons.2 ⟨rfl, ?_⟩⟩
  rw [List.append_nil]
  exact hnew

/-! ## Writing -/

/-- Does an action write a tree, wherever the text of the session stands? -/
def WritesTree (t : Tree) (s : Session) (a : Action Unit) : Prop :=
  ∀ b, (a.apply { s with buffer := b }).1 = .ok () ∧
    (a.apply { s with buffer := b }).2.buffer = (t.write b).buffer

section
variable {s s' : Session} {t : Tree} {a a' : Action Unit} {children : List Plan} {brackets : Brackets}

theorem Plan.write_node (brackets : Brackets) (children : List Plan) (b : Buffer) :
    (Tree.node brackets.opening brackets.closing (Plan.builts children)).write b =
      (Tree.node brackets.opening brackets.closing (Plan.trees children)).write b :=
  Plan.write_built (.nested .body brackets children) b

theorem WritesTree.silent (ha : WritesTree t s a) (b : Buffer) :
    (Op.silent a).apply { s with buffer := b } = (.ok .nothing, (a.apply { s with buffer := b }).2) := by
  rw [Op.silent, apply_bind_ok (Prod.ext (ha b).1 rfl)]
  rfl

theorem WritesTree.perform {op : Op} {b : Buffer} (ha : WritesTree t s a)
    (hop : op.perform.apply { s with buffer := b } = (Op.silent a).apply { s with buffer := b }) :
    (op.perform.apply { s with buffer := b }).1 = .ok .nothing ∧
      (op.perform.apply { s with buffer := b }).2.buffer = (t.write b).buffer := by
  rw [hop, ha.silent]
  exact ⟨rfl, (ha b).2⟩

theorem WritesTree.performAll {op : Op} (ha : WritesTree t s a) (hop : op.perform = Op.silent a) :
    WritesTree t s (performAll [op]) := by
  intro b
  rw [apply_performAll_cons ((congrArg (apply · _) hop).trans (ha.silent b))]
  exact ⟨rfl, (ha b).2⟩

/-- An open root writes the tree that it is. -/
theorem writesTree_writeInitializer {place : Nat} (hroot : s.forest.isRoot place = true)
    (hopen : s.forest.isClosed place = false)
    (htree : s.forest.tree place = .node brackets.opening brackets.closing (Plan.builts children)) :
    WritesTree (.node brackets.opening brackets.closing (Plan.trees children)) s
      (writeInitializer place) := by
  intro b
  have happly := apply_writeInitializer place { s with buffer := b }
  rw [if_pos hroot, hopen, if_neg Bool.false_ne_true] at happly
  rw [happly, Forest.tree_close, htree, Plan.write_node]
  exact ⟨rfl, rfl⟩

/-- So does the plain tree. -/
theorem writesTree_writeTree (hleaves : t.refusal? = none) (s : Session) :
    WritesTree t s (writeTree t) := by
  intro b
  have hw : (t.write b).rejected = none := (t.write_rejected b).trans hleaves
  rw [apply_writeTree_written (s := { s with buffer := b }) hw]
  exact ⟨rfl, rfl⟩

/-- And so does a root that is built on the spot. -/
theorem writesTree_initializer {handle : String} {ops : List Op} (h : Builds handle children ops)
    (brackets : Brackets) (s : Session) :
    WritesTree (.node brackets.opening brackets.closing (Plan.trees children)) s
      (performAll [.initializer brackets handle ops]) := by
  intro b
  obtain ⟨u, hrun, hsame, -, hroot, hopen, htree⟩ := h.run brackets { s with buffer := b }
  have hu := writesTree_writeInitializer hroot hopen htree
  have hperform : (Op.initializer brackets handle ops).perform.apply { s with buffer := b } =
      (.ok .nothing, ((writeInitializer s.forest.size).apply u).2) := by
    rw [Op.perform, apply_bind_ok (apply_beginInitializer _ _), apply_bind_ok (apply_setHandle _ _ _)]
    show (performAll ops >>= _).apply (({ s with
      buffer := b, forest := s.forest.begin brackets } : Session).withHandle handle s.forest.size) = _
    rw [apply_bind_ok hrun]
    exact hu.silent u.buffer
  rw [apply_performAll_cons hperform]
  refine ⟨rfl, (hu u.buffer).2.trans ?_⟩
  rw [hsame]

/-- How a declaration ends whose value is a tree, where the text stands. -/
def Declares (t : Tree) (declaration : Value) (b : Buffer) (r : Except Error Reply × Session) : Prop :=
  match declaration.fragment? with
  | none => r.1 = .error (.unfit declaration) ∧ r.2.buffer = b
  | some x => r.1 = .ok .nothing ∧
      r.2.buffer = (t.write ((b.emitOpen (x ++ " =")).emitRaw " ")).buffer.closeValue

theorem Declares.alike {declaration : Value} {b : Buffer} {r r' : Except Error Reply × Session}
    (h : Declares t declaration b r) (h' : Declares t declaration b r') :
    r.1 = r'.1 ∧ r.2.buffer = r'.2.buffer := by
  unfold Declares at h h'
  cases hv : declaration.fragment? with
  | none =>
    rw [hv] at h h'
    exact ⟨h.1.trans h'.1.symm, h.2.trans h'.2.symm⟩
  | some x =>
    rw [hv] at h h'
    exact ⟨h.1.trans h'.1.symm, h.2.trans h'.2.symm⟩

/-- All that counts about the value of a declaration is the tree that it writes. -/
theorem WritesTree.declares (ha : WritesTree t s a) (declaration : Value) (b : Buffer) :
    Declares t declaration b ((Op.silent (declareWith declaration a)).apply { s with buffer := b }) := by
  rw [Declares, Op.silent, declareWith]
  cases hv : declaration.fragment? with
  | none =>
    have hreport := apply_report_tells (Reporting.tells_fragment_none hv) { s with buffer := b }
    rw [apply_bind_error (apply_bind_error hreport _)]
    exact ⟨rfl, rfl⟩
  | some x =>
    let start := (b.emitOpen (x ++ " =")).emitRaw " "
    obtain ⟨ho, hb⟩ := ha start
    have hdeclare := apply_declareWith (s := { s with buffer := b }) hv (Prod.ext ho rfl)
    rw [declareWith] at hdeclare
    rw [apply_bind_ok hdeclare, hb]
    exact ⟨rfl, rfl⟩

end

/-! ## The result -/

/-- **All ways to build an initializer agree.**  For each tree of arrays and
    structures and each choice of styles there are operations that build it, and
    whatever these are, the root is that tree, with texts for its leaves.
    Wherever the text stands, it writes what the plain tree writes, and so does a
    declaration whose value is the root or an initializer that is built on the
    spot, in any style. -/
theorem initializers_built_alike (brackets : Brackets) (handle : String) (children : List Plan) :
    (∃ ops, Builds handle children ops) ∧
    ∀ ops, Builds handle children ops → ∀ s : Session,
      let tree := Tree.node brackets.opening brackets.closing (Plan.trees children)
      ∃ t, (performAll (.beginInitializer brackets handle :: ops)).apply s = (.ok (), t) ∧
        t = { s with handles := t.handles, forest := t.forest } ∧
        ((Op.treeOf handle).perform.apply t).1 =
          .ok (.tree (.node brackets.opening brackets.closing (Plan.builts children))) ∧
        ∀ b : Buffer,
        (let written := (Op.writeInitializer handle).perform.apply { t with buffer := b }
        let plain := (Op.writeTree tree).perform.apply { s with buffer := b }
        written.1 = .ok .nothing ∧ plain.1 = .ok .nothing ∧ written.2.buffer = plain.2.buffer) ∧
        ∀ declaration : Value,
          let plain := (Op.declareWith declaration [.writeTree tree]).perform.apply { s with buffer := b }
          let given := (Op.declareInitializer declaration handle).perform.apply { t with buffer := b }
          (given.1 = plain.1 ∧ given.2.buffer = plain.2.buffer) ∧
          ∀ handle' children' ops', Plan.trees children' = Plan.trees children →
            Builds handle' children' ops' →
            let called := (Op.declareWith declaration
              [.initializer brackets handle' ops']).perform.apply { s with buffer := b }
            called.1 = plain.1 ∧ called.2.buffer = plain.2.buffer := by
  refine ⟨exists_builds handle children, fun ops hops s => ?_⟩
  intro tree
  obtain ⟨t, hrun, hsame, hname, hroot, hopen, htree⟩ := hops.run brackets s
  have hleaves : tree.refusal? = none := by
    rw [← Tree.write_rejected tree s.buffer, ← Plan.write_node, Tree.write_rejected, ← htree]
    exact Forest.refusal?_tree _ _
  have hgiven := writesTree_writeInitializer hroot hopen htree
  have hplain := writesTree_writeTree hleaves s
  have hplace (b : Buffer) : ({ t with buffer := b } : Session).placeOf? handle = some s.forest.size := hname
  refine ⟨t, ?_, hsame, ?_, fun b => ⟨?_, fun declaration => ?_⟩⟩
  · rw [apply_performAll_cons (perform_beginInitializer _ _ _), hrun]
  · rw [Op.perform, apply_bind_ok (apply_placeOf_some hname), apply_bind_ok (apply_get t)]
    exact congrArg (fun x => Except.ok (Reply.tree x)) htree
  · obtain ⟨ho, hb⟩ := hgiven.perform (perform_writeInitializer (hplace b))
    obtain ⟨ho', hb'⟩ := hplain.perform (congrArg (apply · { s with buffer := b }) (perform_writeTree tree))
    exact ⟨ho, ho', hb.trans hb'.symm⟩
  · have hdeclared : Declares tree declaration b
        ((Op.declareWith declaration [.writeTree tree]).perform.apply { s with buffer := b }) := by
      rw [Op.perform]
      exact (hplain.performAll (perform_writeTree tree)).declares declaration b
    refine ⟨Declares.alike ?_ hdeclared, fun handle' children' ops' htrees h => Declares.alike ?_ hdeclared⟩
    · rw [Op.perform, apply_bind_ok (apply_placeOf_some (hplace b))]
      exact hgiven.declares declaration b
    · have hcalled := writesTree_initializer h brackets s
      rw [htrees] at hcalled
      rw [Op.perform]
      exact hcalled.declares declaration b

/-- A handle inside of a body that is filled after the body has ended, and one that
    is filled after its own composite has got all elements. -/
theorem initializers_built_alike_late :
    let s := Session.start .empty Config.default "\t" Files.empty []
    let one : Plan := .leaf (.int 1) "1" (by decide +kernel)
    let two : Plan := .leaf (.text "b") "b" rfl
    let plans (outer inner : Style) : List Plan :=
      [.nested outer .array [.nested inner .struct [one], two], one]
    let bodyFirst : List Op := [.nestedWith "r" .array "a" [.nested "a" .struct "c", .element "a" (.text "b")],
      .element "c" (.int 1), .element "r" (.int 1)]
    let bodyLast : List Op := [.nested "r" .array "a", .element "r" (.int 1),
      .nestedWith "a" .struct "c" [.element "c" (.int 1)], .element "a" (.text "b")]
    Builds "r" (plans .body .handle) bodyFirst ∧ Builds "r" (plans .handle .body) bodyLast ∧
    ∃ t, (performAll (.beginInitializer .struct "r" :: bodyFirst)).apply s = (.ok (), t) ∧
      ((Op.declareInitializer (.text "T x") "r").perform.apply t).2.buffer =
        ((Op.declareWith (.text "T x") [.initializer .struct "r" bodyLast]).perform.apply s).2.buffer := by
  intro s one two plans bodyFirst bodyLast
  clear_value s
  have hfirst : Builds "r" (plans .body .handle) bodyFirst := by
    refine ⟨[⟨"c", []⟩, ⟨"r", []⟩], ?_, by simp⟩
    refine .body (by simp) (.handle (by simp) (.leaf .done)) (.perm (.swap _ _ _) (.leaf ?_))
    exact .perm (.swap _ _ _) (.leaf (.perm (.swap _ _ _) .done))
  have hlast : Builds "r" (plans .handle .body) bodyLast := by
    refine ⟨[⟨"a", []⟩, ⟨"r", []⟩], ?_, by simp⟩
    refine .handle (by simp) (.leaf (.perm (.swap _ _ _) ?_))
    exact .body (by simp) (.leaf .done) (.leaf .done)
  obtain ⟨t, hrun, hsame, -, hwrite⟩ :=
    (initializers_built_alike .struct "r" (plans .body .handle)).2 bodyFirst hfirst s
  have hbuffer : { t with buffer := s.buffer } = t := by rw [hsame]
  obtain ⟨⟨-, hgiven⟩, hcalled⟩ := (hwrite s.buffer).2 (.text "T x")
  obtain ⟨-, hcalled⟩ := hcalled "r" (plans .handle .body) bodyLast rfl hlast
  rw [hbuffer] at hgiven
  exact ⟨hfirst, hlast, t, hrun, hgiven.trans hcalled.symm⟩

end CxxWriter
