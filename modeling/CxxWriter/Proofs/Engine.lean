/-
  What an engine remembers.

  A library may keep the templates that it has looked up, and use them again as long as
  they are up to date.  As files do not change, little of this shows in what is rendered:

  * `Coherent`: every kept template is the one that would be read now, up to what
    renderings have left in it.  Adding and rendering lead from coherent engines to
    coherent ones;
  * `answer_congr`: coherent engines that find the same render the same, if nothing is
    left in what is looked up;
  * `renders_like_fresh`: so, after any uses, an engine renders as one to which the latest
    texts were added and nothing else was done.
-/
import CxxWriter.Proofs.Action
import CxxWriter.Proofs.Library
import CxxWriter.Template.Report

namespace CxxWriter

/-- Nothing but `null` is of its kind. -/
theorem Value.eq_null_of_kindName {v : Value} (h : v.kindName = Value.null.kindName) :
    v = .null := by
  cases v with
  | null => rfl
  | notNumber d => cases d <;> simp [Value.kindName] at h
  | builtin f => cases f <;> simp [Value.kindName] at h
  | view kind => cases kind <;> simp [Value.kindName, ViewKind.kindName] at h
  | absent why => cases hlenient : why.isLenient <;> simp [Value.kindName, hlenient] at h
  | _ => simp [Value.kindName] at h

namespace Engine

open Template (Failure Bindings)

/-! ## Kept templates -/

/-- Is every kept template the one that would be read now, up to what is left in it? -/
def Coherent (e : Engine) (l : TemplateLibrary) (files : Files) : Prop :=
  ∀ k ∈ e.kept, e.load l files k.name = .ok k.asRead

/-- Is nothing left in the template that is kept under a name? -/
def IsUnused (e : Engine) (name : String) : Prop := ∀ k ∈ e.kept, k.name = name → k.state = .null

section

variable {l : TemplateLibrary} {files g : Files} {e e' : Engine} {name : String}

theorem Coherent.of_kept_nil (h : e.kept = []) : e.Coherent l files := by
  intro k hk
  rw [h] at hk
  cases hk

theorem IsUnused.of_kept_nil (h : e.kept = []) (name : String) : e.IsUnused name := by
  intro k hk
  rw [h] at hk
  cases hk

/-- What is read hangs on the directory and the added templates only. -/
theorem load_congr (hd : e'.directory = e.directory) (ha : e'.addedText? = e.addedText?) :
    e'.load l files = e.load l files := by
  funext name
  rw [load, load, source, source, hd, ha]

/-- A template that is read has the name that was asked for, and nothing is left in it. -/
theorem load_ok {k : KeptTemplate} (h : e.load l files name = .ok k) :
    k.name = name ∧ k.state = .null := by
  unfold load at h
  cases hsource : e.source l files name with
  | error f =>
    rw [hsource] at h
    cases h
  | ok found =>
    rw [hsource] at h
    dsimp only [bind, Except.bind] at h
    split at h
    · cases h
    · cases h
      exact ⟨rfl, rfl⟩

section LookUp

variable (hl : l.LooksUp) (he : e.Coherent l files)

include hl he

/-- What is kept makes no difference to what is found, up to what is left in it. -/
theorem lookUp_asRead (name : String) :
    (l.lookUp files e name).outcome.map KeptTemplate.asRead = e.load l files name := by
  rcases hl.found files e name with ⟨k, hk, rfl, -, hfound⟩ | hfound
  · rw [hfound, he k hk]
    rfl
  · rw [hfound]
    cases hload : e.load l files name with
    | error f => rfl
    | ok k => exact congrArg Except.ok (KeptTemplate.asRead_of_null (load_ok hload).2)

theorem lookUp_unused (hu : e.IsUnused name) :
    (l.lookUp files e name).outcome = e.load l files name := by
  rcases hl.found files e name with ⟨k, hk, rfl, -, hfound⟩ | hfound
  · rw [hfound, he k hk, KeptTemplate.asRead_of_null (hu k hk rfl)]
  · exact hfound

theorem Coherent.lookUp (name : String) :
    Coherent { e with kept := (l.lookUp files e name).kept } l files := by
  intro k hk
  show e.load l files k.name = _
  rcases hl.kept files e name k hk with hk | hload
  · exact he k hk
  · obtain ⟨hname, hnull⟩ := load_ok hload
    rw [hname, hload, KeptTemplate.asRead_of_null hnull]

omit he in
theorem IsUnused.lookUp {n : String} (hu : e.IsUnused n) (name : String) :
    IsUnused { e with kept := (l.lookUp files e name).kept } n := by
  intro k hk hn
  rcases hl.kept files e name k hk with hk | hload
  · exact hu k hk hn
  · exact (load_ok hload).2

end LookUp

/-! ## Rendering -/

/-- **Coherent engines that find the same render the same**, also among other files, if
    nothing is left in what is looked up. -/
theorem answer_congr (hl : l.LooksUp) (i : Inquiry Rendered) (he : e.Coherent l files)
    (he' : e'.Coherent l g)
    (hload : ∀ n ∈ (e.answer l files i).lookedUp, e'.load l g n = e.load l files n)
    (hu : ∀ n ∈ (e.answer l files i).lookedUp, e.IsUnused n)
    (hu' : ∀ n ∈ (e.answer l files i).lookedUp, e'.IsUnused n) :
    (e'.answer l g i).outcome = (e.answer l files i).outcome := by
  induction i generalizing e e' with
  | done r => rfl
  | lookUp name next ih =>
    rw [answer] at hload hu hu'
    simp only [List.forall_mem_cons] at hload hu hu'
    have hfound : (l.lookUp g e' name).outcome = (l.lookUp files e name).outcome := by
      rw [lookUp_unused hl he' hu'.1, lookUp_unused hl he hu.1, hload.1]
    rw [answer, answer, hfound]
    exact ih _ (he.lookUp hl name) (he'.lookUp hl name) hload.2
      (fun n hn => (hu.2 n hn).lookUp hl name) (fun n hn => (hu'.2 n hn).lookUp hl name)

/-- Looking templates up leaves the engine as it is but for what is kept. -/
structure Looked (l : TemplateLibrary) (files : Files) (e e' : Engine) : Prop where
  directory : e'.directory = e.directory
  added : e'.added = e.added
  coherent : e.Coherent l files → e'.Coherent l files

theorem Looked.refl (e : Engine) : Looked l files e e := ⟨rfl, rfl, id⟩

/-- What is left in templates is none of what is read. -/
theorem looked_leave (e : Engine) (left : List (String × Value)) : Looked l files e (e.leave left) := by
  refine ⟨rfl, rfl, fun he k hk => ?_⟩
  obtain ⟨k₀, hk₀, rfl⟩ := List.mem_map.1 hk
  exact he k₀ hk₀

theorem looked_answer (hl : l.LooksUp) (i : Inquiry Rendered) (e : Engine) :
    Looked l files e (e.answer l files i).engine := by
  induction i generalizing e with
  | done r => exact looked_leave e r.left
  | lookUp name next ih =>
    rw [answer]
    have hrest := ih ((l.lookUp files e name).outcome.map KeptTemplate.loaded)
      { e with kept := (l.lookUp files e name).kept }
    exact ⟨hrest.directory, hrest.added, fun he => hrest.coherent (he.lookUp hl name)⟩

theorem looked_produceNamed (hl : l.LooksUp) (e : Engine) (name : String) (given : Bindings) :
    Looked l files e (e.produceNamed l files name given).1 := looked_answer hl _ e

theorem looked_produceText (hl : l.LooksUp) (e : Engine) (source : String) (given : Bindings) :
    Looked l files e (e.produceText l files source given).1 := by
  show Looked l files e (e.renderText l files source given).engine
  unfold renderText
  dsimp only
  split
  · exact .refl e
  · exact looked_answer hl _ e

theorem recordRejected_ok (vs : List Value) (log : Log) :
    ((recordRejected vs).run.run log).1 = .ok () := by
  induction vs generalizing log with
  | nil => rfl
  | cons v vs ih => exact ih _

/-- The text or the error that rendering the template of a name comes to, whatever
    was recorded before. -/
theorem produceNamed_run (e : Engine) (l : TemplateLibrary) (files : Files) (name : String)
    (given : Bindings) (log : Log) : ((e.produceNamed l files name given).2.run.run log).1 =
      match (e.renderNamed l files name given).outcome with
      | .ok s => .ok s
      | .error f => .error (Error.ofFailure (some name) f) := by
  have hfinish (outcome : Except Failure String) (log : Log) :
      ((finish (some name) outcome).run.run log).1 = match outcome with
        | .ok s => .ok s
        | .error f => .error (Error.ofFailure (some name) f) := by
    cases outcome with
    | ok s => rfl
    | error f =>
      unfold finish
      dsimp only
      split <;> rfl
  unfold produceNamed
  dsimp only
  rw [Reporting.run_bind]
  rcases hr : (recordRejected (e.renderNamed l files name given).rejected).run.run log with ⟨o, log'⟩
  have ho : o = .ok () := by
    rw [← recordRejected_ok (e.renderNamed l files name given).rejected log, hr]
  subst ho
  dsimp only
  rw [Reporting.run_bind, ← hfinish (e.renderNamed l files name given).outcome log']
  rcases (finish (some name) (e.renderNamed l files name given).outcome).run.run log' with
    ⟨_ | _, _⟩ <;> rfl

/-- Rendering the template of a name ends well exactly if its text can be
    rendered. -/
theorem produceNamed_ok {body : String} {given : Bindings} {log : Log} :
    ((e.produceNamed l files name given).2.run.run log).1 = .ok body ↔
      (e.renderNamed l files name given).outcome = .ok body := by
  rw [produceNamed_run]
  cases (e.renderNamed l files name given).outcome with
  | ok s => exact ⟨fun h => congrArg Except.ok (Except.ok.inj h), fun h => by rw [Except.ok.inj h]⟩
  | error f => exact ⟨nofun, nofun⟩

end

/-! ## Uses -/

/-- What an engine is used for. -/
inductive Use where
  | add (name source : String)
  | contains (name : String)
  | renderNamed (name : String) (given : Bindings)
  | renderText (source : String) (given : Bindings)

section

variable (l : TemplateLibrary) (files : Files)

/-- The engine after a use, whether that went well or not. -/
def afterUse (e : Engine) : Use → Engine
  | .add name source => e.add name source
  | .contains _ => e
  | .renderNamed name given => (e.produceNamed l files name given).1
  | .renderText source given => (e.produceText l files source given).1

/-- The engine after uses. -/
def afterUses (e : Engine) (uses : List Use) : Engine := uses.foldl (afterUse l files) e

end

/-- The templates that are added, each with the text that it is given last. -/
def latest : List Use → List (String × String)
  | [] => []
  | .add name source :: uses =>
    if ((latest uses).lookup name).isSome then latest uses else (name, source) :: latest uses
  | _ :: uses => latest uses

theorem latest_lookup (name source : String) (uses : List Use) (n : String) :
    (latest (.add name source :: uses)).lookup n =
      ((latest uses).lookup n).or (if n = name then some source else none) := by
  rw [latest]
  split
  · next h =>
    split
    · next hn =>
      subst hn
      obtain ⟨s, hs⟩ := Option.isSome_iff_exists.1 h
      rw [hs]
      rfl
    · rw [Option.or_none]
  · next h =>
    rw [List.lookup_cons]
    split
    · next hn =>
      rw [beq_iff_eq] at hn
      subst hn
      rw [Option.not_isSome_iff_eq_none.1 h, if_pos rfl]
      rfl
    · next hn => rw [if_neg (by simpa using hn), Option.or_none]

/-- The latest texts are the same if only they are added. -/
theorem latest_adds (uses : List Use) :
    latest ((latest uses).map fun t => .add t.1 t.2) = latest uses := by
  induction uses with
  | nil => rfl
  | cons use uses ih =>
    cases use with
    | add name source =>
      rw [latest]
      split
      · exact ih
      · next h =>
        show latest (.add name source :: (latest uses).map fun t => .add t.1 t.2) = _
        rw [latest, ih, if_neg h]
    | contains | renderNamed | renderText => exact ih

theorem addedText?_add (e : Engine) (name source n : String) :
    (e.add name source).addedText? n = if n = name then some source else e.addedText? n := by
  rw [addedText?, add, List.find?_cons]
  dsimp only
  split
  · next h => rw [if_pos (beq_iff_eq.1 h).symm]; rfl
  · next h =>
    have hne : n ≠ name := fun hn => by
      rw [hn, beq_self_eq_true] at h
      cases h
    rw [if_neg hne, List.find?_filter, addedText?]
    congr 2
    funext t
    by_cases ht : t.1 = n
    · subst ht
      simp [hne]
    · simp [ht]

section

variable {l : TemplateLibrary} {files : Files}

/-- What is left of uses: the directory, the latest texts, and a coherent store. -/
theorem afterUses_eq (hl : l.LooksUp) (uses : List Use) (e : Engine) (he : e.Coherent l files) :
    (e.afterUses l files uses).directory = e.directory ∧
      (e.afterUses l files uses).Coherent l files ∧
      ∀ n, (e.afterUses l files uses).addedText? n = ((latest uses).lookup n).or (e.addedText? n) := by
  induction uses generalizing e with
  | nil => exact ⟨rfl, he, fun n => rfl⟩
  | cons use uses ih =>
    -- all uses but one change nothing of the texts, they only look some of them up
    have hlooked {e' : Engine} (h : Looked l files e e') (hlatest : latest (use :: uses) = latest uses)
        (hu : e.afterUse l files use = e') :
        (e.afterUses l files (use :: uses)).directory = e.directory ∧
          (e.afterUses l files (use :: uses)).Coherent l files ∧
          ∀ n, (e.afterUses l files (use :: uses)).addedText? n =
            ((latest (use :: uses)).lookup n).or (e.addedText? n) := by
      obtain ⟨hd, hc, ht⟩ := ih e' (h.coherent he)
      rw [hlatest]
      rw [← hu] at hd hc ht h
      refine ⟨hd.trans h.directory, hc, fun n => (ht n).trans ?_⟩
      rw [addedText?, h.added, addedText?]
    cases use with
    | add name source =>
      obtain ⟨hd, hc, ht⟩ := ih (e.add name source) (.of_kept_nil rfl)
      refine ⟨hd, hc, fun n => (ht n).trans ?_⟩
      rw [latest_lookup, Option.or_assoc, addedText?_add]
      split <;> rfl
    | contains name => exact hlooked (.refl e) rfl rfl
    | renderNamed name given => exact hlooked (looked_produceNamed hl e name given) rfl rfl
    | renderText source given => exact hlooked (looked_produceText hl e source given) rfl rfl

/-- Adding alone keeps no template. -/
theorem kept_afterUses_adds (texts : List (String × String)) {e : Engine} (h : e.kept = []) :
    (e.afterUses l files (texts.map fun t => .add t.1 t.2)).kept = [] := by
  induction texts generalizing e with
  | nil => exact h
  | cons t texts ih => exact ih rfl

/-- An engine that is started has no templates.  If it has a directory, that is the
    one it is told, and it is there. -/
theorem start_cases {directory : Value} {e : Engine}
    (h : (start files directory).outcome.1 = .ok e) :
    e = ⟨none, [], []⟩ ∨ ∃ s, directory = .text s ∧
      files.isDirectory (Path.ofString s) = .ok true ∧ e = ⟨some (Path.ofString s), [], []⟩ := by
  unfold start Reporting.outcome at h
  split at h
  · split at h
    · next s _ =>
      obtain ⟨e', hc, h⟩ := Reporting.ofExcept_bind_ok.1 h
      have he : e' = e := by
        split at h <;> exact Except.ok.inj h
      subst he
      unfold create at hc
      dsimp only at hc
      rcases hd : files.isDirectory (Path.ofString s) with _ | _ | _
      · rw [hd] at hc
        cases hc
      · rw [hd] at hc
        cases hc
        exact .inl rfl
      · rw [hd] at hc
        cases hc
        exact .inr ⟨s, rfl, hd, rfl⟩
    · cases h
  · cases h
    exact .inl rfl

theorem start_new {directory : Value} {e : Engine}
    (h : (start files directory).outcome.1 = .ok e) : e.kept = [] ∧ e.added = [] := by
  rcases start_cases h with rfl | ⟨_, _, _, rfl⟩
  · exact ⟨rfl, rfl⟩
  · exact ⟨rfl, rfl⟩

theorem addedText?_of_new {e : Engine} (hadded : e.added = []) (name : String) :
    e.addedText? name = none := by
  rw [addedText?, hadded]
  rfl

/-- Of all files, only the directory counts where an engine is started. -/
theorem start_congr {g : Files} {s : String}
    (h : g.isDirectory (Path.ofString s) = files.isDirectory (Path.ofString s)) :
    start g (.text s) = start files (.text s) := by
  unfold start create
  dsimp only
  rw [h]

/-- **An engine has no memory beyond the templates that were added to it, and what
    renderings have left in those that it keeps.**  Whatever it has been used for, a
    look-up finds the latest text that was added, and where none was added what is in a
    file at the start, read anew.  It renders the template of a name as an engine to which
    only the latest text of each added template has been added, if nothing is left in
    the templates that are looked up on the way. -/
theorem renders_like_fresh (hl : l.LooksUp) {directory : Value} {e : Engine}
    (h : (start files directory).outcome.1 = .ok e) (uses : List Use) :
    let used := e.afterUses l files uses
    let fresh := e.afterUses l files ((latest uses).map fun t => .add t.1 t.2)
    (∀ name, (l.lookUp files used name).outcome.map KeptTemplate.asRead =
      match (latest uses).lookup name with
      | some source =>
        match (l.read (some name) source).1 with
        | some f => .error f
        | none => .ok ⟨name, .added, source, .null⟩
      | none => e.load l files name) ∧
    ∀ name given,
      (∀ n ∈ (fresh.renderNamed l files name given).lookedUp, used.IsUnused n) →
      (used.produceNamed l files name given).2.outcome.1 =
        (fresh.produceNamed l files name given).2.outcome.1 := by
  intro used fresh
  obtain ⟨hkept, hadded⟩ := start_new h
  have he : e.Coherent l files := .of_kept_nil hkept
  obtain ⟨hd, hc, ht⟩ := afterUses_eq hl uses e he
  obtain ⟨hd', hc', ht'⟩ := afterUses_eq hl ((latest uses).map fun t => .add t.1 t.2) e he
  rw [latest_adds] at ht'
  have hnew : fresh.kept = [] := kept_afterUses_adds _ hkept
  refine ⟨fun name => ?_, fun name given hunused => ?_⟩
  · rw [lookUp_asRead hl hc, load, source, ht]
    cases (latest uses).lookup name with
    | some source => rfl
    | none =>
      rw [Option.none_or, hd]
      rfl
  · have hload : used.load l files = fresh.load l files :=
      load_congr (hd.trans hd'.symm) (funext fun n => (ht n).trans (ht' n).symm)
    have hdirectory : used.directory.isSome = fresh.directory.isSome := by rw [hd, hd']
    unfold Reporting.outcome
    rw [produceNamed_run, produceNamed_run]
    unfold renderNamed at hunused ⊢
    rw [hdirectory, answer_congr hl _ hc' hc (fun n _ => congrFun hload n)
      (fun n _ => .of_kept_nil hnew n) hunused]

/-- A file that has been rendered is hidden by a template that is added later, also
    where another template includes it. -/
theorem renders_like_fresh_hidden :
    let l := Template.library
    let files : Files := ⟨[], [(["a.j2"], .file (bytesOfText "\x7b% include 'b.j2' %\x7d")),
      (["b.j2"], .file (bytesOfText "file"))]⟩
    let e : Engine := ⟨some ⟨"", []⟩, [], []⟩
    let uses : List Use := [.renderNamed "a.j2" [], .add "b.j2" "old", .renderNamed "b.j2" [],
      .add "b.j2" "new", .renderNamed "a.j2" []]
    let used := e.afterUses l files uses
    let fresh := e.afterUses l files [.add "b.j2" "new"]
    (start files (.text ".")).outcome.1 = .ok e ∧ used.kept.map (·.name) = ["b.j2", "a.j2"] ∧
      (used.produceNamed l files "a.j2" []).2.outcome.1 =
        (fresh.produceNamed l files "a.j2" []).2.outcome.1 ∧
      (fresh.produceNamed l files "a.j2" []).2.outcome.1.toOption = some "new" := by
  intro l files e uses used fresh
  have hstart : (start files (.text ".")).outcome.1 = .ok e := by rfl
  have hkinds : ∀ k ∈ used.kept, k.state.kindName = Value.null.kindName := by decide +kernel
  have hunused : ∀ k ∈ used.kept, k.state = .null := fun k hk =>
    Value.eq_null_of_kindName (hkinds k hk)
  refine ⟨hstart, by decide +kernel, ?_, by decide +kernel⟩
  exact (renders_like_fresh Template.looksUp_library hstart uses).2 "a.j2" [] fun _ _ k hk _ => hunused k hk

/-- An engine does remember what renderings have left in its templates: a cycler of a
    template that is imported goes on where it was left. -/
theorem renders_unlike_fresh :
    let l := Template.library
    let e : Engine := ⟨none, [], []⟩
    let uses : List Use := [.add "m" "\x7b% set c = cycler('a', 'b') %\x7d",
      .add "t" "\x7b% import 'm' as m %\x7d\x7b\x7b m.c.next() \x7d\x7d", .renderNamed "t" []]
    let used := e.afterUses l Files.empty uses
    let fresh := e.afterUses l Files.empty ((latest uses).map fun t => .add t.1 t.2)
    (start Files.empty .null).outcome.1 = .ok e ∧
      (used.produceNamed l Files.empty "t" []).2.outcome.1.toOption = some "b" ∧
      (fresh.produceNamed l Files.empty "t" []).2.outcome.1.toOption = some "a" := by
  exact ⟨rfl, by decide +kernel⟩

end

end Engine

end CxxWriter
