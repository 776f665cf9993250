/-
  Variables of templates and the names that they cannot have.

  Variables are passed on by their names, together with the arguments that the
  operation and the template itself have.

  * `rendered`: adding as code what a template comes to that is given its variables
    as a whole, whatever their names are;
  * `template_iff`, `templateFile_iff`: the operations do the same exactly if no
    variable has the name of an argument; with such a name they fail before anything
    is rendered (`template_taken`, `templateFile_taken`);
  * `variables_by_name`: the same for a run, and that each variable is what its name
    stands for.
-/
import CxxWriter.Proofs.Composition
import CxxWriter.Proofs.Documents

namespace CxxWriter

open Template (Bindings)

/-- Are there only variables whose names are none of those of an operation's own
    arguments? -/
def Template.Bindings.IsFree (own : List String) (given : Bindings) : Prop :=
  ∀ e ∈ given, e.1 ∉ own

instance (own : List String) (given : Bindings) : Decidable (given.IsFree own) :=
  inferInstanceAs (Decidable (∀ e ∈ given, e.1 ∉ own))

theorem Template.Bindings.any_contains {own : List String} {given : Bindings} :
    given.any (own.contains ·.1) = false ↔ given.IsFree own := by
  rw [List.any_eq_false]
  simp only [List.contains_iff_mem]
  rfl

/-! ## Rendering with all variables -/

namespace Engine

/-- Renders the template of a name with variables of any names. -/
def renderNamedWith (e : Engine) (l : TemplateLibrary) (files : Files) (name : String)
    (given : Bindings) : Rendering :=
  e.answer l files (.lookUp name (rendering fun t => l.render e.directory.isSome t given))

/-- Renders a text as a template with variables of any names. -/
def renderTextWith (e : Engine) (l : TemplateLibrary) (files : Files) (source : String)
    (given : Bindings) : Rendering :=
  let (failure, rejected) := l.read none source
  match failure with
  | some f => ⟨.error f, rejected, [], e⟩
  | none =>
    let r := e.answer l files (l.render e.directory.isSome ⟨none, source, .null⟩ given)
    { r with rejected := rejected ++ r.rejected }

/-- The text of a rendering, with the records that are kept of it. -/
def Rendering.text (r : Rendering) (name : Option String) : Reporting String := do
  recordRejected r.rejected
  let s ← finish name r.outcome
  if let some name := name then
    Reporting.record .debug .template ("Rendered template " ++ name)
  return s

variable {e : Engine} {l : TemplateLibrary} {files : Files} {given : Bindings}

theorem inquire_free (h : given.IsFree ["self"]) (hasFiles : Bool) (t : LoadedTemplate) :
    inquire l hasFiles t given = l.render hasFiles t given := by
  have hself : (given.any fun e => e.1 == "self") = false := by
    rw [List.any_eq_false]
    intro e he
    simpa using h e he
  rw [inquire, hself]
  rfl

theorem renderNamed_free (h : given.IsFree ["self"]) (name : String) :
    e.renderNamed l files name given = e.renderNamedWith l files name given := by
  unfold renderNamed renderNamedWith
  simp only [inquire_free h]

theorem renderText_free (h : given.IsFree ["self"]) (source : String) :
    e.renderText l files source given = e.renderTextWith l files source given := by
  unfold renderText renderTextWith
  rcases l.read none source with ⟨_ | f, rejected⟩
  · dsimp only
    rw [inquire_free h]
  · rfl

theorem produceNamed_free (h : given.IsFree ["self"]) (name : String) :
    e.produceNamed l files name given =
      ((e.renderNamedWith l files name given).engine,
        (e.renderNamedWith l files name given).text (some name)) := by
  rw [← renderNamed_free h]
  rfl

theorem produceText_free (h : given.IsFree ["self"]) (source : String) :
    e.produceText l files source given =
      ((e.renderTextWith l files source given).engine,
        (e.renderTextWith l files source given).text none) := by
  rw [← renderText_free h, produceText, Rendering.text]
  simp

end Engine

/-! ## Adding what is rendered -/

namespace Action

variable {given : Bindings}

/-- Adds as code the text that a rendering comes to. -/
def rendered (name : Option String) (render : Engine → TemplateLibrary → Files → Engine.Rendering) :
    Action Unit := do
  let e ← engine
  let s ← get
  let r := render e s.library s.files
  modify ({ · with engine := some r.engine })
  emit (.text (← report (r.text name)))

theorem emit_text (s : String) : emit (.text s) = emitText s := rfl

theorem checkVariables_free {own : List String} (h : given.IsFree own) :
    checkVariables own given = pure () := by
  rw [checkVariables, Template.Bindings.any_contains.2 h]
  rfl

theorem checkVariables_taken {own : List String} (h : ¬ given.IsFree own) :
    checkVariables own given = throw (.value .wrongKind) := by
  rw [← Template.Bindings.any_contains, Bool.not_eq_false] at h
  rw [checkVariables, h]
  rfl

theorem template_free (h : given.IsFree ["self", "source"]) (source : String) :
    template source given = rendered none fun e l files => e.renderTextWith l files source given := by
  have hself : given.IsFree ["self"] := fun e he hmem => h e he (by simp_all)
  unfold template rendered
  rw [checkVariables_free h]
  simp only [pure_bind, Engine.produceText_free hself]
  rfl

theorem templateFile_free (h : given.IsFree ["self", "template_name"]) (name : String) :
    templateFile name given =
      rendered (some name) fun e l files => e.renderNamedWith l files name given := by
  have hself : given.IsFree ["self"] := fun e he hmem => h e he (by simp_all)
  unfold templateFile rendered
  rw [checkVariables_free h]
  simp only [pure_bind, Engine.produceNamed_free hself]
  rfl

/-- With the name of an argument among the variables nothing is done at all. -/
theorem template_taken (h : ¬ given.IsFree ["self", "source"]) (source : String) (s : Session) :
    (template source given).apply s = (.error (.value .wrongKind), s) := by
  rw [template, checkVariables_taken h]
  rfl

theorem templateFile_taken (h : ¬ given.IsFree ["self", "template_name"]) (name : String)
    (s : Session) : (templateFile name given).apply s = (.error (.value .wrongKind), s) := by
  rw [templateFile, checkVariables_taken h]
  rfl

/-- What adding a rendered text does: the engine is kept however it ends. -/
theorem apply_rendered {s t : Session} {e : Engine} (h : engine.apply s = (.ok e, t))
    (name : Option String) (render : Engine → TemplateLibrary → Files → Engine.Rendering) :
    (rendered name render).apply s =
      let r := render e t.library t.files
      let outcome := (r.text name).run.run t.log
      let u := { t with engine := some r.engine, log := outcome.2 }
      match outcome.1 with
      | .ok body => (.ok (), { u with buffer := u.buffer.emit body })
      | .error x => (.error x, u) := by
  rw [rendered, apply_bind_ok h, apply_bind_ok (apply_get t)]
  dsimp only
  generalize render e t.library t.files = r
  have hmodify : (modify fun u : Session => { u with engine := some r.engine } : Action Unit).apply t =
      (.ok (), { t with engine := some r.engine }) := rfl
  rw [apply_bind_ok hmodify, apply_bind, apply_report]
  rcases (r.text name).run.run t.log with ⟨x | body, log⟩ <;> rfl

/-- Where the engine can be had, adding a rendered text does not leave a session
    without one. -/
theorem rendered_engine {s t : Session} {e : Engine} (h : engine.apply s = (.ok e, t))
    (name : Option String) (render : Engine → TemplateLibrary → Files → Engine.Rendering) :
    ((rendered name render).apply s).2.engine ≠ none := by
  rw [apply_rendered h]
  dsimp only
  split <;> nofun

/-- An operation that fails at once does not do what adding a rendered text does. -/
theorem not_rendered {a : Action Unit} {x : Error} (ha : ∀ s, a.apply s = (.error x, s))
    (name : Option String) (render : Engine → TemplateLibrary → Files → Engine.Rendering) :
    ¬ ∀ s, a.apply s = (rendered name render).apply s := by
  intro h
  let s := Session.start .empty .default "\t" .empty []
  obtain ⟨e, t, he⟩ : ∃ e t, engine.apply s = (.ok e, t) := ⟨_, _, rfl⟩
  refine rendered_engine he name render ?_
  rw [← h, ha]
  rfl

theorem template_iff (source : String) (given : Bindings) :
    (∀ s, (template source given).apply s =
      (rendered none fun e l files => e.renderTextWith l files source given).apply s) ↔
      given.IsFree ["self", "source"] := by
  refine ⟨fun h => ?_, fun h s => by rw [template_free h]⟩
  by_contra htaken
  exact not_rendered (template_taken htaken source) _ _ h

theorem templateFile_iff (name : String) (given : Bindings) :
    (∀ s, (templateFile name given).apply s =
      (rendered (some name) fun e l files => e.renderNamedWith l files name given).apply s) ↔
      given.IsFree ["self", "template_name"] := by
  refine ⟨fun h => ?_, fun h s => by rw [templateFile_free h]⟩
  by_contra htaken
  exact not_rendered (templateFile_taken htaken name) _ _ h

/-- Does the second action end in an error wherever the first one ends well? -/
def FailsFor (x : Error) (a b : Action Unit) : Prop :=
  ∀ s t, a.apply s = (.ok (), t) → ∃ u, b.apply s = (.error x, u)

theorem FailsFor.behind {α : Type} {x : Error} {first : Action α} {f g : α → Action Unit}
    (h : ∀ y, FailsFor x (f y) (g y)) : FailsFor x (first >>= f) (first >>= g) := by
  intro s t hs
  obtain ⟨y, u, hy, hrest⟩ := apply_bind_iff.1 hs
  obtain ⟨v, hv⟩ := h y u t hrest
  exact ⟨v, by rw [apply_bind_ok hy, hv]⟩

theorem FailsFor.before {x : Error} {a b : Action Unit} (h : FailsFor x a b)
    (rest : Unit → Action Unit) : FailsFor x (a >>= rest) (b >>= rest) := by
  intro s t hs
  obtain ⟨y, u, hy, _⟩ := apply_bind_iff.1 hs
  obtain ⟨v, hv⟩ := h s u hy
  exact ⟨v, apply_bind_error hv _⟩

theorem FailsFor.guarded {x : Error} {a b : Action Unit} (h : FailsFor x a b) (name : Value) :
    FailsFor x (guarded name a) (guarded name b) := by
  unfold Action.guarded
  exact .behind fun _ => .behind fun _ => .behind fun _ => .behind fun _ => h.before _

end Action

namespace CommandLine.Arguments

variable (a : Arguments) (library : TemplateLibrary) (files : Files) (config : Config)

/-- Writes the comment at the top and the template, in a given way. -/
def writingWith (template : Action Unit) : Action Unit := do
  if config.headerComment.isTrue then Action.comment config.headerComment
  match filled? (← Action.report (.ofExcept id a.guardName)) with
  | some name => Action.guarded (.text name) template
  | none => template

/-- The source text if its template is written in a given way. -/
def composeWith (template : Bindings → Action Unit) : Reporting String := do
  let given ← a.bindings files
  let session ← Session.openWriter library files config .null
  let session ← session.carryOut (a.writingWith config (template given))
  return session.buffer.text

/-- The source text if variables can have any names. -/
def composeRendered : Reporting String :=
  a.composeWith library files config fun given =>
    Action.rendered (some a.templatePath.name) fun e l files =>
      e.renderNamedWith l files a.templatePath.name given

theorem compose_eq :
    a.compose library files config =
      a.composeWith library files config (Action.templateFile a.templatePath.name) :=
  rfl

variable {a library files config}

theorem writingWith_fails {x : Error} {t u : Action Unit} (h : Action.FailsFor x t u) :
    Action.FailsFor x (a.writingWith config t) (a.writingWith config u) := by
  have hguard : Action.FailsFor x
      (do match filled? (← Action.report (.ofExcept id a.guardName)) with
          | some name => Action.guarded (.text name) t
          | none => t)
      (do match filled? (← Action.report (.ofExcept id a.guardName)) with
          | some name => Action.guarded (.text name) u
          | none => u) := by
    refine .behind fun name => ?_
    cases filled? name with
    | some name => exact h.guarded _
    | none => exact h
  unfold writingWith
  split
  · exact .behind fun _ => hguard
  · exact hguard

theorem carryOut_fails {x : Error} {t u : Action Unit} (h : Action.FailsFor x t u) {s : Session}
    {log : Log} {text : String}
    (ht : ((do return (← s.carryOut t).buffer.text : Reporting String).run.run log).1 = .ok text) :
    ((do return (← s.carryOut u).buffer.text : Reporting String).run.run log).1 = .error x := by
  obtain ⟨_, ⟨v, hv, _⟩, _⟩ := carryOut_ok.1 ht
  obtain ⟨w, hw⟩ := h s v hv
  rw [Reporting.run_bind]
  unfold Session.carryOut
  rw [hw]
  rfl

variable {given : Bindings} (hgiven : (a.bindings files).outcome.1 = .ok given)

include hgiven

theorem compose_free (hfree : given.IsFree ["self", "template_name"]) :
    (a.compose library files config).outcome = (a.composeRendered library files config).outcome := by
  rw [compose_eq, composeRendered, composeWith, composeWith]
  unfold Reporting.outcome at hgiven ⊢
  rw [Reporting.run_bind, Reporting.run_bind]
  rcases hrun : (a.bindings files).run.run [] with ⟨o, log⟩
  rw [hrun] at hgiven
  cases hgiven
  dsimp only
  rw [Action.templateFile_free hfree]

/-- With the name of an argument among the variables no source text is composed, also
    where there is one. -/
theorem compose_taken (htaken : ¬ given.IsFree ["self", "template_name"]) {text : String}
    (htext : (a.composeRendered library files config).outcome.1 = .ok text) :
    (a.compose library files config).outcome.1 = .error (.value .wrongKind) := by
  rw [compose_eq, composeWith]
  rw [composeRendered, composeWith] at htext
  unfold Reporting.outcome at hgiven htext ⊢
  rw [Reporting.run_bind] at htext ⊢
  rcases hrun : (a.bindings files).run.run [] with ⟨o, log⟩
  rw [hrun] at hgiven htext
  cases hgiven
  dsimp only at htext ⊢
  obtain ⟨session, log', hopen, hcarry⟩ := Reporting.bind_ok.1 htext
  rw [Reporting.run_bind, hopen]
  refine carryOut_fails (writingWith_fails fun s _ _ => ?_) hcarry
  exact ⟨s, Action.templateFile_taken htaken _ s⟩

end CommandLine.Arguments

/-! ## What names stand for -/

/-- Each variable is what its name stands for, whatever the name is. -/
theorem Template.Context.get?_given {given : Bindings} (hd : DistinctKeys given)
    {e : String × Value} (he : e ∈ given) (t : Template) :
    (Context.ofTemplate t (given ++ builtins)).get? e.1 = some e.2 := by
  have hfound : given.get? e.1 = some e.2 := valueAt_of_mem hd he
  have happend : (given ++ builtins).get? e.1 = (given.get? e.1).or (builtins.get? e.1) := by
    unfold Bindings.get?
    rw [List.find?_append, Option.map_or]
  show (given ++ builtins).get? e.1 = _
  rw [happend, hfound]
  rfl

/-- **Variables can have all names but those of arguments.**  A template that is
    written, from a text, from a file or by a run, comes to what is rendered with all
    of its variables exactly if none of them has the name of an argument on the way;
    with such a name nothing is rendered, and a run has no source text where it should
    have one. -/
theorem variables_by_name (given : Bindings) :
    (∀ source,
      (∀ s, (Action.template source given).apply s =
        (Action.rendered none fun e l files => e.renderTextWith l files source given).apply s) ↔
      given.IsFree ["self", "source"]) ∧
    (∀ name,
      (∀ s, (Action.templateFile name given).apply s =
        (Action.rendered (some name) fun e l files => e.renderNamedWith l files name given).apply s) ↔
      given.IsFree ["self", "template_name"]) ∧
    (∀ (a : CommandLine.Arguments) (library : TemplateLibrary) (files : Files) (config : Config),
      (a.bindings files).outcome.1 = .ok given →
      (given.IsFree ["self", "template_name"] →
        (a.compose library files config).outcome = (a.composeRendered library files config).outcome) ∧
      (¬ given.IsFree ["self", "template_name"] → ∀ text,
        (a.composeRendered library files config).outcome.1 = .ok text →
        (a.compose library files config).outcome.1 = .error (.value .wrongKind))) ∧
    (DistinctKeys given → ∀ e ∈ given, ∀ t,
      (Template.Context.ofTemplate t (given ++ Template.builtins)).get? e.1 = some e.2) := by
  refine ⟨fun source => Action.template_iff source given,
    fun name => Action.templateFile_iff name given, fun a library files config hgiven => ⟨?_, ?_⟩,
    fun hd e he t => Template.Context.get?_given hd he t⟩
  · exact CommandLine.Arguments.compose_free hgiven
  · exact fun htaken text => CommandLine.Arguments.compose_taken hgiven htaken

/-- A template in a file, with the name of the file of its variables. -/
def greeting : CommandLine.Arguments :=
  ⟨"t.j2", some "builder.json", none, none, none, none, false, false⟩

/-- The files of such a run. -/
def greetingFiles (template context : String) : Files :=
  ⟨[], [(["t.j2"], .file (bytesOfText template)), (["builder.json"], .file (bytesOfText context))]⟩

/-- The variables of such a run. -/
theorem bindings_greeting {template context : String} {given : Bindings}
    (hn : Text.NoReturn context)
    (hr : Json.read context = .ok (.dict (textKeyed given))) :
    (greeting.bindings (greetingFiles template context)).outcome.1 = .ok given := by
  have hread : (greetingFiles template context).read (Path.ofString "builder.json") =
      .ok (bytesOfText context) := by rfl
  show (Context.load _ _).outcome.1 = _
  rw [Context.load_eq hread, Document.objectOf_ok]
  exact Document.holds_of_text hn hr

/-- A variable with the name of no argument. -/
theorem variables_by_name_greeting :
    let files := greetingFiles "\x7b\x7b name \x7d\x7d\n" "\x7b\"name\": \"x\"\x7d"
    let config := { Config.default with templateDir := .text "." }
    (greeting.bindings files).outcome.1 = .ok [("name", .text "x")] ∧
      (greeting.composeRendered Template.library files config).outcome.1 = .ok "x\n" ∧
      (greeting.compose Template.library files config).outcome.1 = .ok "x\n" := by
  intro files config
  have hgiven : (greeting.bindings files).outcome.1 = .ok [("name", .text "x")] :=
    bindings_greeting (by decide) (Json.read_of_readsAs (by decide +kernel))
  have htext : (greeting.composeRendered Template.library files config).outcome.1 = .ok "x\n" := by decide +kernel
  obtain ⟨-, -, hruns, -⟩ := variables_by_name [("name", .text "x")]
  exact ⟨hgiven, htext, by rw [(hruns _ _ _ _ hgiven).1 (by decide), htext]⟩

/-- Variables cannot have all names: a run has no source text if one is called as the
    argument that names the template. -/
theorem variable_refused :
    ¬ ∀ (a : CommandLine.Arguments) (library : TemplateLibrary) (files : Files) (config : Config)
      (given : Bindings) (text : String), (a.bindings files).outcome.1 = .ok given →
      (a.composeRendered library files config).outcome.1 = .ok text →
      (a.compose library files config).outcome.1 = .ok text := by
  intro h
  let files := greetingFiles "\x7b\x7b template_name \x7d\x7d\n"
    "\x7b\"template_name\": \"x\"\x7d"
  let config := { Config.default with templateDir := .text "." }
  have hgiven : (greeting.bindings files).outcome.1 = .ok [("template_name", .text "x")] :=
    bindings_greeting (by decide) (Json.read_of_readsAs (by decide +kernel))
  have htext : (greeting.composeRendered Template.library files config).outcome.1 = .ok "x\n" := by decide +kernel
  have htaken := CommandLine.Arguments.compose_taken hgiven (by decide) htext
  rw [h _ _ _ _ _ _ hgiven htext] at htaken
  cases htaken

end CxxWriter
