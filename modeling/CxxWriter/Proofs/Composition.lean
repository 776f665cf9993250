/-
  What a source text is made of.

  * `Composition`: the pieces of a source text, and the text that they make;
  * `compose_ok`: a text is composed exactly if each of its pieces can be had;
  * `settings_ok`, `generate_ok`: the same for settings, and for a text and the
    settings it is generated with.
-/
import CxxWriter.CommandLine.Generate
import CxxWriter.Proofs.Config
import CxxWriter.Proofs.Engine

namespace CxxWriter

open Template (Bindings)

/-! ## Sessions that end well -/

namespace Action

/-- Can an action be carried out, and lead to a buffer? -/
def Reaches (a : Action Unit) (s : Session) (b : Buffer) : Prop :=
  ∃ t, a.apply s = (.ok (), t) ∧ t.buffer = b

theorem reaches_changeBuffer {f : Buffer → Buffer} {s : Session} {b : Buffer} :
    (changeBuffer f).Reaches s b ↔ b = f s.buffer := by
  refine ⟨?_, fun h => ⟨_, rfl, h.symm⟩⟩
  rintro ⟨_, ⟨⟩, rfl⟩
  rfl

theorem reaches_report_bind {α : Type} {r : Reporting α} {f : α → Action Unit} {s : Session}
    {b : Buffer} : (report r >>= f).Reaches s b ↔
      ∃ x log, r.run.run s.log = (.ok x, log) ∧ (f x).Reaches { s with log := log } b := by
  unfold Reaches
  rw [apply_bind, apply_report]
  rcases r.run.run s.log with ⟨e | x, log⟩
  · refine ⟨?_, ?_⟩
    · rintro ⟨_, ⟨⟩, _⟩
    · rintro ⟨_, _, ⟨⟩, _⟩
  · refine ⟨fun h => ⟨x, log, rfl, h⟩, ?_⟩
    rintro ⟨_, _, ⟨⟩, h⟩
    exact h

theorem reaches_ofExcept_bind {α ε : Type} {g : ε → Error} {r : Except ε α} {f : α → Action Unit}
    {s : Session} {b : Buffer} : (report (.ofExcept g r) >>= f).Reaches s b ↔
      ∃ x, r = .ok x ∧ (f x).Reaches s b := by
  rw [reaches_report_bind]
  cases r with
  | error e =>
    refine ⟨?_, ?_⟩
    · rintro ⟨_, _, ⟨⟩, _⟩
    · rintro ⟨_, ⟨⟩, _⟩
  | ok x =>
    constructor
    · rintro ⟨_, _, ⟨⟩, h⟩
      exact ⟨x, rfl, h⟩
    · rintro ⟨_, ⟨⟩, h⟩
      exact ⟨x, s.log, rfl, h⟩

theorem reaches_comment_bind {v : Value} {a : Action Unit} {s : Session} {b : Buffer} :
    (comment v >>= fun _ => a).Reaches s b ↔
      ∃ t, v.fragment? = some t ∧ a.Reaches { s with buffer := s.buffer.emitComment t } b := by
  unfold comment
  rw [bind_assoc, reaches_report_bind]
  cases hv : v.fragment? with
  | none =>
    rw [Reporting.tells_fragment_none hv]
    refine ⟨?_, ?_⟩
    · rintro ⟨_, _, ⟨⟩, _⟩
    · rintro ⟨_, ⟨⟩, _⟩
  | some t =>
    rw [Reporting.tells_fragment hv, List.append_nil]
    constructor
    · rintro ⟨_, _, ⟨⟩, h⟩
      exact ⟨t, rfl, h⟩
    · rintro ⟨_, ⟨⟩, h⟩
      exact ⟨t, _, rfl, h⟩

/-- What stands above a text that a macro guards. -/
def opened (name : String) (b : Buffer) : Buffer :=
  ((b.emit ("#ifndef " ++ name)).emit ("#define " ++ name)).emit ""

/-- What stands below a text that a macro guards. -/
def closed (name : String) (b : Buffer) : Buffer :=
  (b.emit "").emit ("#endif /* " ++ name ++ " */")

/-- The buffer once a text has been written, which a macro may guard. -/
def framed (guard : Option String) (body : String) (b : Buffer) : Buffer :=
  match guard with
  | some name => closed name ((opened name b).emit body)
  | none => b.emit body

theorem reaches_guarded {name : String} {body : Action Unit} {s : Session} {b : Buffer} :
    (guarded (.text name) body).Reaches s b ↔
      ∃ b', body.Reaches { s with buffer := opened name s.buffer } b' ∧ b = closed name b' := by
  have happly : (guarded (.text name) body).apply s =
      (body >>= fun _ => changeBuffer (closed name)).apply
        { s with buffer := opened name s.buffer } := rfl
  unfold Reaches
  rw [happly]
  constructor
  · rintro ⟨t, ht, rfl⟩
    obtain ⟨_, u, hu, ⟨⟩⟩ := apply_bind_iff.1 ht
    exact ⟨_, ⟨u, hu, rfl⟩, rfl⟩
  · rintro ⟨_, ⟨u, hu, rfl⟩, rfl⟩
    exact ⟨_, apply_bind_iff.2 ⟨_, u, hu, rfl⟩, rfl⟩

/-- The engine of a session that has none yet is started. -/
theorem reaches_engine_bind {f : Engine → Action Unit} {s : Session} {b : Buffer}
    (hs : s.engine = none) : (engine >>= f).Reaches s b ↔
      ∃ e log, (Engine.start s.files s.config.templateDir).run.run s.log = (.ok e, log) ∧
        (f e).Reaches { s with engine := some e, log := log } b := by
  have hstart : (engine >>= f).Reaches s b ↔
      (report (Engine.start s.files s.config.templateDir) >>= fun e => do
        modify ({ · with engine := some e })
        f e).Reaches s b := by
    unfold Reaches engine
    rw [bind_assoc, apply_bind_ok (apply_get s), hs]
    dsimp only
    rw [bind_assoc]
    rfl
  exact hstart.trans reaches_report_bind

/-- A template is written if its variables have no names of their own, an engine can
    be had, and the template can be rendered. -/
theorem reaches_templateFile {name : String} {given : Bindings} {s : Session} {b : Buffer}
    (hs : s.engine = none) :
    (templateFile name given).Reaches s b ↔
      given.any (["self", "template_name"].contains ·.1) = false ∧
      ∃ e body, ((Engine.start s.files s.config.templateDir).run.run s.log).1 = .ok e ∧
        (e.renderNamed s.library s.files name given).outcome = .ok body ∧ b = s.buffer.emit body := by
  unfold templateFile checkVariables
  cases given.any (["self", "template_name"].contains ·.1) with
  | true =>
    refine ⟨?_, fun h => by cases h.1⟩
    rintro ⟨_, ⟨⟩, _⟩
  | false =>
    refine (reaches_engine_bind hs).trans ?_
    have hwrite (e : Engine) (t : Session) :
        (report (e.produceNamed t.library t.files name given).2 >>= emitText).Reaches
            { t with engine := some (e.produceNamed t.library t.files name given).1 } b ↔
          ∃ body log, ((e.produceNamed t.library t.files name given).2.run.run t.log) = (.ok body, log) ∧
            b = t.buffer.emit body := by
      simp only [reaches_report_bind, emitText, reaches_changeBuffer]
    constructor
    · rintro ⟨e, log, he, h⟩
      obtain ⟨body, log', hbody, hb⟩ := (hwrite e { s with engine := some e, log := log }).1 h
      exact ⟨rfl, e, body, by rw [he], Engine.produceNamed_ok.1 (congrArg Prod.fst hbody), hb⟩
    · rintro ⟨_, e, body, he, hbody, rfl⟩
      obtain ⟨log, hlog⟩ : ∃ log,
          (Engine.start s.files s.config.templateDir).run.run s.log = (.ok e, log) :=
        ⟨_, Prod.ext he rfl⟩
      exact ⟨e, log, hlog, (hwrite e { s with engine := some e, log := log }).2
        ⟨body, _, Prod.ext (Engine.produceNamed_ok.2 hbody) rfl, rfl⟩⟩

end Action

namespace CommandLine

theorem filled?_some {s : String} (h : s ≠ "") : filled? (some s) = some s := by
  rw [filled?, Option.filter_some, if_pos]
  simpa using h

/-! ## The pieces of a source text -/

/-- Is this the comment that settings ask for at the top? -/
def HasHeader (config : Config) (header : Option String) : Prop :=
  if config.headerComment.isTrue
  then ∃ comment, config.headerComment.fragment? = some comment ∧ header = some comment
  else header = none

/-- A buffer with a comment at the top. -/
def headed (unit : String) : Option String → Buffer
  | some header => (Buffer.empty unit).emitComment header
  | none => Buffer.empty unit

/-- What a source text is made of. -/
structure Composition where
  /-- The variables of the template. -/
  given : Bindings
  /-- A level of indentation. -/
  unit : String
  /-- The comment at the top. -/
  header : Option String
  /-- The macro that guards the text. -/
  guard : Option String
  /-- The templates. -/
  engine : Engine
  /-- What the template comes to. -/
  body : String

namespace Composition

/-- The buffer after the comment at the top. -/
def top (c : Composition) : Buffer := headed c.unit c.header

/-- The buffer at the end. -/
def buffer (c : Composition) : Buffer := Action.framed c.guard c.body c.top

/-- The source text. -/
def text (c : Composition) : String := c.buffer.text

/-- Are these the pieces that arguments and settings ask for? -/
structure IsFor (c : Composition) (a : Arguments) (library : TemplateLibrary) (files : Files)
    (config : Config) : Prop where
  given : (a.bindings files).outcome.1 = .ok c.given
  unit : ∃ unit, config.unit = .ok unit ∧ unit.asText? = some c.unit
  header : HasHeader config c.header
  guard : ∃ name, a.guardName = .ok name ∧ c.guard = filled? name
  free : c.given.any (["self", "template_name"].contains ·.1) = false
  engine : (Engine.start files config.templateDir).outcome.1 = .ok c.engine
  body : (c.engine.renderNamed library files a.templatePath.name c.given).outcome = .ok c.body

end Composition

section

variable {a : Arguments} {library : TemplateLibrary} {files : Files} {config : Config}

/-- The comment at the top is written first. -/
theorem reaches_top {unit : String} {rest : Action Unit} {b : Buffer} :
    (do if config.headerComment.isTrue then Action.comment config.headerComment
        rest : Action Unit).Reaches (Session.start library config unit files []) b ↔
      ∃ header, HasHeader config header ∧
        rest.Reaches { Session.start library config unit files [] with buffer := headed unit header } b := by
  unfold HasHeader
  split
  · rw [Action.reaches_comment_bind]
    constructor
    · rintro ⟨t, ht, h⟩
      exact ⟨some t, ⟨t, ht, rfl⟩, h⟩
    · rintro ⟨_, ⟨t, ht, rfl⟩, h⟩
      exact ⟨t, ht, h⟩
  · constructor
    · intro h
      exact ⟨none, rfl, h⟩
    · rintro ⟨_, rfl, h⟩
      exact h

/-- What is written below the comment at the top. -/
theorem reaches_guardedTemplate {given : Bindings} {s : Session} {b : Buffer}
    (hs : s.engine = none) (hlog : s.log = []) :
    (do match filled? (← Action.report (.ofExcept id a.guardName)) with
        | some name => Action.guarded (.text name) (Action.templateFile a.templatePath.name given)
        | none => Action.templateFile a.templatePath.name given : Action Unit).Reaches s b ↔
      ∃ name e body, a.guardName = .ok name ∧
        given.any (["self", "template_name"].contains ·.1) = false ∧
        (Engine.start s.files s.config.templateDir).outcome.1 = .ok e ∧
        (e.renderNamed s.library s.files a.templatePath.name given).outcome = .ok body ∧
        b = Action.framed (filled? name) body s.buffer := by
  rw [Action.reaches_ofExcept_bind]
  refine exists_congr fun name => ?_
  cases hfilled : filled? name with
  | none =>
    rw [Action.reaches_templateFile hs, hlog]
    constructor
    · rintro ⟨hname, hfree, e, body, he, hbody, hb⟩
      exact ⟨e, body, hname, hfree, he, hbody, hb⟩
    · rintro ⟨e, body, hname, hfree, he, hbody, hb⟩
      exact ⟨hname, hfree, e, body, he, hbody, hb⟩
  | some guard =>
    rw [Action.reaches_guarded]
    constructor
    · rintro ⟨hname, b', h, hb⟩
      obtain ⟨hfree, e, body, he, hbody, rfl⟩ := (Action.reaches_templateFile (by exact hs)).1 h
      rw [hlog] at he
      exact ⟨e, body, hname, hfree, he, hbody, hb⟩
    · rintro ⟨e, body, hname, hfree, he, hbody, hb⟩
      refine ⟨hname, _, (Action.reaches_templateFile (by exact hs)).2
        ⟨hfree, e, body, ?_, hbody, rfl⟩, hb⟩
      rw [hlog]
      exact he

theorem reaches_writing {given : Bindings} {unit : String} {b : Buffer} :
    (a.writing config given).Reaches (Session.start library config unit files []) b ↔
      ∃ header, HasHeader config header ∧ ∃ name e body, a.guardName = .ok name ∧
        given.any (["self", "template_name"].contains ·.1) = false ∧
        (Engine.start files config.templateDir).outcome.1 = .ok e ∧
        (e.renderNamed library files a.templatePath.name given).outcome = .ok body ∧
        b = Action.framed (filled? name) body (headed unit header) := by
  refine reaches_top.trans (exists_congr fun header => and_congr_right fun _ => ?_)
  exact reaches_guardedTemplate
    (s := { Session.start library config unit files [] with buffer := headed unit header }) rfl rfl

theorem openWriter_bind_ok {α : Type} {f : Session → Reporting α} {log : Log} {y : α} :
    ((Session.openWriter library files config .null >>= f).run.run log).1 = .ok y ↔
      ∃ v unit, config.unit = .ok v ∧ v.asText? = some unit ∧
        ((f (Session.start library config unit files [])).run.run (log ++ [⟨.debug, .writer,
          "CxxBuilder created with indent string " ++ Text.quote unit⟩])).1 = .ok y := by
  unfold Session.openWriter
  dsimp only
  rw [bind_assoc, Reporting.ofExcept_bind_ok]
  refine exists_congr fun v => ?_
  unfold Reporting.unitText
  cases hv : v.asText? with
  | none =>
    refine ⟨?_, ?_⟩
    · rintro ⟨_, ⟨⟩⟩
    · rintro ⟨_, _, ⟨⟩, _⟩
  | some unit =>
    constructor
    · rintro ⟨hunit, h⟩
      exact ⟨unit, hunit, rfl, h⟩
    · rintro ⟨_, hunit, ⟨⟩, h⟩
      exact ⟨hunit, h⟩

theorem carryOut_ok {act : Action Unit} {s : Session} {log : Log} {text : String} :
    ((do return (← s.carryOut act).buffer.text : Reporting String).run.run log).1 = .ok text ↔
      ∃ b, act.Reaches s b ∧ b.text = text := by
  rw [Reporting.run_bind]
  unfold Action.Reaches Session.carryOut
  rcases act.apply s with ⟨e | _, t⟩
  · refine ⟨fun h => (by cases h), ?_⟩
    rintro ⟨_, ⟨_, ⟨⟩, _⟩, _⟩
  · constructor
    · exact fun h => ⟨_, ⟨t, rfl, rfl⟩, Except.ok.inj h⟩
    · rintro ⟨_, ⟨_, ⟨⟩, rfl⟩, rfl⟩
      rfl

/-- A source text is composed exactly if all of its pieces can be had. -/
theorem compose_ok {text : String} :
    (a.compose library files config).outcome.1 = .ok text ↔
      ∃ c : Composition, c.IsFor a library files config ∧ c.text = text := by
  unfold Arguments.compose Reporting.outcome
  rw [Reporting.bind_ok]
  constructor
  · rintro ⟨given, log, hgiven, hopen⟩
    obtain ⟨v, unit, hv, hunit, hcarry⟩ := openWriter_bind_ok.1 hopen
    obtain ⟨b, hwriting, htext⟩ := carryOut_ok.1 hcarry
    obtain ⟨header, hheader, name, e, body, hname, hfree, he, hbody, rfl⟩ :=
      reaches_writing.1 hwriting
    exact ⟨⟨given, unit, header, filled? name, e, body⟩,
      ⟨congrArg Prod.fst hgiven, ⟨v, hv, hunit⟩, hheader, ⟨name, hname, rfl⟩, hfree, he, hbody⟩,
      htext⟩
  · rintro ⟨⟨given, unit, header, guard, e, body⟩, ⟨hgiven, ⟨v, hv, hunit⟩, hheader,
      ⟨name, hname, hguard⟩, hfree, he, hbody⟩, rfl⟩
    dsimp only at hgiven hunit hheader hguard hfree he hbody
    subst hguard
    have hwriting : (a.writing config given).Reaches (Session.start library config unit files [])
        (Action.framed (filled? name) body (headed unit header)) :=
      reaches_writing.2 ⟨header, hheader, name, e, body, hname, hfree, he, hbody, rfl⟩
    exact ⟨given, _, Prod.ext hgiven rfl,
      openWriter_bind_ok.2 ⟨v, unit, hv, hunit, carryOut_ok.2 ⟨_, hwriting, rfl⟩⟩⟩

/-! ## Settings and text -/

/-- The settings that arguments give. -/
def Arguments.overrides (a : Arguments) : Except Error (List (String × Value)) :=
  let directory := ("template_dir", Value.text a.templatePath.parent.toString)
  match filled? a.indent with
  | some s => (unitOf s).map fun unit => [directory, ("indent_string", .text unit)]
  | none => .ok [directory]

/-- Settings can be had if the template is there, and they can be loaded. -/
theorem settings_ok :
    (a.settings files).outcome.1 = .ok config ↔
      files.isFile a.templatePath = .ok true ∧ ∃ overrides, a.overrides = .ok overrides ∧
        (Config.load files overrides ((filled? a.config).map Path.ofString)).outcome.1 =
          .ok config := by
  unfold Arguments.settings Arguments.overrides Reporting.outcome
  rw [Reporting.ofExcept_bind_ok]
  rcases files.isFile a.templatePath with e | _ | _
  · refine ⟨?_, ?_⟩
    · rintro ⟨_, ⟨⟩, _⟩
    · rintro ⟨⟨⟩, _⟩
  · refine ⟨?_, ?_⟩
    · rintro ⟨_, ⟨⟩, ⟨⟩⟩
    · rintro ⟨⟨⟩, _⟩
  · cases filled? a.indent with
    | none =>
      constructor
      · rintro ⟨_, ⟨⟩, h⟩
        exact ⟨rfl, _, rfl, h⟩
      · rintro ⟨_, _, ⟨⟩, h⟩
        exact ⟨true, rfl, h⟩
    | some s =>
      dsimp only
      cases unitOf s with
      | error e =>
        refine ⟨?_, ?_⟩
        · rintro ⟨_, ⟨⟩, ⟨⟩⟩
        · rintro ⟨_, _, ⟨⟩, _⟩
      | ok unit =>
        constructor
        · rintro ⟨_, ⟨⟩, h⟩
          exact ⟨rfl, _, rfl, h⟩
        · rintro ⟨_, _, ⟨⟩, h⟩
          exact ⟨true, rfl, h⟩

theorem hasKinds_of_settings (h : (a.settings files).outcome.1 = .ok config) :
    config.HasKinds := by
  obtain ⟨_, _, _, hload⟩ := settings_ok.1 h
  exact Config.hasKinds_of_load hload

/-- The directory of templates is that of the template, whatever a file of settings
    tells. -/
theorem templateDir_of_settings (h : (a.settings files).outcome.1 = .ok config) :
    config.templateDir = .text a.templatePath.parent.toString := by
  obtain ⟨_, overrides, hoverrides, hload⟩ := settings_ok.1 h
  have hvalue : DistinctKeys overrides ∧
      valueAt "template_dir" overrides = some (.text a.templatePath.parent.toString) := by
    unfold Arguments.overrides at hoverrides
    split at hoverrides
    · next s _ =>
      cases hunit : unitOf s with
      | error => rw [hunit] at hoverrides; cases hoverrides
      | ok unit =>
        rw [hunit] at hoverrides
        cases hoverrides
        exact ⟨by simp [DistinctKeys], rfl⟩
    · cases hoverrides
      exact ⟨by simp [DistinctKeys], rfl⟩
  have hentries {given : List (String × Value)} {log : Log}
      (h : ((Config.ofEntries (setKeys (setKeys Config.defaultEntries given) overrides)).run.run log).1 =
        .ok config) : config.templateDir = .text a.templatePath.parent.toString := by
    obtain ⟨custom, _, rfl, _⟩ := Config.ofEntries_ok.1 h
    show (valueAt "template_dir" _).getD _ = _
    rw [valueAt_setKeys hvalue.1, hvalue.2]
    rfl
  unfold Config.load Reporting.outcome at hload
  split at hload
  · obtain ⟨given, log, _, hload⟩ := Reporting.bind_ok.1 hload
    exact hentries hload
  · exact hentries hload

/-- The doubts that come up are those about the settings. -/
theorem generate_warnings {warnings : List String} (hsettings : (a.settings files).outcome.1 = .ok config)
    (hwarnings : config.validate files = .ok warnings) :
    (a.generate library files).warnings = warnings := by
  unfold Arguments.generate
  rcases hc : (a.settings files).outcome with ⟨_ | c, log⟩
  · rw [hc] at hsettings
    cases hsettings
  · rw [hc] at hsettings
    cases hsettings
    dsimp only
    rw [hwarnings]

/-- A text is generated from settings that can be had and checked. -/
theorem generate_ok {text : String} :
    (a.generate library files).outcome = .ok (text, config) ↔
      (a.settings files).outcome.1 = .ok config ∧
      (∃ warnings, config.validate files = .ok warnings) ∧
      (a.compose library files config).outcome.1 = .ok text := by
  have hmap (outcome : Except Error String) (c : Config) :
      outcome.map (fun s => (s, c)) = .ok (text, config) ↔ c = config ∧ outcome = .ok text := by
    cases outcome with
    | error e => exact ⟨nofun, by rintro ⟨_, ⟨⟩⟩⟩
    | ok s =>
      show Except.ok (s, c) = .ok (text, config) ↔ _
      rw [Except.ok.injEq, Prod.mk.injEq, Except.ok.injEq, and_comm]
  unfold Arguments.generate
  rcases (a.settings files).outcome with ⟨_ | c, log⟩
  · refine ⟨nofun, ?_⟩
    rintro ⟨⟨⟩, _⟩
  · dsimp only
    rw [Except.ok.injEq]
    cases hv : c.validate files with
    | error e =>
      refine ⟨nofun, ?_⟩
      rintro ⟨rfl, ⟨_, hv'⟩, _⟩
      rw [hv] at hv'
      cases hv'
    | ok warnings =>
      refine (hmap _ c).trans ?_
      constructor
      · rintro ⟨rfl, htext⟩
        exact ⟨rfl, ⟨_, hv⟩, htext⟩
      · rintro ⟨rfl, _, htext⟩
        exact ⟨rfl, htext⟩

end

end CommandLine

end CxxWriter
