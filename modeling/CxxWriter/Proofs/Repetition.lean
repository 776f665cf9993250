/-
  Runs that are repeated.

  * `Arguments.Seeks`: the files that a run reads or looks for;
  * `Arguments.generate_again`: once a file that a run does not seek has been
    written, the run generates the same text, with the same doubts;
  * `second_run_finds_up_to_date`: the second of two runs with the same arguments
    changes nothing.
-/
import CxxWriter.Proofs.Composition
import CxxWriter.Proofs.Delivery
import CxxWriter.Proofs.Places

namespace CxxWriter

open Files (WritesTo)
open Template (Bindings)

section

variable {files g : Files} {place : List String} {content : ByteArray}

/-! ## Documents -/

/-- A document that can be read is read again. -/
theorem Document.read_again (h : WritesTo files g place content) {words : DocumentWords}
    {path : Path} {log : Log} {entries : List (String × Value)}
    (hp : g.locate path ≠ .ok place)
    (hread : ((Document.read words files path).run.run log).1 = .ok entries) :
    Document.read words g path = Document.read words files path := by
  have hexists : files.pathExists path = .ok true := by
    unfold Document.read at hread
    obtain ⟨b, hb, hread⟩ := Reporting.ofExcept_bind_ok.1 hread
    cases b with
    | true => exact hb
    | false => cases hread
  have hbytes : ∃ bytes, files.read path = .ok bytes := by
    unfold Document.read at hread
    rw [hexists] at hread
    cases hr : files.read path with
    | ok bytes => exact ⟨bytes, rfl⟩
    | error e =>
      rw [hr] at hread
      generalize (words.suffix.any fun s => path.suffix.toLower != s) = wrong at hread
      cases wrong <;> cases hread
  obtain ⟨bytes, hbytes⟩ := hbytes
  have hexists' : g.pathExists path = .ok true := h.leadsTo hp hexists
  unfold Document.read
  rw [hexists, hexists', hbytes, h.read hp hbytes]

/-! ## Templates -/

/-- The bytes of a template file are found again. -/
theorem Template.fileBytes?_again (hf : files.IsTree) (h : WritesTo files g place content) {d : Path}
    (hd : files.isDirectory d = .ok true) {name : String}
    (hname : ∀ p, filePath? d name = some p → g.locate p ≠ .ok place) :
    fileBytes? g d name = fileBytes? files d name := by
  refine Option.ext fun bytes => ?_
  rw [fileBytes?_eq_some_iff, fileBytes?_eq_some_iff]
  refine exists_congr fun parts => and_congr_right fun hparts => ?_
  exact Files.read_below hf h hd (nameParts?_up hparts)
    (hname _ (filePath?_eq_some.2 ⟨parts, hparts, rfl⟩))

namespace Engine

variable {l : TemplateLibrary} {e : Engine} {name : String} {given : Bindings}

/-- An engine that has done nothing reads the same templates again. -/
theorem load_again (hl : l.FindsFiles) (hf : files.IsTree) (h : WritesTo files g place content)
    (hadded : e.added = []) (hdirectory : ∀ d, e.directory = some d → files.isDirectory d = .ok true)
    (hname : ∀ d p, e.directory = some d → Template.filePath? d name = some p →
      g.locate p ≠ .ok place) : e.load l g name = e.load l files name := by
  have hsource : e.source l g name = e.source l files name := by
    rw [source, source, addedText?_of_new hadded]
    cases hd : e.directory with
    | none => rfl
    | some d =>
      have hbytes := Template.fileBytes?_again hf h (hdirectory d hd) fun p hp => hname d p hd hp
      dsimp only
      rw [hl.same hbytes]
  rw [load, load, hsource]

/-- An engine that has done nothing renders the same again. -/
theorem renderNamed_again (hlooks : l.LooksUp) (hfinds : l.FindsFiles) (hf : files.IsTree)
    (h : WritesTo files g place content) (hkept : e.kept = []) (hadded : e.added = [])
    (hdirectory : ∀ d, e.directory = some d → files.isDirectory d = .ok true)
    (hnames : ∀ n ∈ (e.renderNamed l files name given).lookedUp, ∀ d p, e.directory = some d →
      Template.filePath? d n = some p → g.locate p ≠ .ok place) :
    (e.renderNamed l g name given).outcome = (e.renderNamed l files name given).outcome :=
  answer_congr hlooks _ (.of_kept_nil hkept) (.of_kept_nil hkept)
    (fun n hn => load_again hfinds hf h hadded hdirectory (hnames n hn))
    (fun n _ => .of_kept_nil hkept n) fun n _ => .of_kept_nil hkept n

/-- An engine that renders the template of a file has a directory. -/
theorem directory_of_renderNamed (hl : l.LooksUp) {body : String} (hkept : e.kept = [])
    (hadded : e.added = []) (h : (e.renderNamed l files name given).outcome = .ok body) :
    ∃ d, e.directory = some d := by
  cases hd : e.directory with
  | some d => exact ⟨d, rfl⟩
  | none =>
    have hload : e.load l files name = .error (.notFound name) := by
      rw [load, source, addedText?_of_new hadded, hd]
      rfl
    have hfound : (l.lookUp files e name).outcome = .error (.notFound name) :=
      (lookUp_unused hl (.of_kept_nil hkept) (.of_kept_nil hkept name)).trans hload
    rw [renderNamed, answer, hfound] at h
    cases h

end Engine

namespace CommandLine

/-! ## What a run seeks -/

/-- The paths of the files that a run reads or looks for.  Templates are looked for
    whether they are there or not. -/
inductive Arguments.Seeks (a : Arguments) (library : TemplateLibrary) (files : Files) : Path → Prop where
  | template : a.Seeks library files a.templatePath
  | config (s : String) (h : filled? a.config = some s) : a.Seeks library files (Path.ofString s)
  | context (s : String) (h : filled? a.context = some s) : a.Seeks library files (Path.ofString s)
  | named (config : Config) (c : Composition) (hconfig : (a.settings files).outcome.1 = .ok config)
      (hc : c.IsFor a library files config) (name : String)
      (hname : name ∈ (c.engine.renderNamed library files a.templatePath.name c.given).lookedUp)
      (d p : Path) (hd : c.engine.directory = some d) (hp : Template.filePath? d name = some p) :
      a.Seeks library files p

namespace Arguments

variable {library : TemplateLibrary} {a : Arguments} {config : Config}

/-- What a run seeks that is given neither settings nor variables. -/
theorem Seeks.resolve {p : Path} {e : Engine} (hp : a.Seeks library files p)
    (hnoConfig : a.config = none) (hnoContext : a.context = none)
    (he : (Engine.start files (.text a.templatePath.parent.toString)).outcome.1 = .ok e) :
    p = a.templatePath ∨ ∃ name ∈ (e.renderNamed library files a.templatePath.name []).lookedUp,
      ∃ d, e.directory = some d ∧ Template.filePath? d name = some p := by
  cases hp with
  | template => exact .inl rfl
  | config _ h => rw [hnoConfig] at h; cases h
  | context _ h => rw [hnoContext] at h; cases h
  | named config c hconfig hc name hname d p hd hp =>
    have hengine := hc.engine
    rw [templateDir_of_settings hconfig, he] at hengine
    have hgiven := hc.given
    unfold bindings at hgiven
    rw [hnoContext] at hgiven
    have hempty : c.given = [] := (Except.ok.inj hgiven).symm
    rw [← Except.ok.inj hengine, hempty] at hname
    rw [← Except.ok.inj hengine] at hd
    exact .inr ⟨name, hname, d, hd, hp⟩

theorem bindings_again (h : WritesTo files g place content)
    (hapart : ∀ p, a.Seeks library files p → g.locate p ≠ .ok place) {given : Bindings}
    (hgiven : (a.bindings files).outcome.1 = .ok given) :
    (a.bindings g).outcome.1 = .ok given := by
  unfold bindings at hgiven ⊢
  split
  · next s hs =>
    rw [hs] at hgiven
    unfold Context.load Reporting.outcome at hgiven ⊢
    rw [Reporting.record_bind] at hgiven ⊢
    obtain ⟨_, _, hread, _⟩ := Reporting.bind_ok.1 hgiven
    rw [Document.read_again h (hapart _ (.context s hs)) (congrArg Prod.fst hread)]
    exact hgiven
  · next hs =>
    rw [hs] at hgiven
    exact hgiven

theorem settings_again (h : WritesTo files g place content)
    (hapart : ∀ p, a.Seeks library files p → g.locate p ≠ .ok place)
    (hsettings : (a.settings files).outcome.1 = .ok config) :
    (a.settings g).outcome.1 = .ok config := by
  obtain ⟨hfile, overrides, hoverrides, hload⟩ := settings_ok.1 hsettings
  refine settings_ok.2 ⟨h.leadsTo (hapart _ .template) hfile, overrides, hoverrides, ?_⟩
  cases hs : filled? a.config with
  | none =>
    rw [hs] at hload
    exact hload
  | some s =>
    rw [hs] at hload
    unfold Config.load Config.readFile Reporting.outcome at hload ⊢
    obtain ⟨_, _, hfile, _⟩ := Reporting.bind_ok.1 hload
    obtain ⟨_, _, hread, _⟩ := Reporting.bind_ok.1 (congrArg Prod.fst hfile)
    dsimp only [Option.map_some] at hload ⊢
    rw [Document.read_again h (hapart _ (.config s hs)) (congrArg Prod.fst hread)]
    exact hload

/-- Once a file that a run does not seek has been written, the run generates the
    same text, with the same doubts. -/
theorem generate_again (hlooks : library.LooksUp) (hfinds : library.FindsFiles) (hf : files.IsTree)
    (h : WritesTo files g place content)
    (hapart : ∀ p, a.Seeks library files p → g.locate p ≠ .ok place) {text : String}
    (hgenerate : (a.generate library files).outcome = .ok (text, config)) :
    (a.generate library g).outcome = .ok (text, config) ∧
      (a.generate library g).warnings = (a.generate library files).warnings := by
  obtain ⟨hsettings, ⟨warnings, hwarnings⟩, hcompose⟩ := generate_ok.1 hgenerate
  obtain ⟨c, hc, rfl⟩ := compose_ok.1 hcompose
  obtain ⟨hkept, hadded⟩ := Engine.start_new hc.engine
  obtain ⟨d, hd⟩ := Engine.directory_of_renderNamed hlooks hkept hadded hc.body
  obtain ⟨s, hs, hdirectory, he⟩ := (Engine.start_cases hc.engine).resolve_left fun he => by
    rw [he] at hd
    cases hd
  have hdirectory' := h.isDirectory hdirectory
  have hsettings' := settings_again h hapart hsettings
  have hwarnings' : config.validate g = .ok warnings := by
    have hdoubts : config.templateDirDoubts g = config.templateDirDoubts files := by
      unfold Config.templateDirDoubts
      rw [hs]
      dsimp only
      rw [hdirectory, hdirectory']
    rw [← hwarnings, Config.validate, Config.validate, hdoubts]
  refine ⟨generate_ok.2 ⟨hsettings', ⟨warnings, hwarnings'⟩, compose_ok.2 ⟨c, ?_, rfl⟩⟩,
    (generate_warnings hsettings' hwarnings').trans (generate_warnings hsettings hwarnings).symm⟩
  refine ⟨bindings_again h hapart hc.given, hc.unit, hc.header, hc.guard, hc.free, ?_, ?_⟩
  · rw [hs, Engine.start_congr (hdirectory'.trans hdirectory.symm), ← hs]
    exact hc.engine
  · rw [Engine.renderNamed_again hlooks hfinds hf h hkept hadded ?_ ?_]
    · exact hc.body
    · intro d hd
      rw [he] at hd
      cases hd
      exact hdirectory
    · exact fun name hname d p hd hp => hapart p (.named config c hsettings hc name hname d p hd hp)

end Arguments

/-! ## The second run -/

/-- A text that its file holds is not written. -/
theorem Arguments.deliver_again {a : Arguments} {text output lineEnding : String} {config : Config}
    (ho : filled? a.output = some output) (hending : config.lineEnding = .text lineEnding)
    (hread : files.read (Path.ofString output) = .ok (Source.bytes text lineEnding))
    (hexists : files.pathExists (Path.ofString output) = .ok true) :
    (a.deliver files text config).outcome = .ok (some (output, false)) ∧
      (a.deliver files text config).files = files := by
  have hcurrent : Source.isUpToDate files (Path.ofString output) (Source.bytes text lineEnding) =
      .ok true := by
    unfold Source.isUpToDate
    rw [hexists, hread]
    show Except.ok (Source.bytes text lineEnding == Source.bytes text lineEnding) = _
    rw [(Source.bytes_beq _ _).2 rfl]
  have hwrite : Source.writeBytes files (Path.ofString output) (Source.bytes text lineEnding) =
      ⟨files, .ok false⟩ := by
    rw [Source.writeBytes, hcurrent]
  unfold Arguments.deliver Source.write
  rw [ho, hending]
  dsimp only
  rw [hwrite]
  exact ⟨rfl, rfl⟩

/-- **The second of two runs with the same arguments changes nothing**, provided that
    the output is none of the files that the first one seeks, and that the standard output
    takes the line about a file that is up to date. -/
theorem second_run_finds_up_to_date {console : Console} {library : TemplateLibrary}
    {arguments : List String} {a : Arguments} {output : String} (hlooks : library.LooksUp)
    (hfinds : library.FindsFiles) (htells : Tells console false) (hf : files.IsTree)
    (ha : Arguments.ofList arguments = .ok a) (ho : a.output = some output) (hne : output ≠ "")
    (hrun : (run console library arguments files).ending = .completed 0)
    (hapart : ∀ p, a.Seeks library files p →
      ∀ q, (run console library arguments files).files.locate p = .ok q →
        (run console library arguments files).files.locate (Path.ofString output) ≠ .ok q) :
    let after := (run console library arguments files).files
    let again := run console library arguments after
    again.ending = .completed 0 ∧
      console.print .out "" (writtenMessage console output false) = .ok again.shown.out ∧
      again.files = after := by
  have ho' : filled? a.output = some output := by rw [ho, filled?_some hne]
  have hstep (files : Files) : run console library arguments files = a.run console library files := by
    rw [run, ha]
  rw [hstep] at hrun
  simp only [hstep] at hapart ⊢
  obtain ⟨line, hline⟩ := htells output
  -- what a run ends with that finds the file up to date
  have hend {files : Files} {text : String} {config : Config}
      (hdoubts : a.TellsDoubts console library files)
      (hgenerate : (a.generate library files).outcome = .ok (text, config))
      (hdeliver : (a.deliver files text config).outcome = .ok (some (output, false))) :
      (a.run console library files).ending = .completed 0 ∧
        console.print .out "" (writtenMessage console output false) =
          .ok (a.run console library files).shown.out ∧
        (a.run console library files).files = (a.deliver files text config).files := by
    obtain ⟨hfiles, hprint⟩ := Arguments.run_of_deliver hdoubts hgenerate hdeliver
    rw [closingMessage, hline] at hprint
    exact ⟨hprint.1, hline.trans (congrArg Except.ok hprint.2.symm), hfiles⟩
  obtain ⟨text, config, written, hdoubts, hgenerate, hdeliver⟩ :=
    (a.run_cases console library files).resolve_right fun h => h.1 hrun
  obtain ⟨hfiles, -⟩ := Arguments.run_of_deliver hdoubts hgenerate hdeliver
  rw [hfiles] at hapart ⊢
  obtain ⟨lineEnding, hending, ⟨_, hsame, rfl⟩ | ⟨between, hadds, hwrite, _⟩⟩ :=
    Arguments.deliver_ok ho' hdeliver
  · -- the first run has found the file up to date already
    have hagain := hend hdoubts hgenerate hdeliver
    rwa [hsame] at hagain ⊢
  · generalize (a.deliver files text config).files = g at hwrite hapart ⊢
    obtain ⟨place, hplace, hwrites⟩ := Files.writesTo_of_write hadds hwrite
    obtain ⟨hread, hexists⟩ := Files.read_write hwrite
    obtain ⟨hgenerate', hwarnings⟩ := Arguments.generate_again hlooks hfinds hf hwrites
      (fun p hp hlocate => hapart p hp place hlocate hplace) hgenerate
    obtain ⟨hdeliver', hfiles'⟩ := Arguments.deliver_again ho' hending hread hexists
    have hdoubts' : a.TellsDoubts console library g := by
      rw [Arguments.TellsDoubts, hwarnings]
      exact hdoubts
    obtain ⟨hending', hshown', hafter⟩ := hend hdoubts' hgenerate' hdeliver'
    exact ⟨hending', hshown', hafter.trans hfiles'⟩

end CommandLine

end

namespace CommandLine

/-- A template with a part, written to a file in a directory that is made for it. -/
theorem second_run_finds_header_up_to_date :
    let files : Files := ⟨[], [(["t.j2"], .file (bytesOfText "a\x7b% include 'p.j2' %\x7d")),
      (["p.j2"], .file (bytesOfText "b"))]⟩
    let arguments := ["t.j2", "-o", "gen/out.c"]
    let after := (run Terminal.console Template.library arguments files).files
    let again := run Terminal.console Template.library arguments after
    (run Terminal.console Template.library arguments files).shown.out = "✓ Wrote gen/out.c\n" ∧
      again.ending = .completed 0 ∧ again.shown.out = "✓ gen/out.c is up to date\n" ∧
      again.files = after := by
  intro files arguments after again
  let a : Arguments := ⟨"t.j2", none, some "gen/out.c", none, none, none, false, false⟩
  have hf : files.IsTree := by
    refine Files.isTree_of_entries fun e he => ?_
    simp only [files, List.mem_cons, List.not_mem_nil, or_false] at he
    rcases he with rfl | rfl <;> rfl
  have ha : Arguments.ofList arguments = .ok a := by decide +kernel
  have hrun : (run Terminal.console Template.library arguments files).ending = .completed 0 := by
    decide +kernel
  have hline : Terminal.console.print .out "" (writtenMessage Terminal.console "gen/out.c" false) =
      .ok "✓ gen/out.c is up to date\n" := by decide +kernel
  suffices hapart : ∀ p, a.Seeks Template.library files p → ∀ q, after.locate p = .ok q →
      after.locate (Path.ofString "gen/out.c") ≠ .ok q by
    obtain ⟨hending, hshown, hfiles⟩ := second_run_finds_up_to_date Template.looksUp_library
      Template.findsFiles_library (tells_console false) hf ha rfl (by decide) hrun hapart
    have hagain := Except.ok.inj (hline.symm.trans hshown)
    refine ⟨by decide +kernel, hending, ?_, hfiles⟩
    dsimp only [again, after]
    exact hagain.symm
  intro p hp q hq
  let e : Engine := ⟨some ⟨"", []⟩, [], []⟩
  have hdirectory : a.templatePath.parent.toString = "." := by decide +kernel
  have hengine : (Engine.start files (.text ".")).outcome.1 = .ok e := by rfl
  have hnames : (e.renderNamed Template.library files a.templatePath.name []).lookedUp =
      ["t.j2", "p.j2"] := by decide +kernel
  have hpaths : p = ⟨"", ["t.j2"]⟩ ∨ p = ⟨"", ["p.j2"]⟩ := by
    rcases hp.resolve rfl rfl (by rw [hdirectory, hengine]) with hp | ⟨name, hname, _, ⟨⟩, hp⟩
    · exact .inl (hp.trans (by decide +kernel))
    · rw [hnames] at hname
      simp only [List.mem_cons, List.not_mem_nil, or_false] at hname
      have hpath : Template.filePath? ⟨"", []⟩ "t.j2" = some ⟨"", ["t.j2"]⟩ ∧
          Template.filePath? ⟨"", []⟩ "p.j2" = some ⟨"", ["p.j2"]⟩ := by decide +kernel
      rcases hname with rfl | rfl
      · rw [hpath.1] at hp
        exact .inl (Option.some.inj hp).symm
      · rw [hpath.2] at hp
        exact .inr (Option.some.inj hp).symm
  have hplaces : after.locate ⟨"", ["t.j2"]⟩ = .ok ["t.j2"] ∧
      after.locate ⟨"", ["p.j2"]⟩ = .ok ["p.j2"] ∧
      after.locate (Path.ofString "gen/out.c") = .ok ["gen", "out.c"] := by decide +kernel
  intro hout
  have hsame := hplaces.2.2.symm.trans hout
  rcases hpaths with rfl | rfl
  · exact absurd (hsame.trans (hq.symm.trans hplaces.1)) (by decide)
  · exact absurd (hsame.trans (hq.symm.trans hplaces.2.1)) (by decide)

/-- A template that includes the output if that is there, and an output without a
    name. -/
theorem second_run_not_up_to_date :
    (let files : Files := ⟨[], [(["t.j2"],
        .file (bytesOfText "a\x7b% include 'out.c' ignore missing %\x7d"))]⟩
      let arguments := ["t.j2", "-o", "out.c"]
      let after := run Terminal.console Template.library arguments files
      let again := run Terminal.console Template.library arguments after.files
      files.get? ["out.c"] = none ∧ after.ending = .completed 0 ∧ again.ending = .completed 0 ∧
        again.shown.out = "✓ Wrote out.c\n" ∧
        after.files.read (Path.ofString "out.c") = .ok (bytesOfText "a\n") ∧
        again.files.read (Path.ofString "out.c") = .ok (bytesOfText "aa\n")) ∧
    let files : Files := ⟨[], [(["t.j2"], .file (bytesOfText "a"))]⟩
    let arguments := ["t.j2", "-o", ""]
    let after := run Terminal.console Template.library arguments files
    let again := run Terminal.console Template.library arguments after.files
    after.ending = .completed 0 ∧ again.ending = .completed 0 ∧ again.shown.out = "a\n" := by
  refine ⟨⟨rfl, ?_⟩, ?_⟩
  · decide +kernel
  · decide +kernel

end CommandLine

end CxxWriter
