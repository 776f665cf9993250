/-
  Guards that are named after the output.

  * `guardName_of_autoGuard`: the macro has the name of the file of the output;
  * `Composition.text_of_guard`: a text that a macro guards, written out;
  * `auto_guard_wraps`: what a run with such a guard writes, and when the macro is
    an identifier.
-/
import CxxWriter.Proofs.Composition
import CxxWriter.Proofs.Config
import CxxWriter.Proofs.Delivery
import CxxWriter.Proofs.Layout
import CxxWriter.Proofs.Naming

namespace CxxWriter

/-! ## Options that exclude each other -/

namespace CommandLine

open Json (exists_of_bind_ok)

namespace Reading

/-- Is at most one of the two ways to ask for a guard used? -/
def IsExclusive (r : Reading) : Prop := r.has .autoGuard = true → r.has .guard = false

theorem value?_of_not_has {r : Reading} {f : Flag} (h : r.has f = false) : r.value? f = none := by
  rw [has, List.any_eq_false] at h
  rw [value?, List.find?_eq_none.2 h]
  rfl

theorem take_exclusive {r r' : Reading} {f : Flag} {value : Option String} (hr : r.IsExclusive)
    (h : r.take f value = .ok r') : r'.IsExclusive := by
  have hhas (f : Flag) (g : Flag) : has { r with given := (f, value) :: r.given } g =
      (f == g || r.has g) := rfl
  unfold take at h
  split at h
  · cases h
  · next hrival =>
    cases f with
    | help | version => cases h
    | guard =>
      cases h
      intro hauto
      have hfree := Option.filter_eq_none_iff.1 hrival .autoGuard rfl
      rw [hhas] at hauto
      exact absurd hauto hfree
    | autoGuard =>
      cases h
      intro _
      have hfree := Option.filter_eq_none_iff.1 hrival .guard rfl
      rw [hhas]
      exact eq_false_of_ne_true hfree
    | context | output | config | indent | verbose =>
      cases h
      exact hr

theorem takeAll_exclusive {es : List (Flag × Option String)} {r r' : Reading} (hr : r.IsExclusive)
    (h : r.takeAll es = .ok r') : r'.IsExclusive := by
  induction es generalizing r with
  | nil =>
    cases h
    exact hr
  | cons e es ih =>
    obtain ⟨_, htake, hrest⟩ := exists_of_bind_ok h
    exact ih (take_exclusive hr htake) hrest

theorem takeBundle_exclusive {b : Bundle} {value : Option String} {r r' : Reading}
    (hr : r.IsExclusive) (h : r.takeBundle b value = .ok r') : r'.IsExclusive := by
  unfold takeBundle at h
  split at h
  · exact takeAll_exclusive hr h
  · exact takeAll_exclusive hr h
  · cases h

theorem addOperand_exclusive {r : Reading} (hr : r.IsExclusive) (s : String) :
    (r.addOperand s).IsExclusive := by
  unfold addOperand
  split
  · exact hr
  · exact hr

theorem readItems_exclusive {items : List Item} {r r' : Reading} (hr : r.IsExclusive)
    (h : readItems items r = .ok r') : r'.IsExclusive := by
  fun_induction readItems items r with
  | case1 r =>
    cases h
    exact hr
  | case2 s rest r ih =>
    -- an operand in front of the terminator
    refine ih ?_ h
    split
    · exact addOperand_exclusive hr s
    · exact hr
  | case3 s rest r _ ih => exact ih (addOperand_exclusive hr s) h
  | case4 s rest r ih =>
    -- an operand behind the terminator
    refine ih ?_ h
    split
    · exact addOperand_exclusive hr s
    · exact hr
  | case5 rest r _ ih => exact ih hr h
  | case6 s rest r ih => exact ih hr h
  | case7 use v rest r ihrest ihall =>
    -- an option that may take the operand behind it for its value
    obtain ⟨b, _, h⟩ := exists_of_bind_ok h
    split at h
    · obtain ⟨_, htake, hrest⟩ := exists_of_bind_ok h
      exact ihrest _ (takeBundle_exclusive hr htake) hrest
    · obtain ⟨_, htake, hrest⟩ := exists_of_bind_ok h
      exact ihall _ (takeBundle_exclusive hr htake) hrest
  | case8 use rest r _ ih =>
    obtain ⟨b, _, h⟩ := exists_of_bind_ok h
    obtain ⟨_, htake, hrest⟩ := exists_of_bind_ok h
    exact ih _ (takeBundle_exclusive hr htake) hrest

end Reading

namespace Arguments

variable {arguments : List String} {a : Arguments}

/-- A guard that is named after the output is the only one. -/
theorem guard_of_autoGuard (ha : ofList arguments = .ok a) (hauto : a.autoGuard = true) :
    a.guard = none := by
  obtain ⟨items, _, ha⟩ := exists_of_bind_ok ha
  obtain ⟨r, hr, ha⟩ := exists_of_bind_ok ha
  have hexclusive : r.IsExclusive := Reading.readItems_exclusive (r := Reading.start) nofun hr
  unfold Reading.finish at ha
  split at ha
  · cases ha
  · split at ha
    · cases ha
      exact Reading.value?_of_not_has (hexclusive hauto)
    · cases ha

/-- The macro has the name of the file of the output. -/
theorem guardName_of_autoGuard {output : String} (ha : ofList arguments = .ok a)
    (hauto : a.autoGuard = true) (ho : filled? a.output = some output) :
    a.guardName = .ok (some (Naming.macroCase (Path.ofString output).name)) := by
  unfold guardName
  rw [guard_of_autoGuard ha hauto, ho, if_pos hauto]
  rfl

end Arguments

end CommandLine

/-! ## Lines without indentation -/

namespace Buffer

open Text

/-- A line without white space at its ends is written as it is where nothing is
    indented. -/
theorem emit_bare {b : Buffer} (hd : b.depth = 0) {line : String} (h : Tree.IsBare line.toList) :
    (b.emit line).text = b.text ++ line ++ "\n" := by
  rw [h.emit_text, indentation_eq_empty.2 (.inl hd), String.append_empty]

theorem emit_empty {b : Buffer} (hd : b.depth = 0) : (b.emit "").text = b.text ++ "\n" := by
  have hempty : blockOf 0 b.unit "" = "" := rfl
  rw [emit, newline, text_push, emitOpen_text, hd, hempty, String.append_empty]

/-- A comment at the top of a text. -/
def commentText (comment : String) : String :=
  "/*\n" ++ String.ofList (Block.leadLines " * ".toList (Block.unindent comment.toList)) ++ "\n */\n"

theorem emitComment_empty (unit comment : String) :
    ((Buffer.empty unit).emitComment comment).text = commentText comment := by
  have hbare : Tree.IsBare "/*".toList :=
    ⟨by decide, ⟨'/', rfl, by decide⟩, by rintro _ ⟨⟩; decide⟩
  have htext : (Buffer.empty unit).text = "" := rfl
  simp only [emitComment, newline, text_push]
  rw [indentation_eq_empty.2 (.inl rfl), emit_bare rfl hbare, htext, commentText]
  simp only [String.empty_append, String.append_assoc]
  rfl

end Buffer

namespace CommandLine

/-- The text above all else, which the settings ask for. -/
def topText (config : Config) : String :=
  match config.headerComment with
  | .text comment => if comment.isEmpty then "" else Buffer.commentText comment
  | _ => ""

namespace Composition

variable {c : Composition} {a : Arguments} {library : TemplateLibrary} {files : Files}
  {config : Config}

theorem depth_top (c : Composition) : c.top.depth = 0 := by
  unfold top headed
  split <;> rfl

theorem IsFor.text_top (hc : c.IsFor a library files config) (hconfig : config.HasKinds) :
    c.top.text = topText config := by
  have hheader := hc.header
  have hkind : Setting.headerComment.hasKind config.headerComment = true := hconfig .headerComment
  unfold HasHeader at hheader
  unfold top headed topText
  cases hv : config.headerComment with
  | null =>
    rw [hv] at hheader
    have hnone : c.header = none := hheader
    rw [hnone]
    rfl
  | text comment =>
    have htrue : (Value.text comment).isTrue = !comment.isEmpty := rfl
    rw [hv, htrue] at hheader
    dsimp only
    cases hempty : comment.isEmpty with
    | true =>
      rw [hempty] at hheader
      have hnone : c.header = none := hheader
      rw [hnone]
      rfl
    | false =>
      rw [hempty] at hheader
      obtain ⟨_, ⟨⟩, hsome⟩ := hheader
      rw [hsome]
      exact Buffer.emitComment_empty _ _
  | _ =>
    rw [hv] at hkind
    cases hkind

/-- A line around the name of a macro has no white space at its ends. -/
theorem bare_line {before name after : List Char} (hname : name ≠ [])
    (hword : ∀ ch ∈ name, Naming.isWordChar ch = true)
    (hbefore : '\n' ∉ before ∧ ∃ ch, before.head? = some ch ∧ Text.isSpace ch = false)
    (hafter : '\n' ∉ after ∧ ∀ ch, after.getLast? = some ch → Text.isSpace ch = false) :
    Tree.IsBare (before ++ name ++ after) := by
  obtain ⟨hline, first, hfirst, hspace⟩ := hbefore
  refine ⟨?_, ⟨first, ?_, hspace⟩, ?_⟩
  · have hname' : '\n' ∉ name := fun h => absurd (hword _ h) (by decide)
    simp only [List.mem_append, not_or]
    exact ⟨⟨hline, hname'⟩, hafter.1⟩
  · rw [List.append_assoc, List.head?_append, hfirst]
    rfl
  · intro ch hch
    rw [List.getLast?_append] at hch
    cases hl : after.getLast? with
    | some last =>
      rw [hl] at hch
      cases hch
      exact hafter.2 _ hl
    | none =>
      rw [hl, List.getLast?_append_of_ne_nil _ hname] at hch
      exact Naming.isSpace_wordChar (hword ch (List.mem_of_getLast? hch))

/-- A text that a macro guards. -/
theorem text_of_guard {name : String} (hguard : c.guard = some name) (hname : name ≠ "")
    (hword : ∀ ch ∈ name.toList, Naming.isWordChar ch = true) :
    ∃ middle, c.text = c.top.text ++ ("#ifndef " ++ name ++ "\n#define " ++ name ++ "\n") ++
      middle ++ ("#endif /* " ++ name ++ " */\n") := by
  have hname' : name.toList ≠ [] := by simpa using hname
  have hbare (before after : String)
      (hbefore : '\n' ∉ before.toList ∧ ∃ ch, before.toList.head? = some ch ∧ Text.isSpace ch = false)
      (hafter : '\n' ∉ after.toList ∧
        ∀ ch, after.toList.getLast? = some ch → Text.isSpace ch = false) :
      Tree.IsBare (before ++ name ++ after).toList := by
    rw [String.toList_append, String.toList_append]
    exact bare_line hname' hword hbefore hafter
  have hifndef : Tree.IsBare ("#ifndef " ++ name).toList := by
    rw [← String.append_empty (s := "#ifndef " ++ name)]
    exact hbare _ _ ⟨by decide, '#', rfl, by decide⟩ ⟨by decide, nofun⟩
  have hdefine : Tree.IsBare ("#define " ++ name).toList := by
    rw [← String.append_empty (s := "#define " ++ name)]
    exact hbare _ _ ⟨by decide, '#', rfl, by decide⟩ ⟨by decide, nofun⟩
  have hendif : Tree.IsBare ("#endif /* " ++ name ++ " */").toList :=
    hbare _ _ ⟨by decide, '#', rfl, by decide⟩ ⟨by decide, by rintro _ ⟨⟩; decide⟩
  have htop := c.depth_top
  have hopened : (Action.opened name c.top).text =
      c.top.text ++ ("#ifndef " ++ name) ++ "\n" ++ ("#define " ++ name) ++ "\n" ++ "\n" := by
    rw [Action.opened, Buffer.emit_empty (by exact htop), Buffer.emit_bare (by exact htop) hdefine,
      Buffer.emit_bare htop hifndef]
  have hbody : ((Action.opened name c.top).emit c.body).text = (Action.opened name c.top).text ++
      Buffer.blockOf c.top.depth c.top.unit c.body ++ "\n" := rfl
  refine ⟨"\n" ++ Buffer.blockOf c.top.depth c.top.unit c.body ++ "\n" ++ "\n", ?_⟩
  rw [text, buffer, hguard]
  dsimp only [Action.framed]
  rw [Action.closed, Buffer.emit_bare (by exact htop) hendif, Buffer.emit_empty (by exact htop), hbody,
    hopened]
  have hdefine' : "\n#define " = "\n" ++ "#define " := rfl
  have hendif' : " */\n" = " */" ++ "\n" := rfl
  simp only [hdefine', hendif', String.append_assoc]

end Composition

/-- **A guard that is named after the output stands around the text**, below the
    comment at the top.  Its name is in capitals, digits and underscores; it is an
    identifier exactly if a letter stands before the first digit of the file name. -/
theorem auto_guard_wraps {console : Console} {library : TemplateLibrary} {arguments : List String}
    {files : Files} {a : Arguments} {output : String} (ha : Arguments.ofList arguments = .ok a)
    (hauto : a.autoGuard = true) (ho : a.output = some output)
    (hletter : ∃ ch ∈ (Path.ofString output).name.toList, ch.isAlpha = true)
    (hrun : (run console library arguments files).ending = .completed 0) :
    let file := (Path.ofString output).name
    let name := Naming.macroCase file
    (∃ text config lineEnding middle, (a.generate library files).outcome = .ok (text, config) ∧
      config.lineEnding = .text lineEnding ∧
      (run console library arguments files).files.read (Path.ofString output) =
        .ok (Source.bytes text lineEnding) ∧
      text = topText config ++ ("#ifndef " ++ name ++ "\n#define " ++ name ++ "\n") ++ middle ++
        ("#endif /* " ++ name ++ " */\n")) ∧
    name ≠ "" ∧ (∀ ch ∈ name.toList, Naming.isMacroChar ch = true) ∧
    (Naming.isIdentifier name = true ↔
      ((Naming.snakeCase file).toList.find? Char.isAlphanum).any Char.isAlpha = true) := by
  intro file name
  obtain ⟨letter, hletter, halpha⟩ := hletter
  have hname : name ≠ "" := Naming.macroCase_ne hletter halpha
  have hchars : ∀ ch ∈ name.toList, Naming.isMacroChar ch = true :=
    fun ch hch => Naming.macroChar_macroCase hch
  refine ⟨?_, hname, hchars, by rw [Naming.isIdentifier_macroCase]⟩
  have hne : output ≠ "" := by
    rintro rfl
    cases hletter
  have hfilled : filled? a.output = some output := by rw [ho, filled?_some hne]
  rw [run, ha] at hrun ⊢
  dsimp only at hrun ⊢
  rcases a.run_cases console library files with ⟨text, config, _, hdoubts, hgenerate, hdeliver⟩ | ⟨hfail, _⟩
  · obtain ⟨hfiles, -⟩ := Arguments.run_of_deliver hdoubts hgenerate hdeliver
    obtain ⟨hsettings, _, hcompose⟩ := generate_ok.1 hgenerate
    obtain ⟨c, hc, rfl⟩ := compose_ok.1 hcompose
    obtain ⟨_, hguardName, hguard⟩ := hc.guard
    rw [Arguments.guardName_of_autoGuard ha hauto hfilled] at hguardName
    cases hguardName
    have hsome : c.guard = some name := by rw [hguard, filled?_some hname]
    obtain ⟨middle, htext⟩ := c.text_of_guard hsome hname
      fun ch hch => Naming.wordChar_of_macroChar (hchars ch hch)
    rw [hc.text_top (hasKinds_of_settings hsettings)] at htext
    obtain ⟨lineEnding, hending, hwritten⟩ := Arguments.deliver_ok hfilled hdeliver
    refine ⟨c.text, config, lineEnding, middle, hgenerate, hending, ?_, htext⟩
    rw [hfiles]
    rcases hwritten with ⟨hread, hsame, _⟩ | ⟨_, _, hwrite, _⟩
    · rw [hsame, hread]
    · exact (Files.read_write hwrite).1
  · exact absurd hrun hfail

/-- A header whose guard is a name in capitals. -/
theorem auto_guard_wraps_my_state :
    let files : Files := ⟨[], [(["t.j2"], .file (bytesOfText "int x;\n"))]⟩
    let arguments := ["t.j2", "--auto-guard", "-o", "my-state.h"]
    let a : Arguments := ⟨"t.j2", none, some "my-state.h", none, none, none, true, false⟩
    let name := "MY_STATE_H"
    let after := run Terminal.console Template.library arguments files
    Arguments.ofList arguments = .ok a ∧ after.ending = .completed 0 ∧
      (∃ text config lineEnding middle,
        (a.generate Template.library files).outcome = .ok (text, config) ∧
        config.lineEnding = .text lineEnding ∧
        after.files.read (Path.ofString "my-state.h") = .ok (Source.bytes text lineEnding) ∧
        text = topText config ++ ("#ifndef " ++ name ++ "\n#define " ++ name ++ "\n") ++ middle ++
          ("#endif /* " ++ name ++ " */\n")) ∧
      Naming.isIdentifier name = true := by
  intro files arguments a name after
  have ha : Arguments.ofList arguments = .ok a := by decide +kernel
  have hrun : after.ending = .completed 0 := by decide +kernel
  have hname : Naming.macroCase (Path.ofString "my-state.h").name = name := by decide +kernel
  obtain ⟨hwraps, _, _, hidentifier⟩ :=
    auto_guard_wraps ha rfl rfl ⟨'m', by decide +kernel, rfl⟩ hrun
  rw [hname] at hwraps hidentifier
  exact ⟨ha, hrun, hwraps, hidentifier.2 (by decide +kernel)⟩

/-- A header whose name starts with a digit: what stands behind the directive is no
    identifier. -/
theorem auto_guard_starts_with_digit :
    let files : Files := ⟨[], [(["t.j2"], .file (bytesOfText "int x;\n"))]⟩
    let after := run Terminal.console Template.library ["t.j2", "--auto-guard", "-o", "3d.h"] files
    let text := "#ifndef 3D_H\n#define 3D_H\n\nint x;\n\n#endif /* 3D_H */\n"
    after.ending = .completed 0 ∧
      after.files.read (Path.ofString "3d.h") = .ok (bytesOfText text) ∧
      ∀ name, Naming.isIdentifier name = true → ¬ ("#ifndef " ++ name).toList <+: text.toList := by
  refine ⟨by decide +kernel, by decide +kernel, fun name hname hprefix => ?_⟩
  rw [String.toList_append] at hprefix
  have hrest : name.toList <+: "3D_H\n#define 3D_H\n\nint x;\n\n#endif /* 3D_H */\n".toList :=
    (List.prefix_append_right_inj "#ifndef ".toList).1 hprefix
  rw [Naming.isIdentifier, Bool.and_eq_true] at hname
  cases hlist : name.toList with
  | nil =>
    rw [hlist] at hname
    cases hname.2
  | cons first rest =>
    rw [hlist] at hname hrest
    obtain ⟨tail, htail⟩ := hrest
    cases (List.cons.inj htail).1
    cases hname.2

end CommandLine

end CxxWriter
