/-
  The unit of indentation is a matter of rendering.

  * `Retab unit t u`: `t` is `u` with `unit` for every tab, and a tab of `u` is
    always followed by something on its line;
  * `retab_reindent`, `retab_leadLines`: what the lines of a block become, and
    those of a comment;
  * `Buffer.Retab unit b₁ b₂`: the same for the texts of buffers, at the same
    depth, which keeps up through all operations (`retabLaw`);
  * `unit_replaces_tabs`: so a script comes to the same with any unit, but for
    the tabs.
-/
import CxxWriter.Proofs.Buffer
import CxxWriter.Proofs.Twin

namespace CxxWriter

open Block Text

/-! ## Texts -/

namespace Text

/-- A text with `unit` for every tab. -/
def untab (unit t : List Char) : List Char := t.flatMap fun c => if c = '\t' then unit else [c]

/-- Is a text another one with `unit` for every tab, which has a tab only where
    something follows on the line? -/
inductive Retab (unit : List Char) : List Char → List Char → Prop
  | nil : Retab unit [] []
  | char {c t u} : c ≠ '\t' → Retab unit t u → Retab unit (c :: t) (c :: u)
  | tab {c t u} : u.head? = some c → c ≠ '\n' → Retab unit t u → Retab unit (unit ++ t) ('\t' :: u)

namespace Retab

variable {unit t u t' u' : List Char}

theorem eq (h : Retab unit t u) : t = untab unit u := by
  induction h with
  | nil => rfl
  | char hc _ ih => rw [ih]; simp [untab, hc]
  | tab _ _ _ ih => rw [ih]; simp [untab]

theorem of_plain (h : '\t' ∉ t) : Retab unit t t := by
  induction t with
  | nil => exact .nil
  | cons c t ih =>
    obtain ⟨hc, ht⟩ := List.ne_and_not_mem_of_not_mem_cons h
    exact .char (Ne.symm hc) (ih ht)

theorem append (h : Retab unit t u) (h' : Retab unit t' u') : Retab unit (t ++ t') (u ++ u') := by
  induction h with
  | nil => exact h'
  | char hc _ ih => exact .char hc ih
  | @tab c _ u hd hc _ ih =>
    have hd : (u ++ u').head? = some c := by rw [List.head?_append, hd]; rfl
    rw [List.append_assoc]
    exact .tab hd hc ih

/-- The units of an indentation with something behind them. -/
theorem copies (n : Nat) {c : Char} (hd : t.head? = some c) (hc : c ≠ '\n') (ht : '\t' ∉ t) :
    Retab unit (copies n unit ++ t) (Block.copies n ['\t'] ++ t) := by
  induction n with
  | zero => exact of_plain ht
  | succ n ih =>
    have hcopies (l : List Char) : Block.copies (n + 1) l = l ++ Block.copies n l := by
      simp [Block.copies, List.replicate_succ]
    rw [hcopies, hcopies, List.append_assoc, List.append_assoc]
    cases n with
    | zero => exact .tab hd hc ih
    | succ n => exact .tab (c := '\t') (by simp [Block.copies, List.replicate_succ]) (by decide) ih

/-- What ends a text is no tab. -/
theorem getLast?_eq (h : Retab unit t u) : t.getLast? = u.getLast? := by
  induction h with
  | nil => rfl
  | char _ _ ih => rw [List.getLast?_cons, List.getLast?_cons, ih]
  | @tab c t u hd _ _ ih =>
    have hu : u.getLast?.isSome := by
      cases u with
      | nil => cases hd
      | cons a u => simp
    obtain ⟨a, ha⟩ := Option.isSome_iff_exists.1 hu
    rw [List.getLast?_append, ih, List.getLast?_cons, ha]
    rfl

theorem eq_nil_iff (h : Retab unit t u) : t = [] ↔ u = [] := by
  rw [← List.getLast?_eq_none_iff, h.getLast?_eq, List.getLast?_eq_none_iff]

/-- Dropping line feeds at the end. -/
theorem trimEnd (h : Retab unit t u) :
    Retab unit (trimEnd (· == '\n') t) (Text.trimEnd (· == '\n') u) := by
  induction h with
  | nil => exact .nil
  | @char c t u hc _ ih =>
    rw [← List.singleton_append, trimEnd_append, ← List.singleton_append (l := u), trimEnd_append]
    by_cases hu : Text.trimEnd (· == '\n') u = []
    · rw [if_pos hu, if_pos (ih.eq_nil_iff.2 hu)]
      exact of_plain fun hm => hc (List.mem_singleton.1 (mem_of_mem_trimEnd hm)).symm
    · rw [if_neg hu, if_neg fun ht => hu (ih.eq_nil_iff.1 ht)]
      exact .char hc ih
  | @tab c t u hd hc _ ih =>
    -- a character follows that is kept, and so is the tab in front of it
    obtain ⟨v, rfl⟩ : ∃ v, u = c :: v := by
      cases u with
      | nil => cases hd
      | cons a v => cases hd; exact ⟨v, rfl⟩
    have hu : Text.trimEnd (· == '\n') (c :: v) = c :: Text.trimEnd (· == '\n') v :=
      trimEnd_cons (by simpa using hc) v
    have hne : Text.trimEnd (· == '\n') (c :: v) ≠ [] := by
      rw [hu]
      exact List.cons_ne_nil c _
    have hhead : (Text.trimEnd (· == '\n') (c :: v)).head? = some c := by rw [hu, List.head?_cons]
    rw [trimEnd_append, if_neg fun ht => hne (ih.eq_nil_iff.1 ht), trimEnd_cons (a := '\t') (by decide)]
    exact .tab hhead hc ih

theorem unlines {f g : List Char → List Char} {ls : List (List Char)}
    (h : ∀ l ∈ ls, Retab unit (f l) (g l)) : Retab unit (unlines (ls.map f)) (Text.unlines (ls.map g)) := by
  induction ls with
  | nil => exact .nil
  | cons l ls ih =>
    have hl := h l List.mem_cons_self
    have ih := ih fun m hm => h m (List.mem_cons_of_mem l hm)
    cases ls with
    | nil => exact hl
    | cons m ls => exact hl.append (.char (by decide) ih)

end Retab

end Text

/-! ## Blocks -/

namespace Block

variable {unit : List Char}

/-- A line behind an indentation, without white space at its end. -/
theorem retab_trimmed (hu : IsMargin unit) (n : Nat) {l : List Char} (ht : '\t' ∉ l) (hn : '\n' ∉ l) :
    Retab unit (trimEnd isSpace (copies n unit ++ l)) (trimEnd isSpace (copies n ['\t'] ++ l)) := by
  have hnil {u : List Char} (hu : IsMargin u) : trimEnd isSpace (copies n u) = [] :=
    trimEnd_eq_nil.2 fun c hc => (hu.copies n c hc).1
  rw [trimEnd_append, trimEnd_append]
  split
  · rw [hnil hu, hnil (by decide)]
    exact .nil
  · next h =>
    cases hl : trimEnd isSpace l with
    | nil => exact absurd hl h
    | cons c r =>
      have hin : ∀ a ∈ c :: r, a ∈ l := fun a ha => mem_of_mem_trimEnd (hl ▸ ha)
      exact .copies n (c := c) rfl (fun e => hn (hin _ (e ▸ List.mem_cons_self))) fun ha =>
        ht (hin _ ha)

/-- Nesting by spaces becomes nesting by units; how deep it is and what follows
    do not depend on the unit. -/
theorem exists_converted (l : List Char) :
    ∃ n r, (∀ unit, convertSpaces unit l = copies n unit ++ r) ∧ ∀ c ∈ r, c ∈ l := by
  unfold convertSpaces
  dsimp only
  split
  · exact ⟨_, _, fun _ => rfl, fun _ => List.mem_of_mem_drop⟩
  · exact ⟨0, l, fun _ => rfl, fun _ => id⟩

theorem retab_formatLine (hu : IsMargin unit) (n : Nat) {l : List Char} (ht : '\t' ∉ l) (hn : '\n' ∉ l) :
    Retab unit (formatLine (copies n unit) unit l) (formatLine (copies n ['\t']) ['\t'] l) := by
  obtain ⟨k, r, hr, hin⟩ := exists_converted l
  rw [formatLine, formatLine, leadLine, leadLine, hr, hr, ← List.append_assoc, ← List.append_assoc,
    ← copies_add, ← copies_add]
  exact retab_trimmed hu _ (fun h => ht (hin _ h)) fun h => hn (hin _ h)

theorem retab_reindent (hu : IsMargin unit) (n : Nat) {t : List Char} (ht : '\t' ∉ t) :
    Retab unit (reindent (copies n unit) unit t) (reindent (copies n ['\t']) ['\t'] t) := by
  rw [reindent_eq _ hu.newline, reindent_eq _ (by decide)]
  exact .unlines fun l hl =>
    retab_formatLine hu n (fun h => ht (mem_of_mem_line hl h)) (not_mem_of_mem_lines hl)

theorem retab_format (hu : IsMargin unit) (n : Nat) {t : List Char} (ht : '\t' ∉ t) :
    Retab unit (format (copies n unit) unit t) (format (copies n ['\t']) ['\t'] t) :=
  retab_reindent hu n fun h => ht (mem_unindent h (by decide))

/-- The lines of a comment. -/
theorem retab_leadLines (hu : IsMargin unit) (n : Nat) {t : List Char} (ht : '\t' ∉ t) :
    Retab unit (leadLines (copies n unit ++ [' ', '*', ' ']) (unindent t))
      (leadLines (copies n ['\t'] ++ [' ', '*', ' ']) (unindent t)) := by
  refine .unlines fun l hl => ?_
  have htab : '\t' ∉ l := fun h => ht (mem_unindent (mem_of_mem_line hl h) (by decide))
  rw [leadLine, leadLine, List.append_assoc, List.append_assoc]
  exact retab_trimmed hu n (by simp [htab]) (by simp [not_mem_of_mem_lines hl])

end Block

/-! ## Buffers -/

namespace Buffer

/-- Are two buffers at the same depth, the first with a unit, the second with
    a tab, and with texts that differ by that? -/
structure Retab (unit : String) (b₁ b₂ : Buffer) : Prop where
  left : b₁.unit = unit
  right : b₂.unit = "\t"
  depth : b₁.depth = b₂.depth
  text : Text.Retab unit.toList b₁.text.toList b₂.text.toList

namespace Retab

variable {unit : String} {b₁ b₂ : Buffer}

theorem line (h : Retab unit b₁ b₂) : b₁.atLineStart = b₂.atLineStart := by
  have he : b₁.text.isEmpty = b₂.text.isEmpty := by
    rw [Bool.eq_iff_iff, String.isEmpty_iff, String.isEmpty_iff, ← String.toList_eq_nil_iff,
      h.text.eq_nil_iff, String.toList_eq_nil_iff]
  rw [atLineStart_eq, atLineStart_eq, startsLine, startsLine, endsLine, endsLine, h.text.getLast?_eq,
    he]

theorem push (h : Retab unit b₁ b₂) {x y : String} (hxy : Text.Retab unit.toList x.toList y.toList) :
    Retab unit (b₁.push x) (b₂.push y) := by
  refine ⟨h.left, h.right, h.depth, ?_⟩
  rw [text_push, text_push, String.toList_append, String.toList_append]
  exact h.text.append hxy

theorem emitRaw (h : Retab unit b₁ b₂) {t : String} (ht : '\t' ∉ t.toList) :
    Retab unit (b₁.emitRaw t) (b₂.emitRaw t) :=
  h.push (.of_plain ht)

theorem newline (h : Retab unit b₁ b₂) : Retab unit b₁.newline b₂.newline := h.emitRaw (by decide)

/-- The indentations of both. -/
theorem indentation (h : Retab unit b₁ b₂) :
    b₁.indentation.toList = copies b₁.depth unit.toList ∧
      b₂.indentation.toList = copies b₁.depth ['\t'] := by
  rw [Buffer.indentation, Buffer.indentation, String.toList_ofList, String.toList_ofList, h.left, h.right, h.depth]
  exact ⟨rfl, rfl⟩

theorem emitOpen (h : Retab unit b₁ b₂) (hu : IsMargin unit.toList) {t : String} (ht : '\t' ∉ t.toList) :
    Retab unit (b₁.emitOpen t) (b₂.emitOpen t) := by
  refine h.push ?_
  rw [formatted, formatted, String.toList_ofList, String.toList_ofList, h.indentation.1,
    h.indentation.2, h.left, h.right]
  exact retab_format hu _ ht

theorem emitComment (h : Retab unit b₁ b₂) (hu : IsMargin unit.toList) {t : String}
    (ht : '\t' ∉ t.toList) : Retab unit (b₁.emitComment t) (b₂.emitComment t) := by
  obtain ⟨h₁, h₂⟩ := h.indentation
  have hbody := (h.emitOpen hu (t := "/*") (by decide)).newline.push
    (x := String.ofList (leadLines (b₁.indentation ++ " * ").toList (unindent t.toList)))
    (y := String.ofList (leadLines (b₂.indentation ++ " * ").toList (unindent t.toList))) (by
      rw [String.toList_ofList, String.toList_ofList, String.toList_append, String.toList_append, h₁, h₂]
      exact retab_leadLines hu _ ht)
  refine (hbody.newline.push (x := b₁.indentation ++ " */") (y := b₂.indentation ++ " */") ?_).newline
  rw [String.toList_append, String.toList_append, h₁, h₂]
  exact .copies _ (c := ' ') rfl (by decide) (by decide)

theorem memberValue (h : Retab unit b₁ b₂) (hu : IsMargin unit.toList) {t : String}
    (ht : '\t' ∉ t.toList) :
    Text.Retab unit.toList (Action.memberValue b₁ t).toList (Action.memberValue b₂ t).toList := by
  have hblock : '\t' ∉ unindent t.toList := fun hm => ht (mem_unindent hm (by decide))
  have hfirst : '\t' ∉ (unindent t.toList).takeWhile (· != '\n') := fun hm =>
    hblock ((List.takeWhile_prefix _).subset hm)
  unfold Action.memberValue
  dsimp only
  split
  · rw [String.toList_ofList]
    exact .of_plain hfirst
  · rw [String.toList_ofList, String.toList_ofList, h.indentation.1, h.indentation.2, h.left, h.right]
    refine (Text.Retab.of_plain hfirst).append (.char (by decide) (retab_reindent hu _ fun hm => ?_))
    exact hblock ((List.dropWhile_suffix _).subset (List.mem_of_mem_drop hm))

theorem strip (h : Retab unit b₁ b₂) : Retab unit b₁.stripNewlines b₂.stripNewlines where
  left := by rw [stripNewlines_unit, h.left]
  right := by rw [stripNewlines_unit, h.right]
  depth := by rw [stripNewlines_depth, stripNewlines_depth, h.depth]
  text := by
    rw [stripNewlines_text, stripNewlines_text, stripped, stripped, String.toList_ofList,
      String.toList_ofList]
    exact h.text.trimEnd

theorem joined (h : Retab unit b₁ b₂) : Retab unit b₁.joined b₂.joined where
  left := by rw [joined_unit, h.left]
  right := by rw [joined_unit, h.right]
  depth := by rw [joined_depth, joined_depth, h.depth]
  text := by
    rw [joined_text, joined_text]
    exact h.text

end Retab

/-- Are two buffers the same to look at, but for `unit` in the place of tabs? -/
structure Untabbed (unit : String) (b₁ b₂ : Buffer) : Prop where
  depth : b₁.depth = b₂.depth
  line : b₁.atLineStart = b₂.atLineStart
  text : b₁.text.toList = untab unit.toList b₂.text.toList

theorem Retab.untabbed {unit : String} {b₁ b₂ : Buffer} (h : Retab unit b₁ b₂) : Untabbed unit b₁ b₂ :=
  ⟨h.depth, h.line, h.text.eq⟩

end Buffer

open Buffer (Untabbed)

/-! ## Trees -/

namespace Tree

variable {unit : String} {b₁ b₂ : Buffer}

theorem retab_writeOpening (h : Buffer.Retab unit b₁ b₂) (hu : IsMargin unit.toList) {opening : String}
    (ho : '\t' ∉ opening.toList) :
    Buffer.Retab unit (writeOpening opening b₁) (writeOpening opening b₂) := by
  unfold writeOpening
  rw [h.line]
  split
  · exact (h.emitOpen hu ho).newline
  · exact (h.emitRaw ho).newline

mutual

theorem retab_write (hu : IsMargin unit.toList) :
    ∀ (t : Tree), t.isWithin (· != '\t') = true → ∀ {b₁ b₂}, Buffer.Retab unit b₁ b₂ →
      Buffer.Retab unit (t.write b₁).buffer (t.write b₂).buffer
  | .leaf v, hv, b₁, b₂, h => by
    have hq : ∀ c, isSpace c = false → (c != '\t') = true := by
      intro c hc
      rw [bne_iff_ne]
      rintro rfl
      cases hc
    simp only [write]
    cases hf : v.fragment? with
    | none => exact h
    | some t =>
      have hw : Within (· != '\t') t := within_fragment hq hv hf
      exact h.emitOpen hu hw.tab
  | .node opening closing children, ht, b₁, b₂, h => by
    simp only [isWithin, Bool.and_eq_true] at ht
    have ho := retab_writeOpening h hu (Within.tab (List.all_eq_true.1 ht.1.1))
    have he : Buffer.Retab unit (writeOpening opening b₁).enter (writeOpening opening b₂).enter :=
      ⟨ho.left, ho.right, congrArg (· + 1) ho.depth, ho.text⟩
    have hc := retab_writeItems hu children ht.2 he
    have hl : Buffer.Retab unit (writeItems children (writeOpening opening b₁).enter).buffer.leave
        (writeItems children (writeOpening opening b₂).enter).buffer.leave :=
      ⟨hc.left, hc.right, congrArg (· - 1) hc.depth, hc.text⟩
    simp only [write, writeItems_rejected]
    cases refusals? children with
    | some v => exact hl
    | none => exact hl.emitOpen hu (Within.tab (List.all_eq_true.1 ht.1.2))

theorem retab_writeItems (hu : IsMargin unit.toList) :
    ∀ (ts : List Tree), areWithin (· != '\t') ts = true → ∀ {b₁ b₂}, Buffer.Retab unit b₁ b₂ →
      Buffer.Retab unit (writeItems ts b₁).buffer (writeItems ts b₂).buffer
  | [], _, b₁, b₂, h => h
  | t :: ts, ht, b₁, b₂, h => by
    simp only [areWithin, Bool.and_eq_true] at ht
    have hfirst := retab_write hu t ht.1 h
    simp only [writeItems, write_rejected]
    cases t.refusal? with
    | some v => exact hfirst
    | none =>
      refine retab_writeItems hu ts ht.2 (Buffer.Retab.newline ?_)
      cases ts.isEmpty
      · exact hfirst.emitRaw (by decide)
      · exact hfirst

end

end Tree

/-! ## Operations -/

/-- The relation keeps up through everything that writes. -/
theorem retabLaw {unit : String} (hu : IsMargin unit.toList) :
    TwinLaw (Buffer.Retab unit) (· != '\t') where
  chars c hc := by simpa using hc
  emitOpen h ht := h.emitOpen hu ht.tab
  emitRaw h ht := h.emitRaw ht.tab
  comment h ht := h.emitComment hu ht.tab
  member {b₁ b₂ lead name value trail} h hl hn hv ht := by
    have hlead : ∃ c, lead.toList.head? = some c ∧ c ≠ '\n' ∧ '\t' ∉ lead.toList := by
      rcases hl with rfl | rfl
      · exact ⟨':', rfl, by decide, by decide⟩
      · exact ⟨' ', rfl, by decide, by decide⟩
    obtain ⟨c, hc, hne, hlead⟩ := hlead
    obtain ⟨h₁, h₂⟩ := h.indentation
    refine h.push ?_
    simp only [String.toList_append, h₁, h₂]
    refine ((((Text.Retab.copies _ hc hne hlead).append (.of_plain hn.tab)).append
      (.of_plain (by decide))).append (h.memberValue hu hv.tab)).append (.of_plain (by decide)) |>.append
      (.of_plain ht.tab)
  tree h ht := Tree.retab_write hu _ ht h
  strip h := h.strip
  joined h := h.joined
  enter h := ⟨h.left, h.right, congrArg (· + 1) h.depth, h.text⟩
  leave h := ⟨h.left, h.right, congrArg (· - 1) h.depth, h.text⟩

/-- **The unit of indentation only matters where it is written.**  Given texts
    without tabs, and with any unit of spaces and tabs, operations end as they
    do with a tab for a unit: with the same errors, and where something is
    noted, at the same depth and at the start of a line or not.  The texts are
    those written with a tab, with the unit for every tab.  This holds of a body
    that ends at its first error and of a script that goes on after errors.
    Settings, files and logs may differ, as the unit may come from them. -/
theorem unit_replaces_tabs {unit : String} (hu : ∀ c ∈ unit.toList, c = ' ' ∨ c = '\t')
    (library : TemplateLibrary) (config config' : Config) (files files' : Files) (log log' : Log)
    {ops : List Op} (hp : Op.allEverywhere (Op.isSteady (· != '\t')) ops = true) :
    let s₁ := Session.start library config unit files log
    let s₂ := Session.start library config' "\t" files' log'
    (((Op.performAll ops).apply s₁).1 = ((Op.performAll ops).apply s₂).1 ∧
      Untabbed unit ((Op.performAll ops).apply s₁).2.buffer ((Op.performAll ops).apply s₂).2.buffer ∧
      List.Forall₂ (Step.Twins (Untabbed unit)) ((Op.performAll ops).apply s₁).2.trace
        ((Op.performAll ops).apply s₂).2.trace) ∧
    List.Forall₂ (List.Forall₂ (Step.Twins (Untabbed unit))) (s₁.play ops).notes (s₂.play ops).notes ∧
    Untabbed unit (s₁.play ops).session.buffer (s₂.play ops).session.buffer := by
  intro s₁ s₂
  have hlaw := retabLaw (.of_spaces hu)
  have hs : Twins (Buffer.Retab unit) (· != '\t') s₁ s₂ :=
    ⟨⟨rfl, rfl, rfl, .nil⟩, rfl, rfl, (fun _ _ hc => by cases hc), .nil⟩
  obtain ⟨he, ht⟩ := hlaw.both.2 ops hp s₁ s₂ hs
  obtain ⟨hn, hb⟩ := hlaw.play hp hs
  refine ⟨⟨he, ht.buffer.untabbed, ?_⟩, ?_, hb.untabbed⟩
  · exact ht.trace.imp fun _ _ h => h.imp fun _ _ => Buffer.Retab.untabbed
  · exact hn.imp fun _ _ h => h.imp fun _ _ h => h.imp fun _ _ => Buffer.Retab.untabbed

/-- A function and a comment without a unit, and after them an error. -/
theorem unit_replaces_tabs_empty :
    let ops : List Op := [
      .function (.text "int f()") [.comment (.text "a\n  b"), .noted "r" (.emit (.text "return 0;\n   x"))],
      .noted "e" (.indented [.emit .null] .null)]
    Op.allEverywhere (Op.isSteady (· != '\t')) ops = true ∧
      Untabbed "" ((Session.start .empty Config.default "" Files.empty []).play ops).session.buffer
        ((Session.start .empty Config.default "\t" Files.empty []).play ops).session.buffer := by
  intro ops
  have hu : ∀ c ∈ "".toList, c = ' ' ∨ c = '\t' := by simp
  have hp : Op.allEverywhere (Op.isSteady (· != '\t')) ops = true := by decide
  exact ⟨hp, (unit_replaces_tabs hu _ _ _ _ _ _ _ hp).2.2⟩

end CxxWriter
