/-
  Output without white space at the ends of lines.

  * `IsTrimmed`: a line that does not end in white space.  All pieces but the
    initial values of members consist of such lines (`Piece.isTidy`);
  * `Buffer.IsTidy`: the text consists of such lines with a line feed after each;
  * `Tidies a`: an action that ends well leaves a tidy buffer tidy;
  * `Op.endings` are the buffers at the ends of an operation and of those in it;
  * `no_space_at_line_ends`: they are all tidy.
-/
import CxxWriter.Proofs.Output

namespace CxxWriter

open Block Text

/-! ## Lines -/

/-- Does a line not end in white space? -/
def Text.IsTrimmed (l : List Char) : Prop := ∀ c, l.getLast? = some c → isSpace c = false

/-- Are these lines, and do they not end in white space? -/
def Text.AreTidy (ls : List (List Char)) : Prop := ∀ l ∈ ls, '\n' ∉ l ∧ IsTrimmed l

namespace Text

theorem isTrimmed_trimEnd (l : List Char) : IsTrimmed (trimEnd isSpace l) := fun _ =>
  getLast?_trimEnd (p := isSpace)

theorem isTrimmed_append {e : List Char} (he : IsTrimmed e) (hne : e ≠ []) (l : List Char) :
    IsTrimmed (l ++ e) := by
  intro c hc
  rw [List.getLast?_append_of_ne_nil _ hne] at hc
  exact he c hc

theorem isTrimmed_singleton {c : Char} (hc : isSpace c = false) : IsTrimmed [c] := by
  rintro _ ⟨⟩
  exact hc

theorem areTidy_append {ls ms : List (List Char)} : AreTidy (ls ++ ms) ↔ AreTidy ls ∧ AreTidy ms :=
  List.forall_mem_append

/-- A text that ends in ink may be written behind the last line. -/
theorem AreTidy.endWith {ls : List (List Char)} (h : AreTidy ls) {e : List Char} (hn : '\n' ∉ e)
    (he : IsTrimmed e) (hne : e ≠ []) : AreTidy (endWith e ls) := by
  intro l hl
  rcases mem_endWith hl with hl | ⟨m, hm, rfl⟩
  · exact h l hl
  · refine ⟨?_, isTrimmed_append he hne m⟩
    rw [List.mem_append, not_or]
    exact ⟨(h m hm).1, hn⟩

end Text

/-! ## Pieces -/

theorem areTidy_blockLines {unit : List Char} (hu : '\n' ∉ unit) (depth : Nat) (t : List Char) :
    AreTidy (Buffer.blockLines depth unit t) := by
  intro l hl
  refine ⟨Buffer.newline_of_mem_blockLines hu hl, ?_⟩
  obtain ⟨m, -, rfl⟩ := List.mem_map.1 hl
  exact isTrimmed_trimEnd _

namespace Tree

mutual

theorem areTidy_layout (t : Tree) (depth : Nat) {unit : List Char} (hu : '\n' ∉ unit) :
    AreTidy (t.layout depth unit) := by
  match t with
  | .leaf v =>
    rw [layout]
    exact areTidy_blockLines hu depth _
  | .node opening closing children =>
    rw [layout, areTidy_append, areTidy_append]
    exact ⟨⟨areTidy_blockLines hu depth _, areTidy_layoutItems children (depth + 1) hu⟩,
      areTidy_blockLines hu depth _⟩

theorem areTidy_layoutItems (ts : List Tree) (depth : Nat) {unit : List Char} (hu : '\n' ∉ unit) :
    AreTidy (layoutItems depth unit ts) := by
  match ts with
  | [] => exact fun _ h => absurd h List.not_mem_nil
  | t :: ts =>
    have ht := areTidy_layout t depth hu
    rw [layoutItems, areTidy_append]
    refine ⟨?_, areTidy_layoutItems ts depth hu⟩
    split
    · exact ht
    · rw [withComma_eq]
      exact ht.endWith (by decide) (isTrimmed_singleton (by decide)) (by simp)

end

end Tree

/-- Does a piece end its lines with ink?  The value of a member is not looked
    at, and a tree has to stand between brackets. -/
def Piece.IsTidy : Piece → Prop
  | .member .. => False
  | .assignment _ opening _ _ => ∃ b : Brackets, opening = b.opening
  | _ => True

theorem Piece.IsTidy.lines {p : Piece} (hp : p.IsTidy) {unit : List Char} (hu : '\n' ∉ unit)
    (depth : Nat) : AreTidy (p.lines depth unit) := by
  have hcopies : '\n' ∉ copies depth unit := fun h => hu (mem_of_mem_copies h)
  cases p with
  | gap =>
    intro l hl
    rw [List.mem_singleton.1 hl]
    exact ⟨List.not_mem_nil, fun _ hc => by cases hc⟩
  | block t => exact areTidy_blockLines hu depth _
  | comment t =>
    rw [Piece.lines, areTidy_append, areTidy_append]
    refine ⟨⟨areTidy_blockLines hu depth _, ?_⟩, ?_⟩
    · intro l hl
      obtain ⟨m, hm, rfl⟩ := List.mem_map.1 hl
      exact ⟨newline_leadLine (by simp [hcopies]) (not_mem_of_mem_lines hm), isTrimmed_trimEnd _⟩
    · intro l hl
      rw [List.mem_singleton.1 hl]
      refine ⟨by simp [hcopies], isTrimmed_append ?_ (by simp) _⟩
      rintro _ ⟨⟩
      decide
  | member lead name value trail => exact hp.elim
  | assignment declaration opening closing children =>
    obtain ⟨b, rfl⟩ := hp
    have hopening : AreTidy (endWith (' ' :: b.opening.toList)
        (Buffer.blockLines depth unit (declaration ++ " =").toList)) := by
      refine (areTidy_blockLines hu depth _).endWith ?_ ?_ (by simp)
      · cases b <;> decide
      · cases b <;> (rintro _ ⟨⟩; decide)
    have hclosing : AreTidy (endWith [';'] (Buffer.blockLines depth unit closing.toList)) :=
      (areTidy_blockLines hu depth _).endWith (by decide) (isTrimmed_singleton (by decide)) (by simp)
    rw [Piece.lines, areTidy_append, areTidy_append]
    exact ⟨⟨hopening, Tree.areTidy_layoutItems children (depth + 1) hu⟩, hclosing⟩

/-! ## Buffers -/

/-- Is a text made of lines that do not end in white space, with a line feed
    after each one, and is the unit of indentation white space? -/
structure Buffer.IsTidy (b : Buffer) : Prop where
  unit : IsMargin b.unit.toList
  text : ∃ ls, b.text.toList = ended ls ∧ AreTidy ls

namespace Buffer.IsTidy

variable {b c : Buffer}

theorem append (h : b.IsTidy) (hunit : c.unit = b.unit) {ls : List (List Char)} (hls : AreTidy ls)
    (ht : c.text.toList = b.text.toList ++ ended ls) : c.IsTidy := by
  obtain ⟨ms, hms, htidy⟩ := h.text
  refine ⟨by rw [hunit]; exact h.unit, ms ++ ls, ?_, areTidy_append.2 ⟨htidy, hls⟩⟩
  rw [ht, hms, ended_append]

theorem congr (h : b.IsTidy) (hunit : c.unit = b.unit) (ht : c.text = b.text) : c.IsTidy :=
  ⟨by rw [hunit]; exact h.unit, by rw [ht]; exact h.text⟩

theorem line (h : b.IsTidy) : b.atLineStart = true := by
  obtain ⟨ls, hls, -⟩ := h.text
  rw [atLineStart_eq, startsLine, Bool.or_eq_true, String.isEmpty_iff, ← String.toList_eq_nil_iff,
    endsLine, beq_iff_eq, hls]
  rcases List.eq_nil_or_concat ls with rfl | ⟨ms, m, rfl⟩
  · exact .inl rfl
  · refine .inr ?_
    rw [List.concat_eq_append, ended_append]
    simp

theorem trimmed (h : b.IsTidy) {l : List Char} (hl : l ∈ lines b.text.toList) : IsTrimmed l := by
  obtain ⟨ls, hls, htidy⟩ := h.text
  rw [hls, lines_ended fun m hm => (htidy m hm).1] at hl
  rcases List.mem_append.1 hl with hl | hl
  · exact (htidy l hl).2
  · rw [List.mem_singleton.1 hl]
    exact fun _ hc => by cases hc

end Buffer.IsTidy

theorem Printed.isTidy {o : Outline} {r r' : Session} (h : Printed o r r') (hr : r.buffer.IsTidy)
    (ho : ∀ e ∈ o, e.2.IsTidy) : r'.buffer.IsTidy := by
  refine hr.append h.unit ?_ h.text
  intro l hl
  obtain ⟨e, he, hl⟩ := List.mem_flatMap.1 hl
  exact (ho e he).lines hr.unit.newline _ l hl

/-! ## Actions -/

namespace Action

variable {α β : Type}

/-- Does an action that ends well leave a tidy buffer tidy? -/
def Tidies (a : Action α) : Prop :=
  ∀ ⦃s x t⦄, s.buffer.IsTidy → a.apply s = (.ok x, t) → t.buffer.IsTidy

theorem Tidies.next {a : Action α} {f : α → Action β} (ha : Tidies a) (hf : ∀ x, Tidies (f x)) :
    Tidies (a >>= f) := by
  intro s y u hs hy
  obtain ⟨x, t, e, hy⟩ := apply_bind_iff.1 hy
  exact hf x (ha hs e) hy

theorem tidies_changeBuffer {f : Buffer → Buffer} (h : ∀ b : Buffer, b.IsTidy → (f b).IsTidy) :
    Tidies (changeBuffer f) := by
  rintro s _ _ hs ⟨⟩
  exact h _ hs

theorem tidies_of_buffer {a : Action α} (h : ∀ s, (a.apply s).2.buffer = s.buffer) : Tidies a := by
  intro s x t hs hx
  have hb := h s
  rw [hx] at hb
  rwa [hb]

theorem Prose.tidies {o : Outline} {a : Action α} (h : Prose o a) (ho : ∀ e ∈ o, e.2.IsTidy) :
    Tidies a := fun _ _ _ hs hx => (h.prints ⟨hs.line, hs.unit.newline⟩ hx).isTidy hs ho

theorem tidies_emitText (t : String) : Tidies (emitText t) :=
  (prose_emitText t).tidies fun _ he => by rw [List.mem_singleton.1 he]; exact trivial

theorem tidies_report (r : Reporting α) : Tidies (report r) := tidies_of_buffer fun _ => rfl

theorem tidies_enter : Tidies (changeBuffer (·.enter)) :=
  tidies_changeBuffer fun _ h => h.congr rfl rfl

theorem tidies_returnType (d : Declaration) : Tidies (returnType d) := by
  unfold returnType
  split
  · exact tidies_of_buffer fun _ => rfl
  · exact tidies_emitText _

theorem Tidies.indented {a : Action Unit} (ha : Tidies a) : Tidies (indented a) := by
  intro s x t hs hx
  rw [apply_indented] at hx
  have hin : ({ s with buffer := s.buffer.enter } : Session).buffer.IsTidy := hs.congr rfl rfl
  rcases e : a.apply { s with buffer := s.buffer.enter } with ⟨_ | y, u⟩
  · rw [e] at hx
    cases hx
  · rw [e] at hx
    cases hx
    exact (ha hin e).congr rfl rfl

theorem Tidies.noted (label : String) {a : Action Reply} (ha : Tidies a) : Tidies (noted label a) := by
  intro s x t hs hx
  rw [apply_noted] at hx
  rcases e : a.apply s with ⟨_ | y, u⟩
  · rw [e] at hx
    cases hx
  · rw [e] at hx
    have hu : u.buffer.IsTidy := ha hs e
    cases hx
    exact hu

theorem Tidies.silent {a : Action Unit} (ha : Tidies a) : Tidies (Op.silent a) :=
  ha.next fun _ => tidies_of_buffer fun _ => rfl

end Action

/-! ## Operations -/

namespace Op

open CxxWriter.Action

/-- Does an operation write whole lines, other than initial values of members? -/
def isTidying : Op → Bool
  | .constructor .. => false
  | op => op.isLined

mutual

/-- The buffers at the ends of an operation and of those in it. -/
def endings (op : Op) (s : Session) : List Buffer :=
  (match op with
    | .noted _ op => op.endings s
    | .indented body _ | .attempt body | .guarded _ body | .struct _ body | .typedefStruct _ body
    | .function _ body | .constructor _ _ body | .declareWith _ body | .nestedWith _ _ _ body
    | .initializer _ _ body =>
      match op.opening.apply s with
      | (.ok _, t) => allEndings body t
      | (.error _, _) => []
    | _ => []) ++ [(op.perform.apply s).2.buffer]

/-- The buffers at the ends of operations in order, up to the first that fails. -/
def allEndings : List Op → Session → List Buffer
  | [], _ => []
  | op :: ops, s =>
    op.endings s ++
      match op.perform.apply s with
      | (.ok _, t) => allEndings ops t
      | (.error _, _) => []

end

theorem endings_compound {op : Op} (h : op.isCompound = true) (s : Session) :
    op.endings s = (match op.opening.apply s with
      | (.ok _, t) => allEndings op.body t
      | (.error _, _) => []) ++ [(op.perform.apply s).2.buffer] := by
  cases op <;> first | rfl | cases h

theorem endings_simple {op : Op} (h : op.isSimple = true) (s : Session) :
    op.endings s = [(op.perform.apply s).2.buffer] := by
  cases op <;> first | rfl | cases h

theorem isLined_of_isTidying {op : Op} (h : op.isTidying = true) : op.isLined = true := by
  cases op <;> first | exact h | cases h

theorem isTidy_assignment {s t : Session} {declaration : String} {tree : Tree}
    (h : Printed (Outline.assignment declaration tree) s t) :
    ∀ e ∈ Outline.assignment declaration tree, e.2.IsTidy := by
  intro e he
  cases tree with
  | leaf v => cases he
  | node opening closing children =>
    obtain ⟨f, p, -, hr, -, ht, -⟩ := h.trees _ List.mem_cons_self
    obtain ⟨b, ts, heq⟩ := exists_tree hr
    rw [heq] at ht
    cases ht
    rw [List.mem_singleton.1 he]
    exact ⟨b, rfl⟩

/-- Operations without others in them write lines that end in ink. -/
theorem tidies_simple {op : Op} (hs : op.isSimple = true) (hp : op.isTidying = true) :
    Tidies op.perform := by
  intro s r t htidy hr
  have hprinted := prints_simple hs (isLined_of_isTidying hp) (.refl s)
    ⟨htidy.line, htidy.unit.newline⟩ hr
  refine hprinted.isTidy htidy ?_
  have hblocks (t : String) : ∀ e ∈ Outline.blocks [t], e.2.IsTidy := fun e he => by
    rw [List.mem_singleton.1 he]
    exact trivial
  cases op with
  | newline | comment =>
    intro e he
    rw [List.mem_singleton.1 he]
    exact trivial
  | emit | separator | includeHeader | define | defineString | declare | declareValue =>
    rw [outline]
    exact hblocks _
  | declareInitializer declaration handle => exact isTidy_assignment hprinted
  | noted | indented | guarded | struct | typedefStruct | function | nestedWith => cases hs
  | _ => first | exact fun _ he => absurd he List.not_mem_nil | cases hp

/-- So do operations around a body that does. -/
theorem tidies_compound {op : Op} (hc : op.isCompound = true) (hp : op.isTidying = true)
    (hb : Tidies (performAll op.body)) : Tidies op.perform := by
  cases op with
  | indented body reply => exact hb.indented.next fun _ => tidies_of_buffer fun _ => rfl
  | guarded name body =>
    refine .silent ((tidies_report _).next fun _ => ?_)
    exact (tidies_emitText _).next fun _ => (tidies_emitText _).next fun _ =>
      (tidies_emitText _).next fun _ => hb.next fun _ => (tidies_emitText _).next fun _ =>
      tidies_emitText _
  | struct name body =>
    refine .silent ((tidies_report _).next fun _ => ?_)
    exact (tidies_emitText _).next fun _ => hb.indented.next fun _ => tidies_emitText _
  | typedefStruct name body =>
    refine .silent ((tidies_emitText _).next fun _ => hb.indented.next fun _ => ?_)
    exact (tidies_report _).next fun _ => tidies_emitText _
  | function declaration body =>
    refine .silent ((tidies_report _).next fun d => (tidies_returnType d).next fun _ => ?_)
    exact (tidies_emitText _).next fun _ => hb.indented.next fun _ => (tidies_emitText _).next fun _ =>
      tidies_emitText _
  | nestedWith handle brackets child body =>
    refine Tidies.next (tidies_of_buffer (aside_placeOf handle).buffer) fun place => ?_
    refine Tidies.next (tidies_of_buffer (aside_beginNested place brackets).buffer) fun inner => ?_
    refine Tidies.next (tidies_of_buffer (aside_setHandle child inner).buffer) fun _ => hb.next fun _ => ?_
    exact .silent (tidies_of_buffer (aside_attachNested place inner).buffer)
  | attempt | constructor | declareWith | initializer => cases hp
  | _ => cases hc

/-- What operations do before their body leaves whole lines, too. -/
theorem tidies_opening {op : Op} (hc : op.isCompound = true) (hp : op.isTidying = true) :
    Tidies op.opening := by
  have hresult (e : Ending) : Tidies (pure e) := tidies_of_buffer fun _ => rfl
  cases op with
  | indented body reply => exact tidies_enter.next fun _ => hresult _
  | guarded name body =>
    exact (tidies_report _).next fun _ => (tidies_emitText _).next fun _ =>
      (tidies_emitText _).next fun _ => (tidies_emitText _).next fun _ => hresult _
  | struct name body =>
    exact (tidies_report _).next fun _ => (tidies_emitText _).next fun _ =>
      tidies_enter.next fun _ => hresult _
  | typedefStruct name body =>
    exact (tidies_emitText _).next fun _ => tidies_enter.next fun _ => hresult _
  | function declaration body =>
    exact (tidies_report _).next fun d => (tidies_returnType d).next fun _ =>
      (tidies_emitText _).next fun _ => tidies_enter.next fun _ => hresult _
  | nestedWith handle brackets child body =>
    refine Tidies.next (tidies_of_buffer (aside_placeOf handle).buffer) fun place => ?_
    refine Tidies.next (tidies_of_buffer (aside_beginNested place brackets).buffer) fun inner => ?_
    exact Tidies.next (tidies_of_buffer (aside_setHandle child inner).buffer) fun _ => hresult _
  | attempt | constructor | declareWith | initializer => cases hp
  | _ => cases hc

/-- If an operation ends well, so did its body. -/
theorem exists_body {op : Op} (hc : op.isCompound = true) (hp : op.isTidying = true) {s t u : Session}
    {r : Reply} {ending : Ending} (hr : op.perform.apply s = (.ok r, t))
    (ho : op.opening.apply s = (.ok ending, u)) : ∃ w, (performAll op.body).apply u = (.ok (), w) := by
  rcases e : (performAll op.body).apply u with ⟨err | _, w⟩
  · rw [perform_body_error ho e] at hr
    cases op with
    | attempt | constructor | declareWith | initializer => cases hp
    | indented | guarded | struct | typedefStruct | function | nestedWith => cases hr
    | _ => cases hc
  · exact ⟨w, rfl⟩

/-- An operation that ends well leaves a tidy buffer tidy, and so did each one
    in it. -/
theorem tidies_both :
    (∀ op : Op, op.everywhere isTidying = true → Tidies op.perform ∧
      ∀ {s r t}, s.buffer.IsTidy → op.perform.apply s = (.ok r, t) → ∀ b ∈ op.endings s, b.IsTidy) ∧
    ∀ ops : List Op, allEverywhere isTidying ops = true → Tidies (performAll ops) ∧
      ∀ {s r t}, s.buffer.IsTidy → (performAll ops).apply s = (.ok r, t) →
        ∀ b ∈ allEndings ops s, b.IsTidy := by
  refine Op.induction_everywhere ?noted ?compound ?simple ?nil ?cons
  case noted =>
    intro label op ih
    obtain ⟨htidies, hendings⟩ := ih
    refine ⟨htidies.noted label, fun {s r t} hs hr b hb => ?_⟩
    rw [endings] at hb
    rcases List.mem_append.1 hb with hb | hb
    · rw [perform, apply_noted] at hr
      rcases e : op.perform.apply s with ⟨_ | y, u⟩
      · rw [e] at hr
        cases hr
      · exact hendings hs e b hb
    · rw [List.mem_singleton.1 hb, hr]
      exact htidies.noted label hs hr
  case compound =>
    intro op hc hop ih
    obtain ⟨htidies, hendings⟩ := ih
    have hperform := tidies_compound hc hop htidies
    refine ⟨hperform, fun {s r t} hs hr b hb => ?_⟩
    rw [endings_compound hc] at hb
    rcases List.mem_append.1 hb with hb | hb
    · rcases e : op.opening.apply s with ⟨_ | ending, u⟩
      · rw [e] at hb
        cases hb
      · rw [e] at hb
        obtain ⟨w, hw⟩ := exists_body hc hop hr e
        exact hendings (tidies_opening hc hop hs e) hw b hb
    · rw [List.mem_singleton.1 hb, hr]
      exact hperform hs hr
  case simple =>
    intro op hs hp
    have hperform := tidies_simple hs hp
    refine ⟨hperform, fun {s r t} htidy hr b hb => ?_⟩
    rw [endings_simple hs, List.mem_singleton, hr] at hb
    rw [hb]
    exact hperform htidy hr
  case nil => exact ⟨tidies_of_buffer fun _ => rfl, fun _ _ b hb => absurd hb List.not_mem_nil⟩
  case cons =>
    intro op ops _ ih ihs
    obtain ⟨htidies, hendings⟩ := ih
    obtain ⟨hrest, hrestEndings⟩ := ihs
    refine ⟨?_, fun {s r t} hs hr b hb => ?_⟩
    · rw [performAll]
      exact Tidies.next (htidies.next fun _ => tidies_of_buffer fun _ => rfl) fun _ => hrest
    · rcases e : op.perform.apply s with ⟨_ | y, u⟩
      · rw [apply_performAll_cons_error e] at hr
        cases hr
      · rw [apply_performAll_cons e] at hr
        rw [allEndings, e] at hb
        rcases List.mem_append.1 hb with hb | hb
        · exact hendings hs e b hb
        · exact hrestEndings (htidies hs e) hr b hb

end Op

/-! ## The result -/

/-- **No line ends in white space, and every operation ends a line.**  In a script
    that ends well, whatever texts it is given, each operation at each level of
    nesting leaves the buffer at the start of a line, and all lines above it end
    in ink or are empty. -/
theorem no_space_at_line_ends (library : TemplateLibrary) (config : Config) {unit : String}
    (hu : IsMargin unit.toList) (files : Files) (log : Log) {ops : List Op}
    (hp : Op.allEverywhere Op.isTidying ops = true)
    (hok : ((Op.performAll ops).apply (.start library config unit files log)).1 = .ok ()) :
    ∀ b ∈ Op.allEndings ops (.start library config unit files log), b.atLineStart = true ∧
      ∀ l ∈ lines b.text.toList, IsTrimmed l := by
  have hstart : (Session.start library config unit files log).buffer.IsTidy :=
    ⟨hu, [], rfl, fun _ h => absurd h List.not_mem_nil⟩
  intro b hb
  have htidy := (Op.tidies_both.2 ops hp).2 hstart (Prod.ext hok rfl) b hb
  exact ⟨htidy.line, fun _ => htidy.trimmed⟩

/-- Blank lines, white space beyond ASCII, and an initializer with a blank
    element. -/
theorem no_space_at_line_ends_blank :
    let s := Session.start .empty Config.default " \t" Files.empty []
    let ops : List Op := [
      .includeHeader (.text "<a> \u00a0"), .comment (.text "a \u2003\n\x1c\nb\r"),
      .struct (.text "S ") [.emit (.text "\x1c"), .declareValue (.text "int\n  x") (.text "1 \n+ 2 ")],
      .guarded (.text "G") [.function (.text "int f() \t") [.beginInitializer .array "a",
        .element "a" (.text " "), .nestedWith "a" .struct "b" [.element "b" (.text "1\u00a0\n ")],
        .declareInitializer (.text "int v[] ") "a"]]]
    Op.allEverywhere Op.isTidying ops = true ∧ ((Op.performAll ops).apply s).1 = .ok () ∧
      ∀ b ∈ Op.allEndings ops s, b.atLineStart = true ∧ ∀ l ∈ lines b.text.toList, IsTrimmed l := by
  intro s ops
  have hp : Op.allEverywhere Op.isTidying ops = true := by decide
  have hok : ((Op.performAll ops).apply s).1 = .ok () := by
    have h : ((Op.performAll ops).apply s).1.isOk = true := by decide +kernel
    cases e : ((Op.performAll ops).apply s).1 with
    | ok => rfl
    | error => rw [e] at h; cases h
  exact ⟨hp, hok, no_space_at_line_ends .empty Config.default (.of_spaces (by simp)) Files.empty [] hp hok⟩

end CxxWriter
