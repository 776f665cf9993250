/-
  Values of declarations.

  The value of a declaration is a fragment, or an action writes it behind the
  declaration.  Let declaration and value be lines without white space at their ends.

  * `apply_declareValue`: the fragment is written as one block with the declaration,
    which `apply_declareValue_bare` shows to be a line;
  * `apply_declareWith_emit_bare`: an action that emits the value writes it there too,
    but with the indentation once more in front of it, since a block is indented
    wherever it starts;
  * `values_agree_iff`: so the two agree exactly where there is no indentation.
-/
import CxxWriter.Proofs.Action
import CxxWriter.Proofs.Layout

namespace CxxWriter

open CxxWriter.Action
open CxxWriter.Tree (IsBare)

/-! ## Declarations with values -/

variable {declaration value : Value} {d v : String}

/-- A fragment is written as one block with the declaration. -/
theorem apply_declareValue (hd : declaration.fragment? = some d) (hv : value.fragment? = some v)
    (s : Session) : (Op.declareValue declaration value).perform.apply s =
      (.ok .nothing, { s with buffer := s.buffer.emit (d ++ " = " ++ v ++ ";") }) := by
  refine Op.apply_silent ?_
  rw [declareValue, apply_bind_ok (apply_fragment hd s), apply_bind_ok (apply_fragment hv s)]
  rfl

/-- A fragment stands on the line of the declaration. -/
theorem apply_declareValue_bare (hd : declaration.fragment? = some d) (hv : value.fragment? = some v)
    (hdb : IsBare d.toList) (hvb : IsBare v.toList) (s : Session) :
    ∃ b : Buffer,
      (Op.declareValue declaration value).perform.apply s = (.ok .nothing, { s with buffer := b }) ∧
      b.text = s.buffer.text ++ (s.buffer.indentation ++ (d ++ " = " ++ v ++ ";") ++ "\n") ∧
      b.depth = s.buffer.depth ∧ b.unit = s.buffer.unit := by
  have hline : IsBare (d ++ " = " ++ v ++ ";").toList := by
    simp only [String.toList_append]
    rw [← List.append_nil (d.toList ++ _ ++ _)]
    exact (hdb.around (by decide) hvb).around List.not_mem_nil (Tree.bare_singleton (by decide))
  refine ⟨_, apply_declareValue hd hv s, ?_, rfl, rfl⟩
  rw [hline.emit_text]
  simp only [String.append_assoc]

/-- A value that an action emits is indented once more, behind the declaration. -/
theorem apply_declareWith_emit_bare (hd : declaration.fragment? = some d)
    (hv : value.fragment? = some v) (hdb : IsBare d.toList) (hvb : IsBare v.toList) (s : Session) :
    ∃ b : Buffer,
      (Op.declareWith declaration [.emit value]).perform.apply s =
        (.ok .nothing, { s with buffer := b }) ∧
      b.text = s.buffer.text ++ (s.buffer.indentation ++
        (d ++ " = " ++ s.buffer.indentation ++ v ++ ";") ++ "\n") ∧
      b.depth = s.buffer.depth ∧ b.unit = s.buffer.unit := by
  have hline : IsBare (d ++ " =").toList := by
    have hsplit : d ++ " =" = d ++ " " ++ "=" := by rw [String.append_assoc]; rfl
    rw [hsplit, String.toList_append, String.toList_append]
    exact hdb.around (by decide) (Tree.bare_singleton (by decide))
  obtain ⟨b, hb⟩ : ∃ b, b = (s.buffer.emitOpen (d ++ " =")).emitRaw " " := ⟨_, rfl⟩
  have htext : b.text = s.buffer.text ++ s.buffer.indentation ++ (d ++ " =") ++ " " := by
    rw [hb, Buffer.emitRaw, Buffer.text_push, Buffer.emitOpen_text, hline.blockOf_eq,
      ← String.append_assoc]
    rfl
  have hindent : b.indentation = s.buffer.indentation ∧ b.depth = s.buffer.depth ∧
      b.unit = s.buffer.unit := by
    rw [hb]
    exact ⟨rfl, rfl, rfl⟩
  have hemit : (Op.emit value).perform.apply { s with buffer := b } =
      (.ok .nothing, { s with buffer := b.emit v }) :=
    Op.apply_silent (apply_emit hv _)
  have hbody : (Op.performAll [.emit value]).apply { s with buffer := b } =
      (.ok (), { s with buffer := b.emit v }) := by
    rw [Op.apply_performAll_cons hemit]
    rfl
  have hperform : (Op.declareWith declaration [.emit value]).perform.apply s =
      (.ok .nothing, { s with buffer := (b.emit v).closeValue }) := by
    rw [hb] at hbody
    rw [Op.perform, Op.apply_silent (apply_declareWith hd hbody), hb]
  refine ⟨_, hperform, ?_, ?_, ?_⟩
  · -- the line feed behind the value is removed again
    rw [Buffer.closeValue_text, hvb.emit_text, Buffer.stripped_newline, hvb.stripped_append, htext,
      hindent.1]
    have heq : " = " = " =" ++ " " := rfl
    simp only [heq, String.append_assoc]
  · rw [Buffer.closeValue_depth]
    exact hindent.2.1
  · rw [Buffer.closeValue_unit]
    exact hindent.2.2

/-- **A value that is emitted agrees with a fragment exactly where nothing is
    indented.**  Of a declaration and a value that are lines without white space at
    their ends, a fragment makes the line of both at the current indentation, in
    every state; an action that emits the value writes the indentation before the
    value too.  So the two texts are the same outside of all levels, or if a level is
    the empty text, and nowhere else. -/
theorem values_agree_iff (hd : declaration.fragment? = some d) (hv : value.fragment? = some v)
    (hdb : IsBare d.toList) (hvb : IsBare v.toList) (s : Session) :
    ∃ b b' : Buffer,
      (Op.declareValue declaration value).perform.apply s = (.ok .nothing, { s with buffer := b }) ∧
      (Op.declareWith declaration [.emit value]).perform.apply s =
        (.ok .nothing, { s with buffer := b' }) ∧
      b.text = s.buffer.text ++ (s.buffer.indentation ++ (d ++ " = " ++ v ++ ";") ++ "\n") ∧
      b'.text = s.buffer.text ++ (s.buffer.indentation ++
        (d ++ " = " ++ s.buffer.indentation ++ v ++ ";") ++ "\n") ∧
      (b'.text = b.text ↔ s.buffer.depth = 0 ∨ s.buffer.unit = "") := by
  obtain ⟨b, hb, htext, -⟩ := apply_declareValue_bare hd hv hdb hvb s
  obtain ⟨b', hb', htext', -⟩ := apply_declareWith_emit_bare hd hv hdb hvb s
  refine ⟨b, b', hb, hb', htext, htext', ?_⟩
  rw [← Buffer.indentation_eq_empty, htext, htext']
  constructor
  · -- the second text is longer by the indentation
    intro h
    have hlength := congrArg String.length h
    simp only [String.length_append] at hlength
    exact String.length_eq_zero_iff.1 (by omega)
  · intro h
    rw [h]
    simp only [String.append_assoc, String.empty_append]

/-- A number two levels deep, and the same outside of all levels. -/
theorem values_agree_iff_number :
    let s (depth : Nat) : Session := { Session.start .empty Config.default "    " Files.empty [] with
      buffer := ⟨["struct T \x7b\n"], depth, "    "⟩ }
    let declaration := Value.text "int x"
    (declaration.fragment? = some "int x" ∧ (Value.int 5).fragment? = some "5" ∧
      IsBare "int x".toList ∧ IsBare "5".toList) ∧
    (∃ b b' : Buffer,
      (Op.declareValue declaration (.int 5)).perform.apply (s 2) = (.ok .nothing, { s 2 with buffer := b }) ∧
      (Op.declareWith declaration [.emit (.int 5)]).perform.apply (s 2) =
        (.ok .nothing, { s 2 with buffer := b' }) ∧
      b.text = "struct T \x7b\n        int x = 5;\n" ∧
      b'.text = "struct T \x7b\n        int x =         5;\n") ∧
    ∃ b b' : Buffer,
      (Op.declareValue declaration (.int 5)).perform.apply (s 0) = (.ok .nothing, { s 0 with buffer := b }) ∧
      (Op.declareWith declaration [.emit (.int 5)]).perform.apply (s 0) =
        (.ok .nothing, { s 0 with buffer := b' }) ∧
      b'.text = b.text := by
  intro s declaration
  have hd : declaration.fragment? = some "int x" := rfl
  have hv : (Value.int 5).fragment? = some "5" := by decide +kernel
  have hdb : IsBare "int x".toList := ⟨by decide, ⟨'i', rfl, by decide⟩, by rintro _ ⟨⟩; decide⟩
  have hvb : IsBare "5".toList := Tree.bare_singleton (by decide)
  refine ⟨⟨hd, hv, hdb, hvb⟩, ?_, ?_⟩
  · obtain ⟨b, b', hb, hb', htext, htext', -⟩ := values_agree_iff hd hv hdb hvb (s 2)
    exact ⟨b, b', hb, hb', htext.trans (by decide +kernel), htext'.trans (by decide +kernel)⟩
  · obtain ⟨b, b', hb, hb', -, -, hsame⟩ := values_agree_iff hd hv hdb hvb (s 0)
    exact ⟨b, b', hb, hb', hsame.2 (.inl rfl)⟩

/-- A value that is emitted does not always agree with a fragment: one level deep,
    there is a tab between them. -/
theorem values_not_always_agree :
    ¬ ∀ (declaration value : Value) (d v : String) (s : Session), declaration.fragment? = some d →
      value.fragment? = some v → IsBare d.toList → IsBare v.toList → s.buffer.atLineStart = true →
      ((Op.declareWith declaration [.emit value]).perform.apply s).2.buffer.text =
        ((Op.declareValue declaration value).perform.apply s).2.buffer.text := by
  intro h
  let s : Session := { Session.start .empty Config.default "\t" Files.empty [] with buffer := ⟨[], 1, "\t"⟩ }
  have hdb : IsBare "int x".toList := ⟨by decide, ⟨'i', rfl, by decide⟩, by rintro _ ⟨⟩; decide⟩
  have hsame := h (.text "int x") (.text "5") _ _ s rfl rfl hdb (Tree.bare_singleton (by decide)) rfl
  have hvalue : ((Op.declareValue (.text "int x") (.text "5")).perform.apply s).2.buffer.text =
      "\tint x = 5;\n" := by decide +kernel
  have hemit : ((Op.declareWith (.text "int x") [.emit (.text "5")]).perform.apply s).2.buffer.text =
      "\tint x = \t5;\n" := by decide +kernel
  rw [hvalue, hemit] at hsame
  exact absurd hsame (by decide)

end CxxWriter
