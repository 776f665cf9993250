/-
  Scripts that differ in the margins of their fragments.

  * `Value.Respaced`: the second value may stand for the first one, as a fragment
    with another margin and other blank lines;
  * `Op.Respaced`, `Op.AllRespaced`: operations that differ in such fragments,
    where the writer reads them: code, comments, elements, initial values of
    members, and bodies of these;
  * `margins_do_not_matter`: such scripts write the same text.
-/
import CxxWriter.Proofs.Like
import CxxWriter.Proofs.Margin

namespace CxxWriter

open Block (IsBlock IsVariant IsShifted unindent)
open CxxWriter.Action
open Text (unlines)

/-- Is a value the other one, or the same block with another margin? -/
inductive Value.Respaced : Value → Value → Prop
  | same (v : Value) : Value.Respaced v v
  | block {c : List (List Char)} {s t : String} : IsBlock c → s.toList = unlines c →
      IsVariant c t.toList → Value.Respaced (.text s) (.text t)

/-- The normal form does not show the margin. -/
theorem Value.Respaced.normal {v w : Value} (h : v.Respaced w) : v.normal = w.normal := by
  cases h with
  | same => rfl
  | @block c s t hc hs ht =>
    show Value.text (Block.core s) = .text (Block.core t)
    rw [Block.core, Block.core, Block.unindent_variant hc ht, hs]

namespace Op

/-- Do initial values of members differ in margins only? -/
abbrev MembersRespaced (initial initial' : List (Value × Value)) : Prop :=
  List.Forall₂ (fun e e' => e.1 = e'.1 ∧ e.2.Respaced e'.2) initial initial'

mutual

/-- Does an operation differ from another one in the margins of fragments only? -/
inductive Respaced : Op → Op → Prop
  | same (op : Op) : Respaced op op
  | noted {op op' : Op} (label : String) : Respaced op op' → Respaced (.noted label op) (.noted label op')
  | emit {v w : Value} : v.Respaced w → Respaced (.emit v) (.emit w)
  | comment {v w : Value} : v.Respaced w → Respaced (.comment v) (.comment w)
  | element {v w : Value} (handle : String) : v.Respaced w →
      Respaced (.element handle v) (.element handle w)
  | constructor {initial initial' : List (Value × Value)} {body body' : List Op} (declaration : Value) :
      MembersRespaced initial initial' → AllRespaced body body' →
      Respaced (.constructor declaration initial body) (.constructor declaration initial' body')
  | body {op : Op} {body : List Op} : op.isCompound = true → AllRespaced op.body body →
      Respaced op (op.withBody body)

/-- Do operations in order differ in the margins of fragments only? -/
inductive AllRespaced : List Op → List Op → Prop
  | nil : AllRespaced [] []
  | cons {op op' : Op} {ops ops' : List Op} : Respaced op op' → AllRespaced ops ops' →
      AllRespaced (op :: ops) (op' :: ops')

end

mutual

/-- An operation matches one with other margins. -/
theorem Respaced.matches : ∀ {op op' : Op}, Respaced op op' → Matches EndAlike op.perform op'.perform
  | _, _, .same op => matches_both.1 op
  | _, _, .noted label h => h.matches.noted label
  | _, _, .emit h => matches_emit h.normal
  | _, _, .comment h => matches_comment h.normal
  | _, _, .element handle h => matches_element handle h.normal
  | _, _, .constructor declaration hinitial hbody =>
    matches_constructor declaration (hinitial.imp fun _ _ h => ⟨h.1, h.2.normal⟩) hbody.matches
  | _, _, .body hc h => matches_compound hc h.matches

theorem AllRespaced.matches : ∀ {ops ops' : List Op}, AllRespaced ops ops' →
    Matches Eq (performAll ops) (performAll ops')
  | _, _, .nil => matches_pure _
  | _, _, .cons h hs => h.matches.discarded.next fun _ => hs.matches

end

end Op

open Op

/-- Scripts that go on after errors. -/
theorem Session.Like.play {ops ops' : List Op} (h : AllRespaced ops ops') {s s' : Session}
    (hs : s.Like s') :
    List.Forall₂ (List.Forall₂ Step.Like) (s.play ops).notes (s'.play ops').notes ∧
      (s.play ops).session.Like (s'.play ops').session := by
  induction ops generalizing ops' s s' with
  | nil =>
    cases h
    exact ⟨.nil, hs⟩
  | cons op ops ih =>
    cases h with
    | @cons _ op' _ ops' hop hops =>
      have hstart : ({ s with trace := [] } : Session).Like { s' with trace := [] } :=
        { hs with trace := .nil }
      obtain ⟨-, ht⟩ := hop.matches hstart
      obtain ⟨hnotes, hlike⟩ := ih hops ht
      exact ⟨.cons ht.trace hnotes, hlike⟩

/-- **Fragments may be written with any common margin.**  Whatever was written
    before, scripts that differ in margins of code, comments, bodies, initial
    values and elements only write the same text at every step, and fail alike. -/
theorem margins_do_not_matter {ops ops' : List Op} (h : AllRespaced ops ops') (s : Session) :
    (((performAll ops).apply s).1 = ((performAll ops').apply s).1 ∧
      ((performAll ops).apply s).2.buffer = ((performAll ops').apply s).2.buffer) ∧
    List.Forall₂ (List.Forall₂ Step.Like) (s.play ops).notes (s.play ops').notes ∧
      (s.play ops).session.buffer = (s.play ops').session.buffer := by
  obtain ⟨ho, hbody⟩ := h.matches (Session.Like.refl s)
  obtain ⟨hnotes, hplay⟩ := (Session.Like.refl s).play h
  exact ⟨⟨ho, hbody.buffer⟩, hnotes, hplay.buffer⟩

/-- A fragment in each place where its margin does not matter. -/
def Op.places (v : Value) : List Op :=
  [.emit v, .comment v, .function (.text "void f()") [.emit v],
    .constructor (.text "F()") [(.text "m", v)] [.emit v],
    .initializer .struct "r" [.nestedWith "r" .array "c" [.element "c" v]]]

theorem Op.places_respaced {v w : Value} (h : v.Respaced w) : AllRespaced (places v) (places w) := by
  have hbody : AllRespaced [.emit v] [.emit w] := .cons (.emit h) .nil
  refine .cons (.emit h) <| .cons (.comment h) <| .cons (.body rfl hbody) <|
    .cons (.constructor _ (.cons ⟨rfl, h⟩ .nil) hbody) <| .cons (.body rfl ?_) .nil
  exact .cons (.body rfl (.cons (.element "c" h) .nil)) .nil

/-- Three lines, of which the second is blank, and the same ones behind a margin of
    two characters, a blank line before them and a blank and one more line after. -/
theorem respaced_loop : Value.Respaced (.text "for (;;)\n\n\tf();")
    (.text "  \n \tfor (;;)\n\t\n  \tf(); \n") := by
  refine .block (c := ["for (;;)".toList, [], "\tf();".toList])
    ⟨by decide, ⟨_, rfl, rfl⟩, ⟨_, rfl, rfl⟩⟩ (by decide) ?_
  refine ⟨2, ["  ".toList], [" \tfor (;;)".toList, "\t".toList, "  \tf();".toList], [' '], [[]],
    by decide, ?_, List.all_eq_true.1 rfl, by decide⟩
  exact .cons ⟨by decide, .inr ⟨rfl, " \t".toList, rfl, List.all_eq_true.1 rfl, rfl⟩⟩ <|
    .cons ⟨by decide, .inl ⟨rfl, rfl⟩⟩ <|
    .cons ⟨by decide, .inr ⟨rfl, "  ".toList, rfl, List.all_eq_true.1 rfl, rfl⟩⟩ .nil

/-- A loop behind a margin is written like the loop, in each place. -/
theorem margins_do_not_matter_loop :
    let s := Session.start .empty Config.default "\t" Files.empty []
    let ops := Op.places (.text "for (;;)\n\n\tf();")
    let ops' := Op.places (.text "  \n \tfor (;;)\n\t\n  \tf(); \n")
    Op.AllRespaced ops ops' ∧ (s.play ops).session.buffer = (s.play ops').session.buffer := by
  intro s ops ops'
  have h : Op.AllRespaced ops ops' := Op.places_respaced respaced_loop
  exact ⟨h, (margins_do_not_matter h s).2.2⟩

end CxxWriter
