/-
  The texts of paths, and where paths lead.

  * `Text.splitString_intercalate`: parts that are joined by slashes are found
    again;
  * `Path.size_parent_le`: the path of a directory is no longer than those of what
    is in it;
  * `Files.locate_eq_ok`: a path that can be written is followed part by part.
-/
import Mathlib.Data.List.Basic
import CxxWriter.Files.Basic

namespace CxxWriter

/-! ## Parts and paths -/

theorem Text.joinWith_eq_intercalate {α : Type} (sep : α) (ps : List (List α)) :
    Text.joinWith sep ps = [sep].intercalate ps := by
  induction ps with
  | nil => rfl
  | cons p ps ih =>
    cases ps with
    | nil => rw [Text.joinWith, List.intercalate_singleton]
    | cons q qs =>
      rw [Text.joinWith, ih, List.intercalate_cons_cons, List.append_assoc]
      rfl

theorem Text.mem_joinWith {α : Type} {sep a : α} (ha : a ≠ sep) (ps : List (List α)) :
    a ∈ Text.joinWith sep ps ↔ ∃ p ∈ ps, a ∈ p := by
  induction ps with
  | nil => simp [Text.joinWith]
  | cons p ps ih =>
    cases ps with
    | nil => simp [Text.joinWith]
    | cons q qs =>
      rw [Text.joinWith, List.mem_append, List.mem_cons, ih, or_iff_right ha]
      simp only [List.mem_cons, exists_eq_or_imp]

theorem Text.toList_intercalate (parts : List String) :
    ("/".intercalate parts).toList = Text.joinWith '/' (parts.map String.toList) := by
  rw [Text.joinWith_eq_intercalate, String.toList_intercalate]
  rfl

/-- Parts that are joined by slashes are found again. -/
theorem Text.splitString_intercalate {parts : List String} (hne : parts ≠ [])
    (h : ∀ part ∈ parts, '/' ∉ part.toList) :
    Text.splitString '/' ("/".intercalate parts) = parts := by
  have hslash : ∀ p ∈ parts.map String.toList, '/' ∉ p := by
    intro p hp
    obtain ⟨part, hpart, rfl⟩ := List.mem_map.1 hp
    exact h part hpart
  rw [Text.splitString, Text.toList_intercalate,
    Text.splitOn_joinWith '/' (by simpa using hne) hslash, List.map_map]
  exact (List.map_congr_left fun part _ => String.ofList_toList).trans (List.map_id parts)

namespace Path

/-- Apart from points and slashes, a path has the characters of its parts. -/
theorem mem_toString {p : Path} {c : Char} (hdot : c ≠ '.') (hslash : c ≠ '/') :
    c ∈ p.toString.toList ↔ c ∈ p.root.toList ∨ ∃ part ∈ p.parts, c ∈ part.toList := by
  unfold toString
  split
  · next hempty =>
    rw [Bool.and_eq_true, List.isEmpty_iff] at hempty
    simp [hempty.2, hdot, String.isEmpty_iff.1 hempty.1]
  · rw [String.toList_append, List.mem_append, Text.toList_intercalate, Text.mem_joinWith hslash]
    simp

/-- A path is no shorter than the path of the directory that it leads into, but for
    the single point of the working directory. -/
theorem size_parent_le (p : Path) :
    p.parent.toString.utf8ByteSize ≤ max 1 p.toString.utf8ByteSize := by
  obtain ⟨root, parts⟩ := p
  rcases List.eq_nil_or_concat parts with rfl | ⟨init, part, rfl⟩
  · exact Nat.le_max_right _ _
  · rw [List.concat_eq_append]
    have hchild : toString ⟨root, init ++ [part]⟩ = root ++ "/".intercalate (init ++ [part]) := by
      simp [toString]
    rw [parent, hchild, List.dropLast_concat, String.utf8ByteSize_append]
    rcases eq_or_ne init [] with rfl | hinit
    · rw [toString]
      split
      · exact Nat.le_max_left _ _
      · rw [String.utf8ByteSize_append, String.intercalate_nil]
        exact Nat.le_trans (Nat.add_le_add_left (Nat.zero_le _) _) (Nat.le_max_right _ _)
    · have hisEmpty : init.isEmpty = false := by simpa using hinit
      rw [toString, hisEmpty, Bool.and_false, if_neg Bool.false_ne_true,
        String.intercalate_append_of_ne_nil hinit (List.cons_ne_nil part [])]
      simp only [String.utf8ByteSize_append]
      omega

end Path

namespace Files

/-- Where a path leads. -/
theorem locate_eq_ok {f : Files} {p : Path} {place : List String} :
    f.locate p = .ok place ↔ '\x00' ∉ p.toString.toList ∧ p.toString.utf8ByteSize ≤ maxPath ∧
      p.parts.foldlM f.stepInto (f.origin p) = .ok place := by
  unfold locate
  dsimp only
  split
  · next hnull =>
    rw [List.contains_iff_mem] at hnull
    exact ⟨nofun, fun h => absurd hnull h.1⟩
  · next hnull =>
    rw [List.contains_iff_mem] at hnull
    split
    · next hlong => exact ⟨nofun, fun h => absurd h.2.1 (Nat.not_le.2 hlong)⟩
    · next hshort => exact ⟨fun h => ⟨hnull, Nat.not_lt.1 hshort, h⟩, fun h => h.2.2⟩

end Files

end CxxWriter
