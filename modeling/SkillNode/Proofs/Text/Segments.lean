import SkillNode.Text.Blank
import Mathlib.Data.List.Basic

/-!
# Segments

The segments of a text are the pieces between separators that are not empty. A separator parts
the segments before it from those after it, and pieces that are joined again are found as they
were.

Blanks at the ends of a text are trimmed away, but only up to the first character that is none.
-/

namespace SkillNode
namespace Text

/-! ## Pieces between separators -/

/-- Every separator parts the segments before it from those after it. -/
theorem segments_append_cons (separator : Char) (start rest : Text) :
    segments separator (start ++ separator :: rest) =
      segments separator start ++ segments separator rest := by
  rw [segments, splitOn_append_cons, List.filter_append]
  rfl

/-- A segment is not empty and holds no separator. -/
theorem isSegment_of_mem_segments
    {separator : Char}
    {text piece : Text}
    (member : piece ∈ segments separator text) :
    piece ≠ [] ∧ separator ∉ piece := by
  obtain ⟨isPiece, notEmpty⟩ := List.mem_filter.mp member
  exact ⟨by simpa using notEmpty, separator_notMem_of_mem_splitOn isPiece⟩

/-- Pieces that are not empty and hold no separator are found again after they are joined. -/
theorem segments_join
    {separator : Char}
    {pieces : List Text}
    (areSegments : ∀ piece ∈ pieces, piece ≠ [] ∧ separator ∉ piece) :
    segments separator (join [separator] pieces) = pieces := by
  cases pieces with
  | nil => rfl
  | cons piece pieces =>
      have cut : splitOn separator (join [separator] (piece :: pieces)) = piece :: pieces := by
        rw [splitOn_join, List.flatMap_congr fun other member =>
          splitOn_of_notMem (areSegments other member).2]
        exact List.flatMap_singleton' _
      rw [segments, cut]
      exact List.filter_eq_self.mpr fun other member => by
        simpa using (areSegments other member).1

/-! ## Blanks at the ends -/

theorem trim_cons_of_isBlank {c : Char} (blank : isBlank c = true) (rest : Text) :
    trim (c :: rest) = trim rest := by
  rw [trim, trimStart, List.dropWhile_cons_of_pos blank]
  rfl

theorem trimEnd_concat_of_isBlank {c : Char} (blank : isBlank c = true) (start : Text) :
    trimEnd (start ++ [c]) = trimEnd start := by
  simp [trimEnd, blank]

theorem trim_concat_of_isBlank {c : Char} (blank : isBlank c = true) (start : Text) :
    trim (start ++ [c]) = trim start := by
  unfold trim trimStart
  rw [List.dropWhile_append]
  split
  · next allBlank =>
      rw [List.isEmpty_iff.mp allBlank, List.dropWhile_cons_of_pos blank, List.dropWhile_nil]
  · exact trimEnd_concat_of_isBlank blank _

section Unblank

variable {c : Char} (unblank : isBlank c = false)

include unblank

/-- Blanks at the start of a text end at a character that is none. -/
theorem trimStart_append_cons (start rest : Text) :
    trimStart (start ++ c :: rest) = trimStart start ++ c :: rest := by
  rw [trimStart, List.dropWhile_append, List.dropWhile_cons_of_neg (by simp [unblank])]
  cases kept : start.dropWhile isBlank <;> simp [trimStart, kept]

/-- Blanks at the end of a text start after a character that is none. -/
theorem trimEnd_cons_of_unblank (rest : Text) : trimEnd (c :: rest) = c :: trimEnd rest := by
  rw [← List.singleton_append, trimEnd_append]
  split
  · next allBlank => rw [allBlank, trimEnd]; simp [unblank]
  · rfl

theorem trim_append_cons (start rest : Text) :
    trim (start ++ c :: rest) = trimStart start ++ c :: trimEnd rest := by
  rw [trim, trimStart_append_cons unblank, trimEnd_append, trimEnd_cons_of_unblank unblank,
    if_neg (List.cons_ne_nil _ _)]

end Unblank

/-- A text without blanks at its end still has none after its start is trimmed. -/
theorem trimEnd_trimStart_of_trimmed
    {text : Text}
    (endTrimmed : trimEnd text = text) :
    trimEnd (trimStart text) = trimStart text := by
  obtain ⟨blanks, whole⟩ : trimStart text <:+ text := List.dropWhile_suffix isBlank
  have cut := trimEnd_append blanks (trimStart text)
  rw [whole, endTrimmed] at cut
  split at cut
  · -- Nothing but the blanks at the start could be left of the text.
    have bound := (trimEnd_isPrefix blanks).length_le
    rw [← cut, ← whole, List.length_append] at bound
    rw [List.eq_nil_of_length_eq_zero (l := trimStart text) (by omega)]
    rfl
  · exact (List.append_cancel_left (whole.trans cut)).symm

end Text
end SkillNode
