import SkillNode.Naming
import SkillNode.Proofs.Text.Segments
import Mathlib.Data.List.Induction
import Mathlib.Logic.Relation

/-!
# Spellings of service and topic names

A service or topic name is cut at its slashes after the blanks around it are gone. These blanks,
slashes at the ends of the name and repeated slashes say nothing, so one name may be spelled in
many ways.

The main statement says that two texts have the same segments exactly if they are spellings of
one name.
-/

namespace SkillNode
namespace Naming

/-- A text and another that spells the same name with one blank more at an end, with one slash
more at an end that has no blank, or with a slash repeated. -/
inductive Respelling : Text → Text → Prop
  | blankBefore {c : Char} (text : Text) : Text.isBlank c = true → Respelling text (c :: text)
  | blankAfter {c : Char} (text : Text) : Text.isBlank c = true → Respelling text (text ++ [c])
  | slashBefore {text : Text} : Text.trimStart text = text → Respelling text ('/' :: text)
  | slashAfter {text : Text} : Text.trimEnd text = text → Respelling text (text ++ ['/'])
  | slashAgain (start rest : Text) :
      Respelling (start ++ '/' :: rest) (start ++ '/' :: '/' :: rest)

/-- Two texts spell one name. -/
def SpellsSame : Text → Text → Prop := Relation.EqvGen Respelling

theorem Respelling.rosSegments_eq {first second : Text} (respelling : Respelling first second) :
    rosSegments first = rosSegments second := by
  have unblank : Text.isBlank '/' = false := by decide
  unfold rosSegments
  cases respelling with
  | blankBefore _ blank => rw [Text.trim_cons_of_isBlank blank]
  | blankAfter _ blank => rw [Text.trim_concat_of_isBlank blank]
  | slashBefore startTrimmed =>
      rw [← List.nil_append ('/' :: first), Text.trim_append_cons unblank,
        Text.segments_append_cons, Text.trim, startTrimmed]
      rfl
  | slashAfter endTrimmed =>
      rw [Text.trim_append_cons unblank, Text.segments_append_cons, Text.trim,
        Text.trimEnd_trimStart_of_trimmed endTrimmed]
      exact (List.append_nil _).symm
  | slashAgain start rest =>
      rw [Text.trim_append_cons unblank, Text.trim_append_cons unblank,
        Text.trimEnd_cons_of_unblank unblank, Text.segments_append_cons,
        Text.segments_append_cons, ← List.nil_append ('/' :: _), Text.segments_append_cons]
      rfl

/-- Spellings of one name have the same segments. -/
theorem SpellsSame.rosSegments_eq {first second : Text} (same : SpellsSame first second) :
    rosSegments first = rosSegments second := by
  induction same with
  | rel _ _ respelling => exact respelling.rosSegments_eq
  | refl _ => rfl
  | symm _ _ _ sameHypothesis => exact sameHypothesis.symm
  | trans _ _ _ _ _ firstHypothesis secondHypothesis =>
      exact firstHypothesis.trans secondHypothesis

/-! ## The spelling with all slashes -/

/-- Pieces with a slash before each of them and one after the last. -/
def slashed (pieces : List Text) : Text := pieces.flatMap ('/' :: ·) ++ ['/']

@[simp] theorem slashed_cons (piece : Text) (pieces : List Text) :
    slashed (piece :: pieces) = '/' :: (piece ++ slashed pieces) := by
  simp [slashed]

theorem exists_slashed_eq_cons (pieces : List Text) : ∃ rest, slashed pieces = '/' :: rest := by
  cases pieces with
  | nil => exact ⟨[], rfl⟩
  | cons piece pieces => exact ⟨_, slashed_cons piece pieces⟩

/-- The pieces of a text stand between slashes as the text does. -/
theorem slashed_splitOn (text : Text) :
    slashed (Text.splitOn '/' text) = '/' :: (text ++ ['/']) := by
  have joined : ∀ piece pieces,
      slashed (piece :: pieces) = '/' :: (Text.join ['/'] (piece :: pieces) ++ ['/']) := by
    intro piece pieces
    induction pieces generalizing piece with
    | nil => simp [slashed, Text.join, List.intercalate]
    | cons next pieces piecesHypothesis =>
        rw [slashed_cons, piecesHypothesis]
        simp [Text.join, List.intercalate]
  cases cut : Text.splitOn '/' text with
  | nil => exact absurd cut (Text.splitOn_ne_nil '/' text)
  | cons piece pieces => rw [joined, ← cut, Text.join_splitOn]

/-- An empty piece between slashes only repeats a slash. -/
theorem spellsSame_slashed (start : Text) (pieces : List Text) :
    SpellsSame (start ++ slashed (pieces.filter (! ·.isEmpty))) (start ++ slashed pieces) := by
  induction pieces generalizing start with
  | nil => exact .refl _
  | cons piece pieces piecesHypothesis =>
      cases piece with
      | nil =>
          refine .trans _ _ _ (piecesHypothesis start) (.rel _ _ ?_)
          obtain ⟨rest, starts⟩ := exists_slashed_eq_cons pieces
          rw [slashed_cons, List.nil_append, starts]
          exact .slashAgain start rest
      | cons c piece => simpa using piecesHypothesis (start ++ '/' :: c :: piece)

theorem spellsSame_trimStart (text : Text) : SpellsSame (Text.trimStart text) text := by
  induction text with
  | nil => exact .refl _
  | cons c rest restHypothesis =>
      cases blank : Text.isBlank c with
      | true =>
          rw [Text.trimStart, List.dropWhile_cons_of_pos blank]
          exact .trans _ _ _ restHypothesis (.rel _ _ (.blankBefore rest blank))
      | false =>
          rw [Text.trimStart, List.dropWhile_cons_of_neg (by simp [blank])]
          exact .refl _

theorem spellsSame_trimEnd (text : Text) : SpellsSame (Text.trimEnd text) text := by
  induction text using List.reverseRecOn with
  | nil => exact .refl _
  | append_singleton start c startHypothesis =>
      cases blank : Text.isBlank c with
      | true =>
          rw [Text.trimEnd_concat_of_isBlank blank]
          exact .trans _ _ _ startHypothesis (.rel _ _ (.blankAfter start blank))
      | false =>
          have stays : Text.trimEnd (start ++ [c]) = start ++ [c] := by
            simp [Text.trimEnd, blank]
          rw [stays]
          exact .refl _

/-- Every text spells the name whose segments stand between slashes. -/
theorem spellsSame_slashed_rosSegments (text : Text) :
    SpellsSame text (slashed (rosSegments text)) := by
  have unblank : Text.isBlank '/' = false := by decide
  have startTrimmed : Text.trimStart (Text.trim text) = Text.trim text :=
    Text.trimStart_trimEnd_of_trimmed (Text.trimStart_idem text)
  have endTrimmed : Text.trimEnd ('/' :: Text.trim text) = '/' :: Text.trim text := by
    rw [Text.trimEnd_cons_of_unblank unblank, Text.trim, Text.trimEnd_idem]
  have trims : SpellsSame (Text.trim text) text :=
    .trans _ _ _ (spellsSame_trimEnd _) (spellsSame_trimStart text)
  have slashes : SpellsSame (Text.trim text) ('/' :: Text.trim text ++ ['/']) :=
    .trans _ _ _ (.rel _ _ (.slashBefore startTrimmed)) (.rel _ _ (.slashAfter endTrimmed))
  rw [List.cons_append, ← slashed_splitOn] at slashes
  have emptyLeftOut := spellsSame_slashed [] (Text.splitOn '/' (Text.trim text))
  exact .trans _ _ _ (.symm _ _ trims) (.trans _ _ _ slashes (.symm _ _ emptyLeftOut))

/-- Two texts have the same segments exactly if they spell one name. -/
theorem rosSegments_eq_iff {first second : Text} :
    rosSegments first = rosSegments second ↔ SpellsSame first second := by
  refine ⟨fun same => ?_, SpellsSame.rosSegments_eq⟩
  have spelled := spellsSame_slashed_rosSegments first
  rw [same] at spelled
  exact .trans _ _ _ spelled (.symm _ _ (spellsSame_slashed_rosSegments second))

end Naming
end SkillNode
