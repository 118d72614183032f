import SkillNode.Text.Line

/-!
# Joined lines

Lines that hold no break may be joined by line feeds and cut again. Every line comes back,
except that an empty last one is taken for the end of the line before it.
-/

namespace SkillNode
namespace Text

/-- A text without line breaks, which may stand on a line of its own. -/
def IsUnbroken (line : Text) : Prop := ∀ c ∈ line, isLineBreak c = false

@[simp] theorem lines_lineFeed (rest : Text) : lines ('\n' :: rest) = [] :: lines rest := by
  rw [lines]
  · rfl
  · intro _ isReturn
    cases isReturn

/-- A character that is no break stands on the first line of what follows it. -/
theorem lines_cons_of_stays {c : Char} (stays : isLineBreak c = false) (rest : Text) :
    lines (c :: rest) =
      match lines rest with
      | [] => [[c]]
      | line :: more => (c :: line) :: more := by
  rw [lines]
  · exact if_neg (by simp [stays])
  · rintro _ rfl
    exact absurd stays (by decide)

/-- A line feed ends the line that stands before it. -/
theorem lines_append_lineFeed {line : Text} (unbroken : IsUnbroken line) (rest : Text) :
    lines (line ++ '\n' :: rest) = line :: lines rest := by
  induction line with
  | nil => exact lines_lineFeed rest
  | cons c line lineHypothesis =>
      have restUnbroken : IsUnbroken line := fun d member =>
        unbroken d (List.mem_cons_of_mem _ member)
      rw [List.cons_append, lines_cons_of_stays (unbroken c (List.mem_cons_self ..)),
        lineHypothesis restUnbroken]

/-- A text without breaks is one line, unless there is nothing in it. -/
theorem lines_of_unbroken {line : Text} (unbroken : IsUnbroken line) (notEmpty : line ≠ []) :
    lines line = [line] := by
  induction line with
  | nil => exact absurd rfl notEmpty
  | cons c line lineHypothesis =>
      have restUnbroken : IsUnbroken line := fun d member =>
        unbroken d (List.mem_cons_of_mem _ member)
      rw [lines_cons_of_stays (unbroken c (List.mem_cons_self ..))]
      cases line with
      | nil => rfl
      | cons d line => rw [lineHypothesis restUnbroken (by simp)]

/-- Lines that end in line feeds are cut into themselves. -/
theorem lines_flatMap_lineFeed {texts : List Text} (unbroken : ∀ line ∈ texts, IsUnbroken line) :
    lines (texts.flatMap (· ++ ['\n'])) = texts := by
  induction texts with
  | nil => rfl
  | cons line texts textsHypothesis =>
      have ended : (line :: texts).flatMap (· ++ ['\n']) =
          line ++ '\n' :: texts.flatMap (· ++ ['\n']) := by
        simp
      rw [ended, lines_append_lineFeed (unbroken line (List.mem_cons_self ..)),
        textsHypothesis fun other member => unbroken other (List.mem_cons_of_mem _ member)]

/-- Joined lines are cut into themselves, but an empty last line is lost. -/
theorem lines_join {texts : List Text} (unbroken : ∀ line ∈ texts, IsUnbroken line) :
    lines (join ['\n'] texts) = texts ∨ lines (join ['\n'] texts) ++ [[]] = texts := by
  induction texts with
  | nil => exact .inl rfl
  | cons line texts textsHypothesis =>
      have lineUnbroken := unbroken line (List.mem_cons_self ..)
      cases texts with
      | nil =>
          have alone : join ['\n'] [line] = line := by simp [join, List.intercalate]
          rw [alone]
          by_cases notEmpty : line = []
          · subst notEmpty
            exact .inr rfl
          · exact .inl (lines_of_unbroken lineUnbroken notEmpty)
      | cons next others =>
          have joined : join ['\n'] (line :: next :: others) =
              line ++ '\n' :: join ['\n'] (next :: others) := by
            simp [join, List.intercalate]
          rw [joined, lines_append_lineFeed lineUnbroken]
          have othersCut := textsHypothesis fun other member =>
            unbroken other (List.mem_cons_of_mem _ member)
          exact othersCut.imp (congrArg (line :: ·)) (congrArg (line :: ·))

end Text
end SkillNode
