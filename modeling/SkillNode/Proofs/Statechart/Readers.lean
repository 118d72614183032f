import SkillNode.Statechart.Loading

/-!
# Readers

A reader that was used before gives the model or the error, and the log, that a new one
gives. What it remembers of earlier documents, also of those that it did not read to the
end, is there when it turns to the next one, and is given up before anything is taken in.
-/

namespace SkillNode
namespace Statechart

/-- The outcome and the log of an extraction are those of a new reader. -/
theorem extract_of_memory
    (outline : Outline)
    (source fallbackName : Text)
    (memory : Memory) :
    (outline.extract source fallbackName memory).outcome =
        (outline.extract source fallbackName).outcome ∧
      (outline.extract source fallbackName memory).log =
        (outline.extract source fallbackName).log := by
  unfold Outline.extract
  split
  · exact ⟨rfl, rfl⟩
  · dsimp only
    split
    · exact ⟨rfl, rfl⟩
    · next nodeName named =>
        -- Both take in the items of the outline from where nothing is known.
        rw [Memory.progress_start, Memory.progress_start]
        split <;> exact ⟨rfl, rfl⟩

/-- A text is read as a new reader reads it. -/
theorem runOf_readText (source text : Text) (memory : Memory) :
    runOf (readText source text memory) = ofText source text := by
  unfold ofText readText
  split
  · next document reads =>
      obtain ⟨sameOutcome, sameLog⟩ := extract_of_memory (Outline.ofDocument document) source
        (FileTree.Path.ofText source).stem memory
      simp only [runOf, outcomeOf, logOf, extractDocument, sameOutcome, sameLog]
  · rfl
  · rfl

end Statechart
end SkillNode
