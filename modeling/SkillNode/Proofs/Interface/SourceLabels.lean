import SkillNode.Proofs.CorrespondingOutcomes
import SkillNode.Proofs.Interface.CatalogLookups

/-!
# Labels of interface descriptions

A description may say where it comes from. Errors and records name that place, and nothing
else is made of it: descriptions that differ in it alone are both accepted or both refused,
for the same reason and at the same line, and declare the same sections.
-/

namespace SkillNode
namespace Interface

/-- An error as found in another source. -/
def Error.foundIn (source : Text) (error : Error) : Error := { error with source := source }

/-- Lines are read alike in every source. -/
theorem fieldsOfLines_foundIn (first second : Text) (number : Int) (lines : List Text) :
    fieldsOfLines second number lines =
      (fieldsOfLines first number lines).mapError (Error.foundIn second) := by
  induction lines generalizing number with
  | nil => rfl
  | cons line rest restHypothesis =>
      unfold fieldsOfLines
      cases Field.ofLine line with
      | error fault => rfl
      | ok declared =>
          dsimp only
          rw [restHypothesis]
          cases fieldsOfLines first (number + 1) rest <;> rfl

theorem readFields_foundIn (first second text : Text) (firstLine : Int) :
    readFields text second firstLine =
      (readFields text first firstLine).mapError (Error.foundIn second) :=
  fieldsOfLines_foundIn first second firstLine (Text.lines text)

namespace Description

/-- A description without the place that it comes from. -/
def unlabelled (description : Description) : Description := { description with source := [] }

theorem serviceSections_foundIn (first second : Text) (lines : List Text) :
    serviceSections second lines =
      (serviceSections first lines).mapError (Error.foundIn second) := by
  unfold serviceSections
  split
  · dsimp only
    rw [readFields_foundIn first second]
    cases readFields _ first 1 with
    | error error => rfl
    | ok request =>
        dsimp only [Except.mapError]
        rw [readFields_foundIn first second]
        cases readFields _ first _ <;> rfl
  · rfl

/-- Descriptions that are the same but for their labels declare the same sections, or are
both refused. -/
theorem sections_foundIn
    {first second : Description}
    (same : first.unlabelled = second.unlabelled) :
    second.sections = first.sections.mapError (Error.foundIn second.sourceName) := by
  obtain ⟨_, sameText, sameSort, _⟩ := Description.mk.inj same
  unfold sections
  rw [← sameText, ← sameSort]
  split
  · exact serviceSections_foundIn ..
  · rw [readFields_foundIn first.sourceName]
    cases readFields first.text first.sourceName 1 <;> rfl

end Description

namespace Catalog

/-- Two catalogs with the same keys and the same sections of each. -/
def SameSections (left right : Catalog) : Prop :=
  ∀ key, (left.find? key).map Entry.sections = (right.find? key).map Entry.sections

theorem SameSections.insert
    {left right : Catalog}
    (same : SameSections left right)
    {first second : Entry}
    (sameKey : first.key = second.key)
    (sameEntry : first.sections = second.sections) :
    SameSections (left.insert first) (right.insert second) := by
  intro key
  rw [find?_insert, find?_insert, sameKey]
  split
  · exact congrArg some sameEntry
  · exact same key

/-- Descriptions that are the same but for their labels are added alike. -/
theorem corresponding_addDescription
    {left right : Catalog}
    (sameSections : SameSections left right)
    {first second : Description}
    (same : first.unlabelled = second.unlabelled) :
    Corresponding SameSections (left.addDescription first).outcome
      (right.addDescription second).outcome := by
  have sameKey : first.key = second.key := (Description.mk.inj same).1
  unfold addDescription add
  rw [Description.sections_foundIn same]
  cases first.sections with
  | error error => exact .failure rfl
  | ok sections => exact .result (sameSections.insert sameKey rfl)

theorem corresponding_addDescriptions
    {left right : Catalog}
    (sameSections : SameSections left right)
    {first second : List Description}
    (same : first.map Description.unlabelled = second.map Description.unlabelled) :
    Corresponding SameSections (left.addDescriptions first).outcome
      (right.addDescriptions second).outcome := by
  induction first generalizing second left right with
  | nil =>
      obtain rfl : second = [] := List.map_eq_nil_iff.mp same.symm
      exact .result sameSections
  | cons description rest restHypothesis =>
      obtain ⟨other, others, rfl, sameFirst, sameRest⟩ := List.map_eq_cons_iff.mp same.symm
      rw [addDescriptions, addDescriptions, Run.outcome_bind, Run.outcome_bind]
      exact (corresponding_addDescription sameSections sameFirst.symm).bind
        fun _ _ sameOnce => restHypothesis sameOnce sameRest.symm

end Catalog
end Interface
end SkillNode
