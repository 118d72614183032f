import SkillNode.Proofs.CorrespondingOutcomes
import SkillNode.Proofs.Statechart.Acceptance

/-!
# Sources of behaviour descriptions

The last component of a source can name a skill, by its stem. The rest of it tells where a
description was found, which errors and records repeat and the model notes, and nothing else
comes of it.

The main statement compares two readings of one text under sources that end alike: both give
one model but for the noted place, or both fail for one reason.
-/

namespace SkillNode
namespace Statechart

open FileTree (Path)
open Markup (Document)

/-! ## Complaints -/

@[simp] theorem complaint_unsourced (source element : Text) (line : Nat) :
    Error.unsourced ∘ complaint source element line = complaint [] element line := rfl

theorem DataItem.complaints_unsourced (source : Text) (item : DataItem) :
    (item.complaints source).map Error.unsourced = item.complaints [] := by
  simp [DataItem.complaints]

theorem AssignItem.complaints_unsourced (source : Text) (item : AssignItem) :
    (item.complaints source).map Error.unsourced = item.complaints [] := by
  simp [AssignItem.complaints]

theorem HandlerItem.complaints_unsourced
    (source : Text)
    (kindOf? : Text → Option Interface.Kind)
    (item : HandlerItem) :
    (item.complaints source kindOf?).map Error.unsourced = item.complaints [] kindOf? := by
  simp [HandlerItem.complaints, List.map_flatMap, AssignItem.complaints_unsourced]

theorem StateItem.complaints_unsourced
    (source : Text)
    (kindOf? : Text → Option Interface.Kind)
    (item : StateItem) :
    (item.complaints source kindOf?).map Error.unsourced = item.complaints [] kindOf? := by
  simp [StateItem.complaints, List.map_flatMap, HandlerItem.complaints_unsourced]

theorem RequestItem.complaints_unsourced
    (source : Text)
    (kindOf? : Text → Option Interface.Kind)
    (item : RequestItem) :
    (item.complaints source kindOf?).map Error.unsourced = item.complaints [] kindOf? := by
  simp [RequestItem.complaints]

theorem declarationComplaints_unsourced
    (source : Text)
    (earlier : List Text)
    (items : List DeclarationItem) :
    (declarationComplaints source earlier items).map Error.unsourced =
      declarationComplaints [] earlier items := by
  induction items generalizing earlier with
  | nil => rfl
  | cons item rest restHypothesis =>
      rw [declarationComplaints, List.map_append, restHypothesis]
      simp [declarationComplaints, DeclarationItem.complaints]

/-- What is wrong with an outline does not depend on its source. -/
theorem Outline.complaints_unsourced (source fallbackName : Text) (outline : Outline) :
    (outline.complaints source fallbackName).map Error.unsourced =
      outline.complaints [] fallbackName := by
  have ofItems : (outline.itemComplaints source).map Error.unsourced =
      outline.itemComplaints [] := by
    simp only [itemComplaints, List.map_append, List.map_flatMap, DataItem.complaints_unsourced,
      declarationComplaints_unsourced, StateItem.complaints_unsourced,
      RequestItem.complaints_unsourced]
  unfold complaints
  rw [List.map_append, List.map_append, ofItems]
  split <;> split <;> rfl

/-! ## Models -/

/-- A model without the source that it was read from. -/
def Model.unsourced {Endpoints : Type} (model : Model Endpoints) : Model Endpoints :=
  { model with source := [] }

/-- Two models that are the same but for the places that their sources, which end alike, lead
to. -/
structure Model.SameButPlace {Endpoints : Type} (first second : Model Endpoints) : Prop where
  fileName : (Path.ofText first.source).name = (Path.ofText second.source).name
  unsourced : first.unsourced = second.unsourced

theorem Outline.unsourced_model (source fallbackName : Text) (outline : Outline) :
    (outline.model source fallbackName).unsourced = outline.model [] fallbackName := by
  unfold Outline.model Outline.taken
  generalize (nodeName? (outline.skillName fallbackName)).getD [] = nodeName
  have sameEndpoints : (outline.takeAll source nodeName).endpoints =
      (outline.takeAll [] nodeName).endpoints := by
    rw [endpoints_takeAll, endpoints_takeAll]
  have sameSurroundings : (outline.takeAll source nodeName).surroundings =
      (outline.takeAll [] nodeName).surroundings := by
    rw [surroundings_takeAll, surroundings_takeAll]
  obtain ⟨sameVariables, sameStates⟩ := Prod.mk.inj sameSurroundings
  unfold Progress.finish Model.unsourced
  rw [sameEndpoints, sameVariables, sameStates]

/-! ## Resolution -/

/-- The source has a part in the records about a field only. -/
theorem resolveField_unsourced
    (model : RawModel)
    (catalog : Interface.Catalog)
    (endpoint : Endpoint)
    (field : Text) :
    resolveField model.unsourced catalog endpoint field =
      resolveField model catalog endpoint field := by
  have sameVariable : ∀ id, model.unsourced.variableNamed? id = model.variableNamed? id :=
    fun _ => rfl
  unfold resolveField resolveType
  rw [sameVariable]
  cases catalog.fieldType? endpoint.key field endpoint.kind.delivered with
  | some type => rfl
  | none =>
      dsimp only
      split <;> rfl

theorem unsourced_resolve (model : RawModel) (catalog : Interface.Catalog) :
    (resolve model catalog).unsourced = resolve model.unsourced catalog := by
  have sameEndpoints : model.endpoints.map (resolveEndpoint model.unsourced catalog) =
      model.endpoints.map (resolveEndpoint model catalog) := by
    refine List.map_congr_left fun endpoint _ => ?_
    unfold resolveEndpoint
    rw [List.map_congr_left fun field _ => resolveField_unsourced model catalog endpoint field]
  unfold resolve Model.unsourced
  rw [← sameEndpoints]
  rfl

/-! ## Readings -/

/-- Verdicts on the same complaints correspond. -/
theorem corresponding_verdict
    {First Second : Type}
    {Alike : First → Second → Prop}
    {first : First}
    {second : Second}
    {troubles others : List Error}
    (sameTroubles : troubles.map Error.unsourced = others.map Error.unsourced)
    (alike : Alike first second) :
    Corresponding Alike (verdict (troubles.map .statechart) first)
      (verdict (others.map .statechart) second) := by
  cases troubles with
  | nil =>
      obtain rfl : others = [] := List.map_eq_nil_iff.mp sameTroubles.symm
      exact .result alike
  | cons trouble rest =>
      obtain ⟨other, others, rfl, sameTrouble, _⟩ := List.map_eq_cons_iff.mp sameTroubles.symm
      exact .failure (congrArg SkillNode.Failure.statechart sameTrouble.symm)

/-- A text is read alike under sources that end in one component. -/
theorem corresponding_ofText
    {first second : Text}
    (sameFile : (Path.ofText first).name = (Path.ofText second).name)
    (text : Text) :
    Corresponding Model.SameButPlace (ofText first text).outcome (ofText second text).outcome := by
  have sameStem : (Path.ofText first).stem = (Path.ofText second).stem := by
    rw [Path.stem, Path.stem, sameFile]
  cases reads : Document.read (Text.utf8 text) with
  | error trouble =>
      simp only [ofText, readText, reads]
      cases trouble <;> exact .failure rfl
  | ok document =>
      rw [(IsReading.ofText reads).outcome_eq, (IsReading.ofText reads).outcome_eq]
      refine corresponding_verdict ?_ ⟨sameFile, ?_⟩
      · rw [complaintsOf, complaintsOf, Outline.complaints_unsourced, Outline.complaints_unsourced,
          sameStem]
      · rw [modelOf, modelOf, Outline.unsourced_model, Outline.unsourced_model, sameStem]

end Statechart
end SkillNode
