import SkillNode.Pipeline
import SkillNode.Proofs.Generation.NamedInterfaces
import SkillNode.Proofs.Generation.Outcomes
import SkillNode.Proofs.Interface.SourceLabels
import SkillNode.Proofs.Statechart.SourceNames

/-!
# Generation and places

Where a behaviour description and the interfaces lie has no part in what is generated. All
that is told of a place is the last component of the source: its stem names a skill without
a name of its own, and the comment at the top of both files repeats it.
-/

namespace SkillNode

namespace Statechart

open Interface (Catalog)

/-- Models that are the same but for their places are resolved alike from catalogs with the
same sections. -/
theorem Model.SameButPlace.resolve
    {first second : RawModel}
    (same : first.SameButPlace second)
    {left right : Catalog}
    (sameSections : left.SameSections right) :
    (Statechart.resolve first left).SameButPlace (Statechart.resolve second right) where
  fileName := same.fileName
  unsourced := by
    have sameModel : Statechart.resolve first.unsourced left =
        Statechart.resolve first.unsourced right :=
      resolve_congr fun endpoint _ => Catalog.AgreeAt.of_sections (sameSections endpoint.key)
    rw [unsourced_resolve, unsourced_resolve, sameModel, same.unsourced]

end Statechart

namespace Generation

open Statechart (Model TypedModel)
open Template (Folder)

section

variable {first second : TypedModel}

/-- A model at another place has the same blueprint, which is about that model. -/
theorem Blueprint.ofModel_moved
    (same : first.SameButPlace second)
    (options : Options) :
    Blueprint.ofModel options second =
      (Blueprint.ofModel options first).map ({ · with model := second }) := by
  obtain ⟨sameName, _, _, _, _, sameEndpoints⟩ := Model.mk.inj same.unsourced
  have sameServices : first.services = second.services := by
    rw [Model.services, Model.services, sameEndpoints]
  have sameTopics : first.topics = second.topics := by
    rw [Model.topics, Model.topics, sameEndpoints]
  unfold Blueprint.ofModel
  rw [sameName, sameEndpoints, sameServices, sameTopics]
  cases chooseClassName options second.name with
  | error error => rfl
  | ok className =>
      cases second.endpoints.mapM Binding.ofResolved with
      | error error => rfl
      | ok all =>
          simp only [bind, Except.bind]
          split
          · rfl
          · cases Naming.className? second.name <;> rfl

/-- The context tells of the place no more than the last component of the source. -/
theorem Blueprint.context_moved
    {blueprint : Blueprint}
    (same : blueprint.model.SameButPlace second) :
    { blueprint with model := second }.context = blueprint.context := by
  obtain ⟨sameName, _, sameInitial, sameVariables, _, _⟩ := Model.mk.inj same.unsourced
  unfold Blueprint.context Blueprint.fileHeader
  rw [sameName, sameInitial, sameVariables, same.fileName]
  rfl

/-- The same is generated of models that are the same but for their places. -/
theorem generate_congr
    (same : first.SameButPlace second)
    (folder : Folder)
    (set : TemplateSet)
    (options : Options) :
    generate folder set options first = generate folder set options second := by
  unfold generate
  rw [Blueprint.ofModel_moved same]
  cases gathers : Blueprint.ofModel options first with
  | error error => rfl
  | ok blueprint =>
      obtain ⟨isAbout, _⟩ := Blueprint.bindings_inOrder gathers
      subst isAbout
      have sameRender : ∀ template, { blueprint with model := second }.render folder template =
          blueprint.render folder template := fun template => by
        unfold Blueprint.render
        rw [Blueprint.context_moved same]
      simp only [Except.map, bind, Except.bind, sameRender]
      rfl

end

end Generation

namespace Pipeline

open Generation (TemplateSet Options)
open Template (Folder)
open FileTree (Path)

/-- Two inputs with the same text and the same interfaces in the same order, under sources
with the same last component. -/
structure Input.SameButPlaces (first second : Input) : Prop where
  fileName : (Path.ofText first.source).name = (Path.ofText second.source).name
  text : first.text = second.text
  interfaces : first.interfaces.map Interface.Description.unlabelled =
    second.interfaces.map Interface.Description.unlabelled

theorem corresponding_typedModel
    {first second : Input}
    (same : first.SameButPlaces second) :
    Corresponding Statechart.Model.SameButPlace (typedModel first).outcome
      (typedModel second).outcome := by
  unfold typedModel
  rw [Run.outcome_bind, Run.outcome_bind, same.text]
  refine (Statechart.corresponding_ofText same.fileName second.text).bind
    fun model other sameModel => ?_
  rw [Run.outcome_bind, Run.outcome_bind]
  refine (Interface.Catalog.corresponding_addDescriptions (fun _ => rfl) same.interfaces).bind
    fun left right sameSections => ?_
  exact .result (sameModel.resolve sameSections)

/-- Wherever its inputs lie, the pipeline gives the same sources, or it fails for the same
reason, whichever the templates and the options. -/
theorem sources_independentOfPlaces
    {first second : Input}
    (same : first.SameButPlaces second)
    (folder : Folder)
    (set : TemplateSet)
    (options : Options) :
    (∃ generated, (sources folder set options first).outcome = .ok generated ∧
        (sources folder set options second).outcome = .ok generated) ∨
      ∃ failure other, (sources folder set options first).outcome = .error failure ∧
        (sources folder set options second).outcome = .error other ∧
        failure.unsourced = other.unsourced := by
  refine Corresponding.eq_or_fail ?_
  unfold sources
  rw [Run.outcome_bind, Run.outcome_bind]
  refine (corresponding_typedModel same).bind fun model other sameModel => ?_
  rw [Generation.generate_congr sameModel]
  cases Generation.generate folder set options other with
  | error error => exact .failure rfl
  | ok generated => exact .result rfl

/-- The description of a door under some source, beside an interface with some label. -/
def doorInput (source label : Text) : Input :=
  ⟨source, Generation.doorChart, [⟨⟨"m", "Lamp"⟩, "bool on\n", false, label⟩]⟩

/-- The door skill is the same, wherever the door and the lamp are described. -/
theorem sources_independentOfPlaces_door :
    (doorInput "door.scxml" "m/Lamp.msg").SameButPlaces (doorInput "/home/./door.scxml" []) ∧
      ∃ generated,
        (sources Generation.bundledFolder [] {} (doorInput "door.scxml" "m/Lamp.msg")).outcome =
            .ok generated ∧
          (sources Generation.bundledFolder [] {} (doorInput "/home/./door.scxml" [])).outcome =
            .ok generated := by
  have same : (doorInput "door.scxml" "m/Lamp.msg").SameButPlaces
      (doorInput "/home/./door.scxml" []) :=
    ⟨by decide +kernel, rfl, rfl⟩
  have typed : (typedModel (doorInput "door.scxml" "m/Lamp.msg")).outcome =
      .ok (Statechart.resolve Generation.doorModel Interface.Catalog.empty) := by
    decide +kernel
  have gathered : (Generation.Blueprint.ofModel {} (Statechart.resolve Generation.doorModel
      Interface.Catalog.empty)).isOk := by
    decide +kernel
  obtain ⟨blueprint, gathers⟩ := exists_ok_of_isOk gathered
  have first : (sources Generation.bundledFolder [] {}
      (doorInput "door.scxml" "m/Lamp.msg")).outcome =
        .ok (Generation.layoutSources blueprint) := by
    rw [sources, Run.outcome_bind, typed, Except.bind,
      Generation.generate_of_isPlain Generation.isPlain_doorModel rfl
        Generation.Options.isPrintable_default gathers]
    rfl
  rcases sources_independentOfPlaces same Generation.bundledFolder [] {} with
    ⟨generated, firstToo, second⟩ | ⟨failure, _, fails, _⟩
  · exact ⟨same, generated, firstToo, second⟩
  · rw [first] at fails
    cases fails

end Pipeline
end SkillNode
