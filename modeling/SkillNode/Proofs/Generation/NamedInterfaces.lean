import SkillNode.Generation.Sources
import SkillNode.Proofs.Interface.CatalogLookups
import SkillNode.Statechart.Loading

/-!
# The interfaces that a model names

Resolution looks up the interfaces of the endpoints of a model and no others. Catalogs that
say the same of these cannot be told apart by the typed model, by the records made about it,
or by what is generated of it: other interfaces may come and go, and be described in any
order.
-/

namespace SkillNode

namespace Statechart

open Interface (Catalog Key)

/-- Whether a model has an endpoint with an interface. -/
def Model.names (model : RawModel) (key : Key) : Bool := model.endpoints.any (·.key = key)

section Congruence

variable {left right : Catalog} {endpoint : Endpoint}

/-- The type of a field is looked up in the interface of the endpoint. -/
theorem resolveType_congr
    (model : RawModel)
    (agree : left.AgreeAt right endpoint.key)
    (field : Text) :
    resolveType model left endpoint field = resolveType model right endpoint field := by
  unfold resolveType
  rw [agree.fieldType?]

theorem resolveEndpoint_congr
    (model : RawModel)
    (agree : left.AgreeAt right endpoint.key) :
    resolveEndpoint model left endpoint = resolveEndpoint model right endpoint := by
  have sameFields : endpoint.assignedFields.map (resolveField model left endpoint) =
      endpoint.assignedFields.map (resolveField model right endpoint) :=
    List.map_congr_left fun field _ => by
      unfold resolveField
      rw [resolveType_congr model agree]
  unfold resolveEndpoint
  rw [sameFields, agree.fields]

theorem endpointLog_congr
    (model : RawModel)
    (agree : left.AgreeAt right endpoint.key) :
    endpointLog model left endpoint = endpointLog model right endpoint := by
  have sameRecords : ∀ field, (resolveType model left endpoint field).2.2 =
      (resolveType model right endpoint field).2.2 :=
    fun field => by rw [resolveType_congr model agree]
  unfold endpointLog interfaceWarnings
  rw [agree.contains, List.flatMap_congr fun field _ => sameRecords field]

section Models

variable {model : RawModel} (agree : ∀ endpoint ∈ model.endpoints, left.AgreeAt right endpoint.key)

include agree

/-- Catalogs that say the same of all interfaces of a model give the same types. -/
theorem resolve_congr : resolve model left = resolve model right := by
  have sameEndpoints : model.endpoints.map (resolveEndpoint model left) =
      model.endpoints.map (resolveEndpoint model right) :=
    List.map_congr_left fun endpoint member => resolveEndpoint_congr model (agree endpoint member)
  unfold resolve
  rw [sameEndpoints]

/-- They also give the same records. -/
theorem resolutionLog_congr : resolutionLog model left = resolutionLog model right :=
  List.flatMap_congr fun endpoint member => endpointLog_congr model (agree endpoint member)

end Models

end Congruence

end Statechart

namespace Generation

open Interface (Catalog Description)
open Statechart (RawModel)

/-- Two catalogs give a model the same types, with the same records, and of both the same
sources or the same error are generated. -/
structure TreatAlike (model : RawModel) (left right : Catalog) : Prop where
  typed : Statechart.typed left model = Statechart.typed right model
  generated : ∀ folder set options,
    generate folder set options (Statechart.resolve model left) =
      generate folder set options (Statechart.resolve model right)

theorem TreatAlike.of_agree
    {model : RawModel}
    {left right : Catalog}
    (agree : ∀ endpoint ∈ model.endpoints, left.AgreeAt right endpoint.key) :
    TreatAlike model left right where
  typed := by
    rw [Statechart.typed, Statechart.typed, Statechart.resolve_congr agree,
      Statechart.resolutionLog_congr agree]
  generated folder set options := by rw [Statechart.resolve_congr agree]

/-- Resolution reads only the interfaces that a model names. Catalogs that say the same of
these treat it alike. So do catalogs made from descriptions that are the same as far as these
interfaces are concerned, whatever else is described before, between or after them. And
descriptions with distinct keys that are accepted in one order are accepted in any other,
where they make the same catalog. -/
theorem resolution_readsNamedInterfaces (model : RawModel) :
    (∀ left right : Catalog,
      (∀ endpoint ∈ model.endpoints, left.AgreeAt right endpoint.key) →
        TreatAlike model left right) ∧
    (∀ (catalog left right : Catalog) (first second : List Description),
      first.filter (model.names ·.key) = second.filter (model.names ·.key) →
      (catalog.addDescriptions first).outcome = .ok left →
      (catalog.addDescriptions second).outcome = .ok right →
        TreatAlike model left right) ∧
    ∀ (catalog extended : Catalog) (descriptions others : List Description),
      (descriptions.map Description.key).Nodup →
      descriptions.Perm others →
      (catalog.addDescriptions descriptions).outcome = .ok extended →
        (catalog.addDescriptions others).outcome = .ok extended := by
  refine ⟨fun left right agree => .of_agree agree, ?_, ?_⟩
  · intro catalog left right first second sameNamed addedFirst addedSecond
    refine .of_agree fun endpoint member => ?_
    have isNamed : model.names endpoint.key :=
      List.any_eq_true.mpr ⟨endpoint, member, decide_eq_true rfl⟩
    exact Catalog.agreeAt_of_filter model.names sameNamed addedFirst addedSecond isNamed
  · intro catalog extended descriptions others distinct reordered added
    exact Catalog.addDescriptions_of_perm distinct reordered added

/-- A gauge that is watched. -/
def gaugeModel : RawModel where
  name := "gauge"
  source := "gauge.scxml"
  initial := "a"
  datamodel := []
  states := [⟨"a", none, false, []⟩]
  endpoints :=
    [{ nodeName := "gauge_skill", clientName := "/g", kind := .topic, rosName := "/g",
       key := ⟨"m", "Level"⟩, assignments := [⟨"v", "level"⟩], assignedFields := ["v"] }]

/-- The gauge is typed by the message that it names, whether another one is known or not. -/
theorem resolution_readsNamedInterfaces_gauge :
    let level : Description := ⟨⟨"m", "Level"⟩, "int32 v\n", false, []⟩
    let other : Description := ⟨⟨"m", "Other"⟩, "bool v\n", false, []⟩
    ∃ left right,
      (Catalog.empty.addDescriptions [level]).outcome = .ok left ∧
        (Catalog.empty.addDescriptions [other, level]).outcome = .ok right ∧
        (Catalog.empty.addDescriptions [level, other]).outcome = .ok right ∧
        left.size = 1 ∧ right.size = 2 ∧
        TreatAlike gaugeModel left right ∧
        ((Statechart.resolve gaugeModel right).endpoints.flatMap (·.resolvedFields)) =
          [⟨"v", "level", .int32, .catalog⟩] := by
  intro level other
  have readsNamed := resolution_readsNamedInterfaces gaugeModel
  have areAccepted : ∀ description ∈ [other, level], description.isAccepted := by decide +kernel
  have addedLeft := Catalog.outcome_addDescriptions
    (List.forall_mem_cons.mp areAccepted).2 Catalog.empty
  have addedRight := Catalog.outcome_addDescriptions areAccepted Catalog.empty
  exact ⟨_, _, addedLeft, addedRight,
    readsNamed.2.2 _ _ _ _ (by decide +kernel) (.swap ..) addedRight, by decide +kernel,
    by decide +kernel, readsNamed.2.1 _ _ _ _ _ (by decide +kernel) addedLeft addedRight,
    by decide +kernel⟩

end Generation
end SkillNode
