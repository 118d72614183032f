import SkillNode.Proofs.Generation.Gathering
import SkillNode.Proofs.Statechart.HandlerVisits

/-!
# Response fields

What an endpoint was assigned in a document is what its response hands over in the
generated code: one field for each name, in the order in which the names came first, each
with the variable that it was assigned to last.

Fields are read from the document, resolved one by one and freed of repetitions; the main
statement follows them from the assignments to the bindings of a blueprint.
-/

namespace SkillNode
namespace Generation

open Markup (Document)
open Statechart (Assignment Endpoint ResolvedEndpoint ResolvedField RawModel IsReading ofText
  dataItems dataLog visitLog assignVisits uninvokedWarnings targetWarnings declarationsIn clientOf)

/-! ## Bindings -/

/-- Two views of items and results that agree on each agree on all. -/
theorem map_eq_of_mapM_ok
    {Item Result Trouble Seen : Type}
    {transform : Item → Except Trouble Result}
    {items : List Item}
    {results : List Result}
    (mapped : items.mapM transform = .ok results)
    {see : Result → Seen}
    {look : Item → Seen}
    (agree : ∀ item result, transform item = .ok result → see result = look item) :
    results.map see = items.map look := by
  have related := mapM_eq_ok_iff.mp mapped
  clear mapped
  induction related with
  | nil => rfl
  | cons first rest restHypothesis =>
      rw [List.map_cons, List.map_cons, agree _ _ first, restHypothesis]

/-- The name of a response field and the variable that it is handed over to. -/
def ResponseField.assignment (field : ResponseField) : Assignment := ⟨field.name, field.location⟩

theorem assignment_of_ofResolved
    {root : Text}
    {field : ResolvedField}
    {response : ResponseField}
    (handedOver : ResponseField.ofResolved root field = .ok response) :
    response.assignment = ⟨field.name, field.location⟩ := by
  unfold ResponseField.ofResolved at handedOver
  split at handedOver
  · cases handedOver
    rfl
  · cases handedOver

theorem assignments_of_ofResolved
    {resolved : ResolvedEndpoint}
    {binding : Binding}
    (bound : Binding.ofResolved resolved = .ok binding) :
    binding.responseFields.map ResponseField.assignment =
      (distinctFields resolved.resolvedFields).map fun field => ⟨field.name, field.location⟩ := by
  unfold Binding.ofResolved at bound
  split at bound
  · next fields mapped =>
      cases bound
      exact map_eq_of_mapM_ok mapped fun field response => assignment_of_ofResolved
  · cases bound

/-- Of fields that are told by their names the first of each name is left. -/
theorem distinctFields_map
    {fieldNamed : Text → ResolvedField}
    (named : ∀ name, (fieldNamed name).name = name)
    (names : List Text) :
    distinctFields (names.map fieldNamed) = names.eraseDups.map fieldNamed := by
  induction names with
  | nil => simp [distinctFields]
  | cons name rest restHypothesis =>
      have sameTest : (fun field : ResolvedField => decide (field.name ≠ (fieldNamed name).name)) ∘
          fieldNamed = fun other => !(other == name) := by
        funext other
        rw [Bool.eq_iff_iff]
        simp [named]
      rw [List.map_cons, distinctFields, restHypothesis, List.filter_map, sameTest,
        Statechart.filter_eraseDups, List.eraseDups_cons, List.map_cons]

/-- The distinct fields of an endpoint are resolved as they are assigned; the variable that
a field is named after is never taken. -/
theorem assignments_resolveEndpoint
    {endpoint : Endpoint}
    (distinct : endpoint.assignments.map Assignment.field = endpoint.assignedFields.eraseDups)
    (model : RawModel)
    (catalog : Interface.Catalog) :
    (distinctFields (Statechart.resolveEndpoint model catalog endpoint).resolvedFields).map
        (fun field => Assignment.mk field.name field.location) =
      endpoint.assignments := by
  have noRepetition : (endpoint.assignments.map Assignment.field).Nodup :=
    distinct ▸ Statechart.eraseDups_nodup _
  have located : ∀ assignment ∈ endpoint.assignments,
      endpoint.locationOf? assignment.field = some assignment.location := by
    intro assignment member
    rw [Endpoint.locationOf?,
      (find?_key_eq_some_iff noRepetition).mpr ⟨member, rfl⟩]
    rfl
  rw [Statechart.resolveEndpoint, distinctFields_map fun _ => rfl, ← distinct, List.map_map,
    List.map_map]
  refine (List.map_congr_left fun assignment member => ?_).trans (List.map_id _)
  simp [Statechart.resolveField, located assignment member]

/-! ## Blueprints -/

/-- The bindings of a blueprint hand over what the endpoints were assigned, endpoint by
endpoint. -/
theorem responseFields_of_ofModel
    {model : RawModel}
    (clients : (model.endpoints.map Endpoint.clientName).Nodup)
    (distinct : ∀ endpoint ∈ model.endpoints,
      endpoint.assignments.map Assignment.field = endpoint.assignedFields.eraseDups)
    {catalog : Interface.Catalog}
    {options : Options}
    {blueprint : Blueprint}
    (gathers : Blueprint.ofModel options (Statechart.resolve model catalog) = .ok blueprint) :
    blueprint.bindings.map (fun binding =>
        (binding.clientName, binding.responseFields.map ResponseField.assignment)) =
      model.endpoints.map fun endpoint => (endpoint.clientName, endpoint.assignments) := by
  obtain ⟨className, derived, all, _, _, mapped, _, rfl⟩ :=
    Blueprint.ofModel_eq_ok_iff.mp gathers
  have endpoints : (Statechart.resolve model catalog).endpoints =
      model.endpoints.map (Statechart.resolveEndpoint model catalog) := rfl
  rw [endpoints] at mapped
  have handedOver : all.map (fun binding =>
      (binding.clientName, binding.responseFields.map ResponseField.assignment)) =
        (model.endpoints.map (Statechart.resolveEndpoint model catalog)).map fun resolved =>
          (resolved.endpoint.clientName, (distinctFields resolved.resolvedFields).map
            fun field => Assignment.mk field.name field.location) := by
    refine map_eq_of_mapM_ok mapped fun resolved binding bound => ?_
    rw [assignments_of_ofResolved bound, Binding.clientName, Binding.endpoint,
      Binding.resolved_of_ofResolved bound]
  have perEndpoint : all.map (fun binding =>
      (binding.clientName, binding.responseFields.map ResponseField.assignment)) =
        model.endpoints.map fun endpoint => (endpoint.clientName, endpoint.assignments) := by
    rw [handedOver, List.map_map]
    refine List.map_congr_left fun endpoint member => ?_
    exact congrArg _ (assignments_resolveEndpoint (distinct endpoint member) model catalog)
  -- The clients are distinct, so no binding is put in place of another.
  have keepsAll : gathered all = all := by
    refine gathered_of_nodup (clients_of_mapM mapped ?_).2
    rw [← endpoints, Statechart.clients_resolve]
    exact clients
  have bindings : (blueprintOf options (Statechart.resolve model catalog) className derived
      (gathered all)).bindings = all := keepsAll
  rw [bindings, perEndpoint]

/-! ## Documents -/

/-- From an accepted document to the generated code. Every declared client has an endpoint,
which collects the assignments of its handlers in the order of visits. The log tells of
exactly those assignments whose field was mapped to another location. And whatever the
catalog is, the bindings of a blueprint hand over what the endpoints collected, each field
once and to the variable that it was assigned to last. -/
theorem responseFields_ofDocument
    {source : Text}
    {document : Document}
    {run : Run RawModel}
    {model : RawModel}
    (reading : IsReading source document run)
    (accepts : run.outcome = .ok model) :
    model.endpoints.map Endpoint.clientName =
        (declarationsIn document.children).map (fun (kind, tag) => clientOf kind tag) ∧
      (∀ endpoint ∈ model.endpoints, endpoint.Collects document) ∧
      run.log =
        dataLog source [] (dataItems document.children) ++
          visitLog source [] (assignVisits document) ++
            uninvokedWarnings source model.endpoints ++
              targetWarnings source model.states model.endpoints ∧
      ∀ catalog options blueprint,
        Blueprint.ofModel options (Statechart.resolve model catalog) = .ok blueprint →
          blueprint.bindings.map (fun binding =>
              (binding.clientName, binding.responseFields.map ResponseField.assignment)) =
            model.endpoints.map (fun endpoint => (endpoint.clientName, endpoint.assignments)) ∧
          ∀ binding ∈ blueprint.services ++ blueprint.topics, binding ∈ blueprint.bindings := by
  obtain ⟨clients, collect⟩ := reading.collects accepts
  have extracts := Statechart.outcomeOf_of_runOf (reading.eq_runOf ▸ accepts)
  refine ⟨clients, collect, reading.log_eq accepts, ?_⟩
  intro catalog options blueprint gathers
  refine ⟨responseFields_of_ofModel (Statechart.Outline.extract_guarantees extracts).2
    (fun endpoint member => (collect endpoint member).distinctFields) gathers, ?_⟩
  obtain ⟨className, derived, all, _, _, _, _, rfl⟩ := Blueprint.ofModel_eq_ok_iff.mp gathers
  intro binding member
  rcases List.mem_append.mp member with ofService | ofTopic
  · exact mem_of_mem_bindingsFor ofService
  · exact mem_of_mem_bindingsFor ofTopic

/-- A dial that is read in a state and in the state inside it. -/
def dialChart : Text :=
  "<scxml name='dial'><ros_topic_subscriber topic='/d' type='m/D'/><state id='a'>" ++
    "<state id='b'><ros_topic_callback name='/d' target='b'>" ++
    "<assign location='l' expr='v.x'/></ros_topic_callback></state>" ++
    "<ros_topic_callback name='/d' target='a'><assign location='k' expr='v.x'/>" ++
    "<assign location='k' expr='v.y'/></ros_topic_callback></state></scxml>"

/-- What is read of it. -/
def dialModel : RawModel where
  name := "dial"
  source := "dial.scxml"
  initial := "a"
  datamodel := []
  states := [⟨"a", none, false, []⟩, ⟨"b", some "a", false, []⟩]
  endpoints :=
    [{ nodeName := "dial_skill", clientName := "/d", kind := .topic, rosName := "/d",
       key := ⟨"m", "D"⟩, assignments := [⟨"x", "l"⟩, ⟨"y", "k"⟩],
       assignedFields := ["x", "y", "x"], handlerTargets := ["a", "b"] }]

/-- The inner state is visited last, so its variable is the one that the field goes to. -/
theorem responseFields_dial :
    ∃ document blueprint,
      Document.read (Text.utf8 dialChart) = .ok document ∧
        Blueprint.ofModel {} (Statechart.resolve dialModel Interface.Catalog.empty) =
          .ok blueprint ∧
        blueprint.bindings.map (fun binding =>
            (binding.clientName, binding.responseFields.map ResponseField.assignment)) =
          [(("/d" : Text), [(⟨"x", "l"⟩ : Assignment), ⟨"y", "k"⟩])] := by
  have accepts : (ofText "dial.scxml" dialChart).outcome = .ok dialModel := by decide +kernel
  have isGathered :
      (Blueprint.ofModel {} (Statechart.resolve dialModel Interface.Catalog.empty)).isOk =
        true := by
    decide +kernel
  obtain ⟨document, reads⟩ := Statechart.exists_document_of_ofText accepts
  obtain ⟨blueprint, gathers⟩ := exists_ok_of_isOk isGathered
  exact ⟨document, blueprint, reads, gathers,
    ((responseFields_ofDocument (.ofText reads) accepts).2.2.2 _ _ _ gathers).1⟩

end Generation
end SkillNode
