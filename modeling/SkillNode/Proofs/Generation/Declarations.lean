import SkillNode.Proofs.Generation.ResponseFields

/-!
# Declarations from the document to the blueprint

Every declaration of a document that is accepted has one endpoint, and one binding in every
blueprint of the model, each in the order of the document. Services and topics share the
bindings out between them, and the include files are those of the bindings, in order and
each once.

All of this rests on the clients: the extraction takes no client twice, whether it is called
by its own name or after its service or topic, so that no look-up by client confuses two.
-/

namespace SkillNode

namespace Statechart

open Markup (Document)

/-- The clients that a document declares, each with its kind, in order. -/
def declaredClients (document : Document) : List (Interface.Kind × Text) :=
  (declarationsIn document.children).map fun (kind, tag) => (kind, clientOf kind tag)

/-- The kind and the client name of an endpoint. -/
def Endpoint.client (endpoint : Endpoint) : Interface.Kind × Text :=
  (endpoint.kind, endpoint.clientName)

variable {source : Text} {document : Document} {model : RawModel} {run : Run RawModel}

/-- The endpoints of a document that is accepted are those of its declarations. -/
theorem IsReading.clients
    (reading : IsReading source document run)
    (accepts : run.outcome = .ok model) :
    model.endpoints.map Endpoint.client = declaredClients document := by
  obtain ⟨nodeName, endpoints⟩ := endpoints_modelOf source document
  rw [(reading.eq_modelOf accepts).2, endpoints, declarationItems_eq, List.map_map, List.map_map]
  refine List.map_congr_left fun declaration _ => ?_
  dsimp only [Function.comp_apply, Endpoint.heed]
  -- Handlers and requests leave the kind and the client name alone.
  split <;> rfl

/-- No two declarations of a document that is accepted are for one client. -/
theorem IsReading.distinctClients
    (reading : IsReading source document run)
    (accepts : run.outcome = .ok model) :
    ((declaredClients document).map Prod.snd).Nodup := by
  have skill := complaintsOf_eq_nil_iff.mp (reading.eq_modelOf accepts).1
  have clients := skill.clients
  rw [declaredClients, List.map_map]
  exact clients

end Statechart

namespace Generation

open Markup (Document)
open Statechart (RawModel IsReading Endpoint declaredClients)

/-- Declarations are conserved. The endpoints of a model that is read are those of the
declarations, of which no two are for one client, and resolution keeps them. The bindings of
a blueprint are those of the endpoints, one for each in order. Its services and topics are
picked out of them by kind, so that every binding is in exactly one of the two. And its
include files are strictly increasing and just those of the bindings. -/
theorem blueprint_conserves_declarations
    {source : Text}
    {document : Document}
    {run : Run RawModel}
    {model : RawModel}
    (reading : IsReading source document run)
    (accepts : run.outcome = .ok model) :
    model.endpoints.map Endpoint.client = declaredClients document ∧
      (model.endpoints.map Endpoint.clientName).Nodup ∧
      ∀ catalog,
        (Statechart.resolve model catalog).endpoints.map (·.endpoint) = model.endpoints ∧
        ∀ options blueprint,
          Blueprint.ofModel options (Statechart.resolve model catalog) = .ok blueprint →
            blueprint.bindings.map Binding.resolved =
                (Statechart.resolve model catalog).endpoints ∧
              blueprint.bindings.map (·.endpoint.client) = declaredClients document ∧
              blueprint.services = blueprint.bindings.filter Binding.isService ∧
              blueprint.topics = blueprint.bindings.filter (! ·.isService) ∧
              (∀ binding ∈ blueprint.bindings,
                (binding ∈ blueprint.services ↔ binding ∉ blueprint.topics)) ∧
              blueprint.includes.Pairwise (· < ·) ∧
              ∀ path, path ∈ blueprint.includes ↔
                ∃ binding ∈ blueprint.bindings, binding.includePath = path := by
  have clients := reading.clients accepts
  have distinct : (model.endpoints.map Endpoint.clientName).Nodup := by
    have declared := reading.distinctClients accepts
    rw [← clients, List.map_map] at declared
    exact declared
  refine ⟨clients, distinct, fun catalog => ⟨Statechart.endpoints_resolve model catalog, ?_⟩⟩
  intro options blueprint gathers
  have resolvedDistinct := distinct
  rw [← Statechart.clients_resolve model catalog] at resolvedDistinct
  obtain ⟨restored, services, topics⟩ := Blueprint.bindings_of_distinct resolvedDistinct gathers
  refine ⟨restored, ?_, services, topics, fun binding member => ?_, Sorted.pairwise_ofList _,
    fun path => ?_⟩
  · rw [← clients, ← Statechart.endpoints_resolve model catalog, ← restored, List.map_map,
      List.map_map]
    rfl
  · rw [services, topics]
    simp [member]
  · rw [Blueprint.includes, Sorted.mem_ofList, List.mem_map]

/-- A heater that is watched and switched. -/
def heaterChart : Text :=
  "<scxml name='heater'><ros_topic_subscriber topic='/h' type='z/H'/><state id='a'/>" ++
    "<ros_service_client name='/h2' service_name='/h' type='a/msg/Set'/></scxml>"

/-- What is read of it. -/
def heaterModel : RawModel where
  name := "heater"
  source := "heater.scxml"
  initial := "a"
  datamodel := []
  states := [⟨"a", none, false, []⟩]
  endpoints :=
    [{ nodeName := "heater_skill", clientName := "/h", kind := .topic, rosName := "/h",
       key := ⟨"z", "H"⟩ },
     { nodeName := "heater_skill", clientName := "/h2", kind := .service, rosName := "/h",
       key := ⟨"a", "Set"⟩ }]

/-- Both declarations of the heater are in its blueprint; the include files are in the order
of their names. -/
theorem blueprint_conserves_declarations_heater :
    ∃ document blueprint,
      Document.read (Text.utf8 heaterChart) = .ok document ∧
        Blueprint.ofModel {} (Statechart.resolve heaterModel Interface.Catalog.empty) =
          .ok blueprint ∧
        blueprint.bindings.map (·.endpoint.client) = declaredClients document ∧
        declaredClients document =
          [((.topic : Interface.Kind), ("/h" : Text)), (.service, "/h2")] ∧
        blueprint.includes = [("a/srv/set.hpp" : Text), "z/msg/h.hpp"] := by
  have accepts : (Statechart.ofText "heater.scxml" heaterChart).outcome = .ok heaterModel := by
    decide +kernel
  have gathered : (Blueprint.ofModel {} (Statechart.resolve heaterModel
      Interface.Catalog.empty)).toOption.map Blueprint.includes =
        some [("a/srv/set.hpp" : Text), "z/msg/h.hpp"] := by
    decide +kernel
  obtain ⟨document, reads⟩ := Statechart.exists_document_of_ofText accepts
  obtain ⟨blueprint, isGathered, includes⟩ := Option.map_eq_some_iff.mp gathered
  have gathers := eq_ok_of_toOption isGathered
  obtain ⟨clients, _, conserved⟩ :=
    blueprint_conserves_declarations (.ofText reads) accepts
  exact ⟨document, blueprint, reads, gathers, ((conserved _).2 _ _ gathers).2.1,
    clients.symm, includes⟩

end Generation
end SkillNode
