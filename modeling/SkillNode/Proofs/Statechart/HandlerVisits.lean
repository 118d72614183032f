import SkillNode.Proofs.Statechart.Acceptance

/-!
# Visits of handlers

The handlers of a document in the order of visits: those of a state in document order
before those of the states inside it. A client collects the targets of the handlers that
refer to it and the assignments below them that read a field of the response.

The main statements say so of every endpoint of a model that is read, and tell the log of
a document that is accepted.
-/

namespace SkillNode
namespace Statechart

open Markup (Tag Node Document elementsOf tagsNamed)

/-! ## Handlers of a document -/

/-- A handler of a kind with what is in it. -/
structure HandlerElement where
  kind : Interface.Kind
  tag : Tag
  children : List Node

namespace HandlerElement

/-- The client that a handler refers to. -/
def client (handler : HandlerElement) : Text := valueOf handler.tag "name"

/-- The state that a handler leads to. -/
def target (handler : HandlerElement) : Text := valueOf handler.tag "target"

/-- The assignments at any depth of a handler in document order. -/
def assigns (handler : HandlerElement) : List Tag := tagsNamed assignTag handler.children

/-- What an outline says of a handler. -/
def item (handler : HandlerElement) : HandlerItem :=
  handlerItem handler.kind handler.tag handler.children

end HandlerElement

/-- The handlers among nodes in document order. -/
def handlersAmong (nodes : List Node) : List HandlerElement :=
  (elementsOf nodes).filterMap fun (tag, children) =>
    (kindOf? handlerTag tag.name).map fun kind => ⟨kind, tag, children⟩

mutual

/-- The handlers of a state and then of the states inside it. -/
def handlersInNode : Node → List HandlerElement
  | .element tag children =>
      if stateTags.contains tag.name then
        handlersAmong children ++ handlersIn children
      else
        []
  | .text _ | .instruction _ | .reference _ => []

/-- The handlers of the states that nodes make, in the order of visits. -/
def handlersIn : List Node → List HandlerElement
  | [] => []
  | node :: rest => handlersInNode node ++ handlersIn rest

end

theorem handlers_ofElement (parent? : Option Text) (tag : Tag) (children : List Node) :
    (StateItem.ofElement parent? tag children).handlers =
      (handlersAmong children).map HandlerElement.item := by
  unfold StateItem.ofElement handlersAmong
  rw [List.map_filterMap]
  refine List.filterMap_congr fun element _ => ?_
  rw [Option.map_map]
  rfl

mutual

theorem handlers_stateItemsOfNode (parent? : Option Text) :
    (node : Node) → (stateItemsOfNode parent? node).flatMap StateItem.handlers =
      (handlersInNode node).map HandlerElement.item
  | .element tag children => by
      rw [stateItemsOfNode, handlersInNode]
      split
      · rw [List.flatMap_cons, handlers_ofElement, handlers_stateItems _ children,
          List.map_append]
      · rfl
  | .text _ | .instruction _ | .reference _ => by simp [stateItemsOfNode, handlersInNode]

/-- The states of an outline are visited in the order of their handlers. -/
theorem handlers_stateItems (parent? : Option Text) :
    (nodes : List Node) → (stateItems parent? nodes).flatMap StateItem.handlers =
      (handlersIn nodes).map HandlerElement.item
  | [] => by simp [stateItems, handlersIn]
  | node :: rest => by
      rw [stateItems, handlersIn, List.flatMap_append, List.map_append,
        handlers_stateItemsOfNode parent? node, handlers_stateItems parent? rest]

end

theorem handlers_ofDocument (document : Document) :
    (Outline.ofDocument document).handlers =
      (handlersIn document.children).map HandlerElement.item :=
  handlers_stateItems none document.children

/-! ## Assignments of a document -/

/-- The handlers that refer to a client, in the order of visits. -/
def handlersOf (document : Document) (client : Text) : List HandlerElement :=
  (handlersIn document.children).filter (·.client = client)

/-- The assignments of the handlers of a client, in the order of visits. -/
def assignsOf (document : Document) (client : Text) : List Tag :=
  (handlersOf document client).flatMap HandlerElement.assigns

/-- Whether the expression of an assignment has a dot. -/
def hasDot (tag : Tag) : Bool := (valueOf tag "expr").contains '.'

/-- The assignments of the handlers of a client that have a dot in their expression, in the
order of visits. -/
def dottedAssigns (document : Document) (client : Text) : List Tag :=
  (assignsOf document client).filter hasDot

/-- What an assignment writes: the field after the first dot of its expression, and the
location that it is assigned to. -/
def written (tag : Tag) : Assignment := ⟨fieldOfExpr (valueOf tag "expr"), valueOf tag "location"⟩

/-- The assignments in all handlers of a document with the clients that these refer to, in
the order of visits. -/
def assignVisits (document : Document) : List Visit :=
  (handlersIn document.children).flatMap fun handler =>
    handler.assigns.map fun tag => ⟨handler.client, AssignItem.ofTag tag⟩

theorem fieldRead?_eq_none_iff {tag : Tag} :
    fieldRead? (valueOf tag "expr") = none ↔ hasDot tag = false := by
  rw [hasDot, fieldRead?, Text.after?_eq_none_iff, ← Bool.not_eq_true, List.contains_iff_mem]

theorem write?_ofTag (tag : Tag) :
    (AssignItem.ofTag tag).write? = if hasDot tag then some (written tag) else none := by
  change (fieldRead? (valueOf tag "expr")).map (Assignment.mk · (valueOf tag "location")) = _
  unfold written fieldOfExpr
  cases isRead : fieldRead? (valueOf tag "expr") with
  | none => simp [fieldRead?_eq_none_iff.mp isRead]
  | some field =>
      have dotted : hasDot tag = true := by
        rw [← Bool.not_eq_false, ← fieldRead?_eq_none_iff, isRead]
        exact Option.some_ne_none field
      simp [dotted]

theorem writes_item (handler : HandlerElement) :
    handler.item.writes = (handler.assigns.filter hasDot).map written := by
  change (handler.assigns.map AssignItem.ofTag).filterMap AssignItem.write? = _
  rw [List.filterMap_map]
  induction handler.assigns with
  | nil => rfl
  | cons tag rest restHypothesis =>
      rw [List.filterMap_cons, restHypothesis, Function.comp_apply, write?_ofTag]
      cases dotted : hasDot tag <;> simp [dotted]

theorem visits_ofDocument (document : Document) :
    (Outline.ofDocument document).visits = assignVisits document := by
  rw [Outline.visits, handlers_ofDocument, List.flatMap_map]
  unfold assignVisits
  refine List.flatMap_congr fun handler _ => ?_
  exact List.map_map ..

/-! ## Endpoints of a document -/

/-- An endpoint collects what the handlers that refer to its client say: the fields of their
assignments with repetitions, the last location of each field in the order in which the
fields came first, and the targets of the handlers. -/
structure Endpoint.Collects (document : Document) (endpoint : Endpoint) : Prop where
  fields : endpoint.assignedFields =
    (dottedAssigns document endpoint.clientName).map fun tag => (written tag).field
  distinctFields : endpoint.assignments.map Assignment.field = endpoint.assignedFields.eraseDups
  locations : endpoint.assignments =
    lastWrites ((dottedAssigns document endpoint.clientName).map written)
  targets : endpoint.handlerTargets =
    (handlersOf document endpoint.clientName).map HandlerElement.target

theorem own_handlers (document : Document) (client : Text) :
    (Outline.ofDocument document).handlers.filter (·.client = client) =
      (handlersOf document client).map HandlerElement.item := by
  rw [handlers_ofDocument, List.filter_map]
  rfl

theorem own_writes (document : Document) (client : Text) :
    ((Outline.ofDocument document).handlers.filter (·.client = client)).flatMap
        HandlerItem.writes =
      (dottedAssigns document client).map written := by
  rw [own_handlers, List.flatMap_map, dottedAssigns, assignsOf, List.filter_flatMap,
    List.map_flatMap]
  exact List.flatMap_congr fun handler _ => writes_item handler

/-- An endpoint that is declared collects from the handlers that it hears. -/
theorem collects_hear
    (document : Document)
    (nodeName : Text)
    (requests : List RequestItem)
    (item : DeclarationItem) :
    (((item.endpoint nodeName).hear (Outline.ofDocument document).handlers).heed
      requests).Collects document := by
  have heard : ((item.endpoint nodeName).hear
      (Outline.ofDocument document).handlers).Collects document := by
    have fields : ((item.endpoint nodeName).hear
        (Outline.ofDocument document).handlers).assignedFields =
          ((dottedAssigns document item.clientName).map written).map Assignment.field := by
      rw [← own_writes]
      rfl
    have assignments : ((item.endpoint nodeName).hear
        (Outline.ofDocument document).handlers).assignments =
          putAssignments [] ((dottedAssigns document item.clientName).map written) := by
      rw [← own_writes]
      rfl
    refine ⟨?_, ?_, ?_, ?_⟩
    · exact fields.trans (List.map_map ..)
    · rw [assignments, fields_putAssignments, fields]
    · exact assignments.trans (putAssignments_eq_lastWrites _)
    · change ((Outline.ofDocument document).handlers.filter (·.client = item.clientName)).map
        HandlerItem.target = _
      rw [own_handlers, List.map_map]
      rfl
  -- A request changes nothing of what is collected.
  unfold Endpoint.heed
  split
  · exact ⟨heard.fields, heard.distinctFields, heard.locations, heard.targets⟩
  · exact heard

section

variable {source : Text} {document : Document} {model : RawModel} {run : Run RawModel}

/-- The endpoints of a model that is read are those that the document declares. -/
theorem endpoints_modelOf (source : Text) (document : Document) :
    ∃ nodeName, (modelOf source document).endpoints =
      (declarationItems document.children).map fun item =>
        ((item.endpoint nodeName).hear (Outline.ofDocument document).handlers).heed
          (Outline.ofDocument document).requests :=
  ⟨_, Outline.endpoints_takeAll ..⟩

/-- Every declared client of a document that is accepted has an endpoint, which collects
what the handlers that refer to it say. -/
theorem IsReading.collects
    (reading : IsReading source document run)
    (accepts : run.outcome = .ok model) :
    model.endpoints.map Endpoint.clientName =
        (declarationsIn document.children).map (fun (kind, tag) => clientOf kind tag) ∧
      ∀ endpoint ∈ model.endpoints, endpoint.Collects document := by
  obtain ⟨nodeName, endpoints⟩ := endpoints_modelOf source document
  rw [(reading.eq_modelOf accepts).2, endpoints]
  constructor
  · rw [← Outline.clients_ofDocument, List.map_map]
    refine List.map_congr_left fun item _ => ?_
    dsimp only [Function.comp_apply, Endpoint.heed]
    split <;> rfl
  · intro endpoint member
    obtain ⟨item, _, rfl⟩ := List.mem_map.mp member
    exact collects_hear document nodeName _ item

/-- The log of a document that is accepted: the records about its variables, those about its
assignments in the order of visits, and the warnings at the end. -/
theorem IsReading.log_eq
    (reading : IsReading source document run)
    (accepts : run.outcome = .ok model) :
    run.log =
      dataLog source [] (dataItems document.children) ++
        visitLog source [] (assignVisits document) ++
          uninvokedWarnings source model.endpoints ++
            targetWarnings source model.states model.endpoints := by
  obtain ⟨nothingWrong, rfl⟩ := reading.eq_modelOf accepts
  have sound := (Outline.complaints_eq_nil_iff.mp nothingWrong).2.2
  have areDeclared : ∀ item ∈ (Outline.ofDocument document).handlers,
      (Outline.ofDocument document).kindOf? item.client ≠ none := by
    intro item member
    have complete := HandlerItem.faults_eq_nil_iff.mp (sound.handlers item member)
    rw [complete.2.2]
    exact Option.some_ne_none _
  have sameLog : run.log =
      (Outline.ofDocument document).fullLog source (FileTree.Path.ofText source).stem := by
    rw [reading.eq_runOf]
    exact Outline.log_extract nothingWrong
  rw [sameLog, Outline.fullLog, Outline.taken, Outline.log_takeAll source _ areDeclared,
    visits_ofDocument]
  rfl

end

end Statechart
end SkillNode
