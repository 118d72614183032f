import SkillNode.Proofs.Statechart.References
import SkillNode.Proofs.Statechart.StateForest

/-!
# Marks and warnings

What is said about a document that is accepted all the same: variables that are declared
twice or have an unknown type, fields that are mapped to another location, service clients
that no request invokes, and handlers that lead to no state.

Whether an item is warned about depends on the items before it or on the whole document, but
on nothing that an extraction keeps. The main statement lists the warnings element by element
and says which endpoints are marked as invoked.
-/

namespace SkillNode
namespace Statechart

open Markup (Tag Node Document elementsOf tagsNamed)

/-! ## Histories -/

section Histories

variable {Item Other Record : Type}

/-- Every item of a list with the items before it. -/
def withEarlier (items : List Item) : List (List Item × Item) := items.inits.zip items

@[simp] theorem withEarlier_nil : withEarlier ([] : List Item) = [] := rfl

@[simp] theorem withEarlier_cons (item : Item) (rest : List Item) :
    withEarlier (item :: rest) =
      ([], item) :: (withEarlier rest).map fun (earlier, later) => (item :: earlier, later) := by
  rw [withEarlier, List.inits_cons, List.zip_cons_cons, withEarlier, List.zip_map_left]
  rfl

theorem withEarlier_map (change : Item → Other) (items : List Item) :
    withEarlier (items.map change) =
      (withEarlier items).map fun (earlier, item) => (earlier.map change, change item) := by
  induction items with
  | nil => rfl
  | cons item rest restHypothesis =>
      simp [restHypothesis, Function.comp_def]

/-- What is recorded item by item, each after the items before it, is told by the items with
their histories. -/
theorem eq_flatMap_withEarlier
    (recorded : List Item → List Item → List Record)
    (step : List Item → Item → List Record)
    (atEnd : ∀ earlier, recorded earlier [] = [])
    (atItem : ∀ earlier item rest,
      recorded earlier (item :: rest) = step earlier item ++ recorded (earlier ++ [item]) rest)
    (earlier items : List Item) :
    recorded earlier items =
      (withEarlier items).flatMap fun (before, item) => step (earlier ++ before) item := by
  induction items generalizing earlier with
  | nil => exact atEnd earlier
  | cons item rest restHypothesis =>
      rw [atItem, restHypothesis, withEarlier_cons, List.flatMap_cons, List.flatMap_map]
      simp only [List.append_nil, List.append_assoc, List.singleton_append]

end Histories

/-- Whether a record is a warning. -/
def isWarning (record : LogRecord) : Bool := record.level = .warning

/-! ## Data elements -/

/-- The data elements of the datamodels among nodes. -/
def dataTagsIn (nodes : List Node) : List Tag :=
  (elementsOf nodes).flatMap fun (group, members) =>
    if group.name = datamodelTag then
      ((elementsOf members).filter (·.1.name = dataTag)).map Prod.fst
    else
      []

/-- The records about a data element after earlier ones: one if its variable is declared
already, and one if nothing is known of its type. -/
def dataRecords (source : Text) (earlier : List Tag) (tag : Tag) : Log :=
  let place : Text := source ++ ": datamodel variable '" ++ valueOf tag "id"
  let again : Log :=
    if ∃ other ∈ earlier, valueOf other "id" = valueOf tag "id" then
      [.warning (place ++ "' declared twice (line " ++ Text.ofNat tag.line ++ ")")]
    else
      []
  let unknown : Log :=
    if Interface.FieldType.ofDeclared? (valueOf tag "type") = none then
      [.warning (place ++ "' has unknown type '" ++ valueOf tag "type" ++ "'")]
    else
      []
  again ++ unknown

theorem dataItems_eq_dataTagsIn (nodes : List Node) :
    dataItems nodes = (dataTagsIn nodes).map DataItem.ofTag := by
  unfold dataItems dataTagsIn
  rw [List.map_flatMap]
  refine List.flatMap_congr fun (group, members) _ => ?_
  dsimp only
  split
  · rw [List.map_map]
    rfl
  · rfl

theorem variableWarnings_ofTag (source : Text) (earlier : List Tag) (tag : Tag) :
    variableWarnings source tag.line ((earlier.map DataItem.ofTag).map DataItem.variable)
        (DataItem.ofTag tag).variable =
      dataRecords source earlier tag := by
  have sameIds : ((earlier.map DataItem.ofTag).map DataItem.variable).any
      (·.id = (DataItem.ofTag tag).variable.id) =
        decide (∃ other ∈ earlier, valueOf other "id" = valueOf tag "id") := by
    rw [List.map_map, List.any_map, Bool.eq_iff_iff, List.any_eq_true, decide_eq_true_iff]
    simp only [Function.comp_apply, decide_eq_true_iff]
    rfl
  unfold variableWarnings dataRecords
  rw [sameIds]
  simp only [decide_eq_true_iff, Option.isNone_iff_eq_none]
  rfl

/-- The records about the data elements are told by the elements. -/
theorem dataLog_ofDocument (source : Text) (nodes : List Node) :
    dataLog source [] (dataItems nodes) =
      (withEarlier (dataTagsIn nodes)).flatMap fun (earlier, tag) =>
        dataRecords source earlier tag := by
  have byItems := eq_flatMap_withEarlier
    (fun earlier items => dataLog source (earlier.map DataItem.variable) items)
    (fun earlier item =>
      variableWarnings source item.line (earlier.map DataItem.variable) item.variable)
    (fun _ => rfl)
    (fun earlier item rest => by rw [dataLog, List.map_append]; rfl)
    [] (dataItems nodes)
  refine byItems.trans ?_
  rw [dataItems_eq_dataTagsIn, withEarlier_map, List.flatMap_map]
  refine List.flatMap_congr ?_
  rintro ⟨earlier, tag⟩ _
  exact variableWarnings_ofTag source earlier tag

/-! ## Assignments -/

/-- The record about an assignment after earlier ones, if its field was mapped to another
location by the last of them that assigns to this field of this client. -/
def Visit.override? (source : Text) (earlier : List Visit) (visit : Visit) : Option LogRecord := do
  let write ← visit.item.write?
  let previous ← lastLocation? write.field (writesOf visit.client earlier)
  if previous = write.location then none else visit.overrideRecord source write previous

theorem Visit.warnings_records (source : Text) (earlier : List Visit) (visit : Visit) :
    (visit.records source earlier).filter isWarning =
      (visit.override? source earlier).toList := by
  unfold records override?
  cases visit.item.write? with
  | none => rfl
  | some write =>
      dsimp only [Option.bind_eq_bind, Option.bind_some]
      cases lastLocation? write.field (writesOf visit.client earlier) with
      | none => rfl
      | some previous =>
          dsimp only [Option.bind_some]
          split <;> rfl

/-- The warnings about assignments are told by the assignments with those visited before. -/
theorem warnings_visitLog (source : Text) (visits : List Visit) :
    (visitLog source [] visits).filter isWarning =
      (withEarlier visits).filterMap fun (earlier, visit) => visit.override? source earlier := by
  rw [eq_flatMap_withEarlier (visitLog source) (fun earlier visit => visit.records source earlier)
    (fun _ => rfl) (fun _ _ _ => rfl) [] visits, List.filter_flatMap,
    List.filterMap_eq_flatMap_toList]
  exact List.flatMap_congr fun (earlier, visit) _ => visit.warnings_records source earlier

/-! ## Requests and targets -/

/-- A request somewhere among nodes refers to a client. -/
def IsRequested (nodes : List Node) (client : Text) : Prop :=
  ∃ tag, Below nodes tag ∧ tag.name = requestTag ∧ valueOf tag "name" = client

/-- A reached state among nodes has an id. -/
def IsStateId (nodes : List Node) (id : Text) : Prop :=
  ∃ tag children, Reached nodes tag children ∧ valueOf tag "id" = id

theorem isRequested_iff {nodes : List Node} {client : Text} :
    IsRequested nodes client ↔ (requestItems nodes).any (·.client = client) = true := by
  unfold IsRequested requestItems
  simp only [List.any_map, List.any_eq_true, mem_tagsNamed_iff, Function.comp_apply,
    decide_eq_true_iff, and_assoc]
  rfl

theorem isStateId_iff {nodes : List Node} {id : Text} :
    IsStateId nodes id ↔ id ∈ (stateItems none nodes).map StateItem.id := by
  rw [List.mem_map]
  constructor
  · rintro ⟨tag, children, reached, rfl⟩
    obtain ⟨outer?, member⟩ := mem_stateItems_of_reached reached none
    exact ⟨_, member, rfl⟩
  · rintro ⟨item, member, rfl⟩
    obtain ⟨outer?, tag, children, reached, rfl⟩ := reached_of_mem_stateItems _ member
    exact ⟨tag, children, reached, rfl⟩

instance (nodes : List Node) (client : Text) : Decidable (IsRequested nodes client) :=
  decidable_of_iff _ isRequested_iff.symm

instance (nodes : List Node) (id : Text) : Decidable (IsStateId nodes id) :=
  decidable_of_iff ((stateItems none nodes).any (·.id = id) = true) (by simp [isStateId_iff])

/-! ## Endpoints -/

/-- The record about a service client that no request invokes. -/
def uninvokedRecord (source client : Text) : LogRecord :=
  .warning (source ++ ": service client '" ++ client ++
    "' is never invoked; it is still constructed at startup")

/-- The record about a handler of a client that leads to no state. -/
def targetRecord (source client target : Text) : LogRecord :=
  .warning (source ++ ": handler for '" ++ client ++ "' targets unknown state '" ++ target ++ "'")

/-- The warnings about the data elements of a document, in order. -/
def dataWarnings (source : Text) (document : Document) : Log :=
  (withEarlier (dataTagsIn document.children)).flatMap fun (earlier, tag) =>
    dataRecords source earlier tag

/-- The warnings about the assignments of a document, in the order of visits. -/
def assignWarnings (source : Text) (document : Document) : Log :=
  (withEarlier (assignVisits document)).filterMap fun (earlier, visit) =>
    visit.override? source earlier

/-- The warnings about the services of a document to which no request refers, in the order of
declarations. -/
def serviceWarnings (source : Text) (document : Document) : Log :=
  ((declarationsIn document.children).filter fun (kind, tag) =>
    kind = .service ∧ ¬ IsRequested document.children (clientOf kind tag)).map fun (kind, tag) =>
      uninvokedRecord source (clientOf kind tag)

/-- The warnings about the handlers of a document that lead to no state, in the order of
declarations and for each of them in the order of visits. -/
def handlerWarnings (source : Text) (document : Document) : Log :=
  (declarationsIn document.children).flatMap fun (kind, tag) =>
    ((handlersOf document (clientOf kind tag)).filter fun handler =>
      ¬ IsStateId document.children handler.target).map fun handler =>
        targetRecord source (clientOf kind tag) handler.target

/-- An endpoint is that of a declaration, and it is marked by the requests and handlers that
refer to its client. -/
structure Endpoint.IsMarkedBy
    (document : Document)
    (kind : Interface.Kind)
    (tag : Tag)
    (endpoint : Endpoint) : Prop extends endpoint.IsDeclaredBy kind tag where
  invoked : endpoint.isInvoked = decide (IsRequested document.children (clientOf kind tag))
  targets : endpoint.handlerTargets =
    (handlersOf document (clientOf kind tag)).map HandlerElement.target

section

variable {source : Text} {document : Document} {run : Run RawModel} {model : RawModel}

/-- The endpoint of a declaration is marked by the references of the document. -/
theorem isMarkedBy_heed
    (document : Document)
    (nodeName : Text)
    (kind : Interface.Kind)
    (tag : Tag) :
    ((((declarationItem (kind, tag)).endpoint nodeName).hear
      (Outline.ofDocument document).handlers).heed
        (Outline.ofDocument document).requests).IsMarkedBy document kind tag := by
  have targets := (collects_hear document nodeName (Outline.ofDocument document).requests
    (declarationItem (kind, tag))).targets
  have isRequested : (Outline.ofDocument document).requests.any
      (·.client = clientOf kind tag) =
        decide (IsRequested document.children (clientOf kind tag)) := by
    rw [Bool.eq_iff_iff, decide_eq_true_iff, isRequested_iff]
    rfl
  unfold Endpoint.heed at targets ⊢
  split at targets
  · next invoked =>
      rw [if_pos invoked]
      exact ⟨⟨rfl, rfl, rfl⟩, invoked.symm.trans isRequested, targets⟩
  · next notInvoked =>
      rw [if_neg notInvoked]
      exact ⟨⟨rfl, rfl, rfl⟩, (Bool.not_eq_true _ ▸ notInvoked).symm.trans isRequested, targets⟩

/-- The endpoints of a model are those of the declarations, one by one. -/
theorem exists_endpointOf (source : Text) (document : Document) :
    ∃ endpointOf : Interface.Kind × Tag → Endpoint,
      (modelOf source document).endpoints = (declarationsIn document.children).map endpointOf ∧
        ∀ kind tag, (endpointOf (kind, tag)).IsMarkedBy document kind tag := by
  obtain ⟨nodeName, endpoints⟩ := endpoints_modelOf source document
  rw [declarationItems_eq, List.map_map] at endpoints
  exact ⟨_, endpoints, isMarkedBy_heed document nodeName⟩

theorem uninvokedWarnings_modelOf (source : Text) (document : Document) :
    uninvokedWarnings source (modelOf source document).endpoints =
      serviceWarnings source document := by
  obtain ⟨endpointOf, endpoints, areMarked⟩ := exists_endpointOf source document
  unfold uninvokedWarnings serviceWarnings
  rw [endpoints, List.filter_map, List.map_map]
  have sameServices : ∀ declaration ∈ declarationsIn document.children,
      ((endpointOf declaration).isService && !(endpointOf declaration).isInvoked) =
        decide (declaration.1 = .service ∧
          ¬ IsRequested document.children (clientOf declaration.1 declaration.2)) := by
    rintro ⟨kind, tag⟩ _
    rw [Endpoint.isService, (areMarked kind tag).sameKind, (areMarked kind tag).invoked]
    simp only [Bool.decide_and, decide_not]
  refine (congrArg (List.map _) (List.filter_congr sameServices)).trans ?_
  refine List.map_congr_left fun (kind, tag) _ => ?_
  rw [Function.comp_apply, (areMarked kind tag).client]
  rfl

theorem targetWarnings_modelOf (source : Text) (document : Document) :
    targetWarnings source (modelOf source document).states (modelOf source document).endpoints =
      handlerWarnings source document := by
  obtain ⟨endpointOf, endpoints, areMarked⟩ := exists_endpointOf source document
  have isState : ∀ target, (modelOf source document).states.any (·.id = target) =
      decide (IsStateId document.children target) := by
    intro target
    have member : target ∈ (modelOf source document).states.map State.id ↔
        IsStateId document.children target := by
      rw [ids_modelOf, List.mem_eraseDups, isStateId_iff]
      rfl
    rw [Bool.eq_iff_iff, decide_eq_true_iff, ← member]
    simp
  unfold targetWarnings handlerWarnings
  rw [endpoints, List.flatMap_map]
  refine List.flatMap_congr fun (kind, tag) _ => ?_
  rw [(areMarked kind tag).targets, (areMarked kind tag).client, List.filter_map, List.map_map]
  simp only [isState, decide_not]
  rfl

theorem isWarning_of_mem_dataRecords {earlier : List Tag} {tag : Tag} :
    ∀ record ∈ dataRecords source earlier tag, isWarning record = true := by
  unfold dataRecords
  refine List.forall_mem_append.mpr ⟨?_, ?_⟩
  · split <;> simp [isWarning, LogRecord.warning]
  · split <;> simp [isWarning, LogRecord.warning]

theorem filter_dataWarnings (source : Text) (document : Document) :
    (dataWarnings source document).filter isWarning = dataWarnings source document := by
  refine List.filter_eq_self.mpr fun record member => ?_
  obtain ⟨_, _, isRecord⟩ := List.mem_flatMap.mp member
  exact isWarning_of_mem_dataRecords record isRecord

theorem filter_serviceWarnings (source : Text) (document : Document) :
    (serviceWarnings source document).filter isWarning =
      serviceWarnings source document :=
  List.filter_eq_self.mpr (List.forall_mem_map.mpr fun _ _ => rfl)

theorem filter_handlerWarnings (source : Text) (document : Document) :
    (handlerWarnings source document).filter isWarning =
      handlerWarnings source document := by
  refine List.filter_eq_self.mpr fun record member => ?_
  obtain ⟨_, _, isRecord⟩ := List.mem_flatMap.mp member
  obtain ⟨_, _, rfl⟩ := List.mem_map.mp isRecord
  rfl

/-- In a document that is accepted requests refer to services only. -/
theorem isService_of_isRequested
    (nothingWrong : complaintsOf source document = [])
    {kind : Interface.Kind}
    {tag : Tag}
    (isDeclaration : (kind, tag) ∈ declarationsIn document.children)
    (requested : IsRequested document.children (clientOf kind tag)) :
    kind = .service := by
  have skill := complaintsOf_eq_nil_iff.mp nothingWrong
  obtain ⟨request, below, isNamed, isClient⟩ := requested
  obtain ⟨service, isService, sameClient⟩ := (skill.requests request below isNamed).2
  -- Two declarations of one client are the same.
  have same := List.inj_on_of_nodup_map skill.clients isDeclaration isService
    (isClient.symm.trans sameClient.symm)
  exact congrArg Prod.fst same

/-- A document that is accepted has an endpoint for each declaration, in order. An endpoint is
marked as invoked exactly if it is a service client and some request refers to it. The
warnings are those about the data elements, then those about the assignments, the services
that are not invoked and the handlers that lead to no state, wherever the state stands. -/
theorem marks_warnings_exact
    (reading : IsReading source document run)
    (accepts : run.outcome = .ok model) :
    model.endpoints.map (fun endpoint => (endpoint.kind, endpoint.clientName)) =
        (declarationsIn document.children).map (fun (kind, tag) => (kind, clientOf kind tag)) ∧
      (∀ endpoint ∈ model.endpoints, endpoint.isInvoked = true ↔
        endpoint.kind = .service ∧ IsRequested document.children endpoint.clientName) ∧
      run.log.filter isWarning =
        dataWarnings source document ++ assignWarnings source document ++
          serviceWarnings source document ++ handlerWarnings source document := by
  obtain ⟨nothingWrong, rfl⟩ := reading.eq_modelOf accepts
  obtain ⟨endpointOf, endpoints, areMarked⟩ := exists_endpointOf source document
  refine ⟨?_, ?_, ?_⟩
  · rw [endpoints, List.map_map]
    refine List.map_congr_left fun (kind, tag) _ => ?_
    rw [Function.comp_apply, (areMarked kind tag).sameKind, (areMarked kind tag).client]
  · intro endpoint member
    rw [endpoints] at member
    obtain ⟨⟨kind, tag⟩, isDeclaration, rfl⟩ := List.mem_map.mp member
    rw [(areMarked kind tag).invoked, (areMarked kind tag).sameKind, (areMarked kind tag).client,
      decide_eq_true_iff]
    exact ⟨fun requested => ⟨isService_of_isRequested nothingWrong isDeclaration requested,
      requested⟩, And.right⟩
  · rw [reading.log_eq accepts, uninvokedWarnings_modelOf, targetWarnings_modelOf,
      dataLog_ofDocument, List.filter_append, List.filter_append, List.filter_append,
      filter_serviceWarnings, filter_handlerWarnings, warnings_visitLog]
    exact congrArg (· ++ _ ++ _ ++ _) (filter_dataWarnings source document)

/-- A door with a variable that is declared again, a topic that is mapped to two variables, a
service that is asked from inside a transition and one that is not, and handlers that lead to
a later state and to none. -/
def doorChart : Text :=
  "<scxml><datamodel>" ++ "<data id='m' type='bool'/>" ++ "<data id=' m ' type='x'/>" ++
    "</datamodel>" ++ "<ros_topic_subscriber " ++ "topic='t' type='p/T'/>" ++
    "<ros_service_client " ++ "service_name='c' type='p/C'/>" ++
    "<ros_service_client " ++ "service_name='u' type='p/U'/>" ++
    "<state id='a'><transition>" ++ "<ros_service_send_request " ++ "name=' c '/></transition>" ++
    "<ros_service_handle_response " ++ "name='c' target='z'/>" ++
    "<ros_topic_callback " ++ "name='t' target='b'>" ++
    "<assign location='m' expr='r.x'/>" ++ "<assign location='n' expr='x'/>" ++
    "<assign location='n' expr='r.x'/>" ++ "</ros_topic_callback>" ++
    "</state><state id='b'/></scxml>"

/-- What is read of it. -/
def doorModel : RawModel where
  name := "d"
  source := "d"
  initial := "a"
  datamodel := [⟨"m", "bool", ""⟩, ⟨"m", "x", ""⟩]
  states := [⟨"a", none, false, [⟨"", ""⟩]⟩, ⟨"b", none, false, []⟩]
  endpoints :=
    [{ nodeName := "d_skill", clientName := "t", kind := .topic, rosName := "t",
       key := ⟨"p", "T"⟩, assignments := [⟨"x", "n"⟩], assignedFields := ["x", "x"],
       handlerTargets := ["b"] },
     { nodeName := "d_skill", clientName := "c", kind := .service, rosName := "c",
       key := ⟨"p", "C"⟩, handlerTargets := ["z"], isInvoked := true },
     { nodeName := "d_skill", clientName := "u", kind := .service, rosName := "u",
       key := ⟨"p", "U"⟩ }]

/-- What is said about it. -/
def doorWarnings : Log :=
  [.warning ("d: datamodel variable 'm' " ++ "declared twice (line 1)"),
   .warning ("d: datamodel variable 'm' " ++ "has unknown type 'x'"),
   .warning ("d:1: response field 'x' " ++ "of 't' assigned to 'n', " ++ "overriding 'm'"),
   .warning ("d: service client 'u' " ++ "is never invoked; it is " ++
     "still constructed at startup"),
   .warning ("d: handler for 'c' " ++ "targets unknown state 'z'")]

/-- Every kind of warning is said of the door once, the later state is not missed, and of its
two services one is invoked. -/
theorem marks_warnings_door :
    ∃ document, Document.read (Text.utf8 doorChart) = .ok document ∧
      (ofText "d" doorChart).outcome = .ok doorModel ∧
        IsRequested document.children "c" ∧ ¬ IsRequested document.children "u" ∧
          dataWarnings "d" document ++ assignWarnings "d" document ++
            serviceWarnings "d" document ++ handlerWarnings "d" document = doorWarnings := by
  have isRead : (ofText "d" doorChart).outcome = .ok doorModel ∧
      (ofText "d" doorChart).log.filter isWarning = doorWarnings := by
    decide +kernel
  obtain ⟨accepts, said⟩ := isRead
  obtain ⟨document, reads⟩ := exists_document_of_ofText accepts
  obtain ⟨-, marks, warnings⟩ := marks_warnings_exact (.ofText reads) accepts
  have invoked := marks doorModel.endpoints[1] (List.getElem_mem _)
  have notInvoked := marks doorModel.endpoints[2] (List.getElem_mem _)
  refine ⟨document, reads, accepts, (invoked.mp rfl).2, fun requested => ?_,
    warnings.symm.trans said⟩
  exact Bool.false_ne_true (notInvoked.mpr ⟨rfl, requested⟩)

end

end Statechart
end SkillNode
