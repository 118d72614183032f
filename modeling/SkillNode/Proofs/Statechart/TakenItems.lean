import SkillNode.Proofs.Statechart.LastWrites
import SkillNode.Proofs.Statechart.OutlineComplaints

/-!
# What taken items leave behind

The endpoints, states, variables and records that are there after all items of an outline
are taken in, each said directly of the items: an endpoint holds the targets of the
handlers that refer to its client and the assignments in them, in the order of visits.

The records about assignments are told by the history of earlier assignments; a field was
mapped to a location at some moment exactly if the last earlier assignment to it was to
that location.
-/

namespace SkillNode
namespace Statechart

/-! ## Endpoints -/

/-- The assignments of response fields in a handler, in document order. -/
def HandlerItem.writes (item : HandlerItem) : List Assignment :=
  item.assigns.filterMap AssignItem.write?

namespace Endpoint

/-- An endpoint after some assignments of its fields. -/
def record (writes : List Assignment) (endpoint : Endpoint) : Endpoint :=
  { endpoint with
    assignments := putAssignments endpoint.assignments writes
    assignedFields := endpoint.assignedFields ++ writes.map Assignment.field }

@[simp] theorem clientName_record (writes : List Assignment) (endpoint : Endpoint) :
    (endpoint.record writes).clientName = endpoint.clientName := rfl

@[simp] theorem record_nil (endpoint : Endpoint) : endpoint.record [] = endpoint := by
  simp [record, putAssignments]

@[simp] theorem record_record (earlier later : List Assignment) (endpoint : Endpoint) :
    (endpoint.record earlier).record later = endpoint.record (earlier ++ later) := by
  simp [record, putAssignments]

/-- An endpoint after some handlers, of which it heeds those that refer to its client. -/
def hear (handlers : List HandlerItem) (endpoint : Endpoint) : Endpoint :=
  let own := handlers.filter (·.client = endpoint.clientName)
  { endpoint.record (own.flatMap HandlerItem.writes) with
    handlerTargets := endpoint.handlerTargets ++ own.map HandlerItem.target }

@[simp] theorem hear_nil : hear [] = id := by
  funext endpoint
  simp [hear]

@[simp] theorem hear_hear (earlier later : List HandlerItem) (endpoint : Endpoint) :
    (endpoint.hear earlier).hear later = endpoint.hear (earlier ++ later) := by
  simp only [hear, record, putAssignments, List.filter_append, List.flatMap_append,
    List.map_append, List.foldl_append, List.append_assoc]
  rfl

/-- An endpoint after some requests. -/
def heed (requests : List RequestItem) (endpoint : Endpoint) : Endpoint :=
  if requests.any (·.client = endpoint.clientName) then endpoint.invoke else endpoint

@[simp] theorem heed_nil : heed [] = id := by
  funext endpoint
  simp [heed]

end Endpoint

namespace Progress

theorem endpoints_takeAssign
    (source client : Text)
    (progress : Progress)
    (item : AssignItem) :
    (progress.takeAssign source client item).endpoints =
      progress.endpoints.map fun endpoint =>
        if endpoint.clientName = client then endpoint.record item.write?.toList else endpoint := by
  unfold takeAssign
  cases item.write? with
  | none => simp [note]
  | some write => rfl

theorem endpoints_takeAssigns
    (source client : Text)
    (items : List AssignItem)
    (progress : Progress) :
    (items.foldl (takeAssign source client) progress).endpoints =
      progress.endpoints.map fun endpoint =>
        if endpoint.clientName = client then endpoint.record (items.filterMap AssignItem.write?)
        else endpoint := by
  induction items generalizing progress with
  | nil => simp
  | cons item rest restHypothesis =>
      rw [List.foldl_cons, restHypothesis, endpoints_takeAssign, List.map_map]
      refine List.map_congr_left fun endpoint _ => ?_
      by_cases isClient : endpoint.clientName = client
      · simp only [Function.comp, isClient, if_true, Endpoint.clientName_record,
          Endpoint.record_record]
        cases write : item.write? <;> simp [write]
      · simp [isClient]

theorem endpoints_takeHandler
    (source : Text)
    (progress : Progress)
    (item : HandlerItem) :
    (progress.takeHandler source item).endpoints =
      progress.endpoints.map (Endpoint.hear [item]) := by
  rw [takeHandler, endpoints_takeAssigns, update, List.map_map]
  refine List.map_congr_left fun endpoint _ => ?_
  by_cases isClient : endpoint.clientName = item.client
  · simp [Endpoint.hear, Endpoint.addTarget, Endpoint.record, HandlerItem.writes, isClient]
  · simp [Endpoint.hear, isClient, Ne.symm isClient]

theorem endpoints_takeHandlers
    (source : Text)
    (items : List HandlerItem)
    (progress : Progress) :
    (items.foldl (takeHandler source) progress).endpoints =
      progress.endpoints.map (Endpoint.hear items) := by
  induction items generalizing progress with
  | nil => simp
  | cons item rest restHypothesis =>
      rw [List.foldl_cons, restHypothesis, endpoints_takeHandler, List.map_map]
      exact List.map_congr_left fun endpoint _ => Endpoint.hear_hear [item] rest endpoint

theorem endpoints_takeStates
    (source : Text)
    (items : List StateItem)
    (progress : Progress) :
    (items.foldl (takeState source) progress).endpoints =
      progress.endpoints.map (Endpoint.hear (items.flatMap StateItem.handlers)) := by
  induction items generalizing progress with
  | nil => simp
  | cons item rest restHypothesis =>
      have afterFirst : (progress.takeState source item).endpoints =
          progress.endpoints.map (Endpoint.hear item.handlers) :=
        endpoints_takeHandlers source item.handlers progress
      rw [List.foldl_cons, restHypothesis, afterFirst, List.map_map, List.flatMap_cons]
      exact List.map_congr_left fun endpoint _ => Endpoint.hear_hear ..

theorem endpoints_takeRequests (items : List RequestItem) (progress : Progress) :
    (items.foldl takeRequest progress).endpoints =
      progress.endpoints.map (Endpoint.heed items) := by
  induction items generalizing progress with
  | nil => simp
  | cons item rest restHypothesis =>
      rw [List.foldl_cons, restHypothesis, takeRequest, update, List.map_map]
      refine List.map_congr_left fun endpoint _ => ?_
      by_cases isClient : endpoint.clientName = item.client
      · simp [Endpoint.heed, Endpoint.invoke, isClient]
      · simp [Endpoint.heed, isClient, Ne.symm isClient]

end Progress

/-! ## States and variables -/

namespace Progress

/-- The variables and states known so far. -/
def surroundings (progress : Progress) : List Variable × List State :=
  (progress.datamodel, progress.states)

theorem surroundings_takeAssign
    (source client : Text)
    (progress : Progress)
    (item : AssignItem) :
    (progress.takeAssign source client item).surroundings = progress.surroundings := by
  unfold takeAssign
  split <;> rfl

theorem surroundings_takeHandlers
    (source : Text)
    (items : List HandlerItem)
    (progress : Progress) :
    (items.foldl (takeHandler source) progress).surroundings = progress.surroundings := by
  have keepsHandler : ∀ (current : Progress) (item : HandlerItem),
      (current.takeHandler source item).surroundings = current.surroundings :=
    fun current item =>
      foldl_keeps surroundings _ (surroundings_takeAssign source item.client) item.assigns
        (current.update item.client (Endpoint.addTarget item.target))
  exact foldl_keeps surroundings _ keepsHandler items progress

/-- A state is put after its handlers, which leave the other states alone. -/
theorem surroundings_takeStates
    (source : Text)
    (items : List StateItem)
    (progress : Progress) :
    (items.foldl (takeState source) progress).surroundings =
      (progress.datamodel,
        (items.map fun item => item.state item.id).foldl (fun known state => putState state known)
          progress.states) := by
  induction items generalizing progress with
  | nil => rfl
  | cons item rest restHypothesis =>
      have handled := surroundings_takeHandlers source item.handlers progress
      have sameVariables : (progress.takeState source item).datamodel = progress.datamodel :=
        congrArg Prod.fst handled
      have onePut : (progress.takeState source item).states =
          putState (item.state item.id) progress.states :=
        congrArg (putState _) (congrArg Prod.snd handled)
      rw [List.foldl_cons, restHypothesis, sameVariables, onePut]
      rfl

theorem surroundings_takeRequests (items : List RequestItem) (progress : Progress) :
    (items.foldl takeRequest progress).surroundings = progress.surroundings :=
  foldl_keeps surroundings takeRequest (fun _ _ => rfl) items progress

theorem surroundings_takeDeclarations
    (nodeName : Text)
    (items : List DeclarationItem)
    (progress : Progress) :
    (items.foldl (takeDeclaration nodeName) progress).surroundings = progress.surroundings :=
  foldl_keeps surroundings (takeDeclaration nodeName) (fun _ _ => rfl) items progress

theorem surroundings_takeDataItems
    (source : Text)
    (items : List DataItem)
    (progress : Progress) :
    (items.foldl (takeData source) progress).surroundings =
      (progress.datamodel ++ items.map DataItem.variable, progress.states) := by
  induction items generalizing progress with
  | nil => simp [surroundings]
  | cons item rest restHypothesis =>
      rw [List.foldl_cons, restHypothesis]
      simp [takeData]

end Progress

/-! ## Records of assignments -/

/-- An assignment with the client of the handler that it stands in. -/
structure Visit where
  client : Text
  item : AssignItem

/-- The assignments in a handler in document order. -/
def HandlerItem.visits (item : HandlerItem) : List Visit := item.assigns.map (⟨item.client, ·⟩)

/-- The assignments to fields of a client. -/
def writesOf (client : Text) (visits : List Visit) : List Assignment :=
  (visits.filter (·.client = client)).filterMap (·.item.write?)

/-- The location that a field is mapped to after some assignments. -/
def lastLocation? (field : Text) (writes : List Assignment) : Option Text :=
  (lastWrite? field writes).map Assignment.location

/-- The record about a field that was mapped to another location. -/
def Visit.overrideRecord (source : Text) (visit : Visit) (write : Assignment) (previous : Text) :
    LogRecord :=
  .warning (source ++ ":" ++ Text.ofNat visit.item.line ++ ": response field '" ++ write.field ++
    "' of '" ++ visit.client ++ "' assigned to '" ++ write.location ++ "', overriding '" ++
    previous ++ "'")

/-- The records about an assignment after earlier ones: one if it is skipped, and one if
its field was mapped to another location at that moment. -/
def Visit.records (source : Text) (earlier : List Visit) (visit : Visit) : Log :=
  match visit.item.write? with
  | none => [visit.item.skipRecord source]
  | some write =>
      match lastLocation? write.field (writesOf visit.client earlier) with
      | some previous =>
          if previous = write.location then [] else [visit.overrideRecord source write previous]
      | none => []

/-- The records about assignments after earlier ones. -/
def visitLog (source : Text) (earlier : List Visit) : List Visit → Log
  | [] => []
  | visit :: later =>
      visit.records source earlier ++ visitLog source (earlier ++ [visit]) later

theorem visitLog_append (source : Text) (earlier first second : List Visit) :
    visitLog source earlier (first ++ second) =
      visitLog source earlier first ++ visitLog source (earlier ++ first) second := by
  induction first generalizing earlier with
  | nil => simp [visitLog]
  | cons visit rest restHypothesis => simp [visitLog, restHypothesis]

theorem lastWrite?_append (field : Text) (earlier later : List Assignment) :
    lastWrite? field (earlier ++ later) =
      (lastWrite? field later).or (lastWrite? field earlier) := by
  simp [lastWrite?, List.getLast?_append]

theorem Endpoint.locationOf?_record
    (field : Text)
    (writes : List Assignment)
    (endpoint : Endpoint) :
    (endpoint.record writes).locationOf? field =
      (lastLocation? field writes).or (endpoint.locationOf? field) := by
  unfold locationOf? record lastLocation?
  rw [find?_putAssignments]
  cases lastWrite? field writes <;> rfl

theorem writesOf_concat (client : Text) (visits : List Visit) (visit : Visit) :
    writesOf client (visits ++ [visit]) =
      writesOf client visits ++
        if visit.client = client then visit.item.write?.toList else [] := by
  by_cases isClient : visit.client = client
  · cases write : visit.item.write? <;> simp [writesOf, isClient, write]
  · simp [writesOf, isClient]

namespace Progress

/-- The endpoints have their fields mapped as some assignments leave them. -/
def Reflects (progress : Progress) (visits : List Visit) : Prop :=
  ∀ endpoint ∈ progress.endpoints, ∀ field,
    endpoint.locationOf? field = lastLocation? field (writesOf endpoint.clientName visits)

variable (source : Text) {progress : Progress} {visits : List Visit}

theorem Reflects.takeAssign
    (reflects : progress.Reflects visits)
    (client : Text)
    (item : AssignItem) :
    (progress.takeAssign source client item).Reflects (visits ++ [⟨client, item⟩]) := by
  intro endpoint member field
  rw [endpoints_takeAssign] at member
  obtain ⟨before, beforeMember, rfl⟩ := List.mem_map.mp member
  have atFirst := reflects before beforeMember field
  -- Other clients see nothing of the assignment, neither in their fields nor in the history.
  by_cases isClient : before.clientName = client
  · rw [if_pos isClient, Endpoint.clientName_record, writesOf_concat, if_pos isClient.symm,
      Endpoint.locationOf?_record, atFirst]
    unfold lastLocation?
    rw [lastWrite?_append, Option.map_or]
  · rw [if_neg isClient, writesOf_concat, if_neg (Ne.symm isClient), List.append_nil]
    exact atFirst

/-- The records about an assignment are told by the assignments before it. -/
theorem log_takeAssign
    (reflects : progress.Reflects visits)
    {client : Text}
    (isDeclared : progress.kindOf? client ≠ none)
    (item : AssignItem) :
    (progress.takeAssign source client item).log =
      progress.log ++ Visit.records source visits ⟨client, item⟩ := by
  unfold Progress.takeAssign Visit.records
  cases item.write? with
  | none => rfl
  | some write =>
      cases found : progress.endpoint? client with
      | none => simp [kindOf?, found] at isDeclared
      | some endpoint =>
          have member : endpoint ∈ progress.endpoints := List.mem_of_find?_eq_some found
          have isClient : endpoint.clientName = client := by
            simpa using List.find?_some found
          have location := reflects endpoint member write.field
          rw [isClient] at location
          dsimp only [update, note, overrideWarnings]
          rw [location]
          rfl

theorem takeAssigns_records
    (reflects : progress.Reflects visits)
    {client : Text}
    (isDeclared : progress.kindOf? client ≠ none)
    (items : List AssignItem) :
    (items.foldl (Progress.takeAssign source client) progress).log =
        progress.log ++ visitLog source visits (items.map (⟨client, ·⟩)) ∧
      (items.foldl (Progress.takeAssign source client) progress).Reflects
        (visits ++ items.map (⟨client, ·⟩)) := by
  induction items generalizing progress visits with
  | nil => simpa [visitLog] using reflects
  | cons item rest restHypothesis =>
      have stillDeclared : (progress.takeAssign source client item).kindOf? client ≠ none := by
        rwa [kindOf?_takeAssign]
      obtain ⟨restLog, restReflects⟩ :=
        restHypothesis (reflects.takeAssign source client item) stillDeclared
      rw [List.foldl_cons, restLog, log_takeAssign source reflects isDeclared]
      refine ⟨by simp [visitLog], ?_⟩
      simpa using restReflects

theorem takeHandler_records
    (reflects : progress.Reflects visits)
    {item : HandlerItem}
    (isDeclared : progress.kindOf? item.client ≠ none) :
    (progress.takeHandler source item).log =
        progress.log ++ visitLog source visits item.visits ∧
      (progress.takeHandler source item).Reflects (visits ++ item.visits) := by
  let targeted := progress.update item.client (Endpoint.addTarget item.target)
  have sameKinds : targeted.kindOf? = progress.kindOf? :=
    kindOf?_update progress item.client _ (fun _ => rfl) fun _ => rfl
  have targetedReflects : targeted.Reflects visits := by
    intro endpoint member field
    obtain ⟨before, beforeMember, rfl⟩ := List.mem_map.mp member
    have atFirst := reflects before beforeMember field
    split <;> exact atFirst
  exact takeAssigns_records source targetedReflects (sameKinds ▸ isDeclared) item.assigns

theorem takeHandlers_records
    (reflects : progress.Reflects visits)
    {items : List HandlerItem}
    (areDeclared : ∀ item ∈ items, progress.kindOf? item.client ≠ none) :
    (items.foldl (Progress.takeHandler source) progress).log =
        progress.log ++ visitLog source visits (items.flatMap HandlerItem.visits) ∧
      (items.foldl (Progress.takeHandler source) progress).Reflects
        (visits ++ items.flatMap HandlerItem.visits) := by
  induction items generalizing progress visits with
  | nil => simpa [visitLog] using reflects
  | cons item rest restHypothesis =>
      -- For the rest the history has grown by the visits of the first handler.
      obtain ⟨itemLog, itemReflects⟩ :=
        takeHandler_records source reflects (areDeclared item (List.mem_cons_self ..))
      have stillDeclared : ∀ later ∈ rest,
          (progress.takeHandler source item).kindOf? later.client ≠ none := by
        intro later member
        rw [kindOf?_takeHandler]
        exact areDeclared later (List.mem_cons_of_mem _ member)
      obtain ⟨restLog, restReflects⟩ := restHypothesis itemReflects stillDeclared
      rw [List.foldl_cons, restLog, itemLog, List.flatMap_cons, visitLog_append,
        List.append_assoc]
      refine ⟨rfl, ?_⟩
      rwa [List.append_assoc] at restReflects

theorem takeStates_records
    (reflects : progress.Reflects visits)
    {items : List StateItem}
    (areDeclared : ∀ item ∈ items.flatMap StateItem.handlers,
      progress.kindOf? item.client ≠ none) :
    (items.foldl (Progress.takeState source) progress).log =
      progress.log ++
        visitLog source visits
          ((items.flatMap StateItem.handlers).flatMap HandlerItem.visits) := by
  induction items generalizing progress visits with
  | nil => simp [visitLog]
  | cons item rest restHypothesis =>
      rw [List.flatMap_cons, List.forall_mem_append] at areDeclared
      obtain ⟨itemLog, itemReflects⟩ := takeHandlers_records source reflects areDeclared.1
      have afterItem : (progress.takeState source item).Reflects
          (visits ++ item.handlers.flatMap HandlerItem.visits) := itemReflects
      have stillDeclared : ∀ later ∈ rest.flatMap StateItem.handlers,
          (progress.takeState source item).kindOf? later.client ≠ none := by
        intro later member
        rw [kindOf?_takeState]
        exact areDeclared.2 later member
      have logAfterItem : (progress.takeState source item).log =
          progress.log ++ visitLog source visits (item.handlers.flatMap HandlerItem.visits) :=
        itemLog
      rw [List.foldl_cons, restHypothesis afterItem stillDeclared, logAfterItem,
        List.flatMap_cons, List.flatMap_append, visitLog_append, List.append_assoc]

theorem log_takeRequests (items : List RequestItem) (progress : Progress) :
    (items.foldl takeRequest progress).log = progress.log :=
  foldl_keeps log takeRequest (fun _ _ => rfl) items progress

theorem log_takeDeclarations
    (nodeName : Text)
    (items : List DeclarationItem)
    (progress : Progress) :
    (items.foldl (takeDeclaration nodeName) progress).log = progress.log :=
  foldl_keeps log (takeDeclaration nodeName) (fun _ _ => rfl) items progress

end Progress

/-- The warnings about variables that are declared after others. -/
def dataLog (source : Text) (earlier : List Variable) : List DataItem → Log
  | [] => []
  | item :: rest =>
      variableWarnings source item.line earlier item.variable ++
        dataLog source (earlier ++ [item.variable]) rest

theorem Progress.log_takeDataItems
    (source : Text)
    (items : List DataItem)
    (progress : Progress) :
    (items.foldl (takeData source) progress).log =
      progress.log ++ dataLog source progress.datamodel items := by
  induction items generalizing progress with
  | nil => simp [dataLog]
  | cons item rest restHypothesis =>
      rw [List.foldl_cons, restHypothesis]
      simp [takeData, dataLog]

/-! ## Whole outlines -/

namespace Outline

/-- The handlers of all states in the order of visits. -/
def handlers (outline : Outline) : List HandlerItem := outline.states.flatMap StateItem.handlers

/-- The assignments in all handlers in the order of visits. -/
def visits (outline : Outline) : List Visit := outline.handlers.flatMap HandlerItem.visits

/-- The endpoints of an outline: those of its declarations after its handlers and requests. -/
theorem endpoints_takeAll (source nodeName : Text) (outline : Outline) :
    (outline.takeAll source nodeName).endpoints =
      outline.declarations.map fun item =>
        ((item.endpoint nodeName).hear outline.handlers).heed outline.requests := by
  rw [takeAll, Progress.endpoints_takeRequests, Progress.endpoints_takeStates,
    endpoints_takeDeclared, List.map_map, List.map_map]
  rfl

/-- The variables and states of an outline. -/
theorem surroundings_takeAll (source nodeName : Text) (outline : Outline) :
    (outline.takeAll source nodeName).surroundings =
      (outline.data.map DataItem.variable,
        (outline.states.map fun item => item.state item.id).foldl
          (fun known state => putState state known) []) := by
  have declared : (outline.takeDeclared source nodeName).surroundings =
      (outline.data.map DataItem.variable, []) := by
    rw [takeDeclared, Progress.surroundings_takeDeclarations,
      Progress.surroundings_takeDataItems]
    rfl
  have sameVariables := congrArg Prod.fst declared
  have sameStates := congrArg Prod.snd declared
  dsimp only [Progress.surroundings] at sameVariables sameStates
  rw [takeAll, Progress.surroundings_takeRequests, Progress.surroundings_takeStates,
    sameVariables, sameStates]

/-- The records about the items of an outline whose handlers refer to declared clients. -/
theorem log_takeAll
    (source nodeName : Text)
    {outline : Outline}
    (areDeclared : ∀ item ∈ outline.handlers, outline.kindOf? item.client ≠ none) :
    (outline.takeAll source nodeName).log =
      dataLog source [] outline.data ++ visitLog source [] outline.visits := by
  have atFirst : (outline.takeDeclared source nodeName).Reflects [] := by
    intro endpoint member field
    rw [endpoints_takeDeclared] at member
    obtain ⟨item, _, rfl⟩ := List.mem_map.mp member
    rfl
  have declaredLog : (outline.takeDeclared source nodeName).log =
      dataLog source [] outline.data := by
    rw [takeDeclared, Progress.log_takeDeclarations, Progress.log_takeDataItems]
    rfl
  have stillDeclared : ∀ item ∈ outline.states.flatMap StateItem.handlers,
      (outline.takeDeclared source nodeName).kindOf? item.client ≠ none := by
    rw [kindOf?_takeDeclared]
    exact areDeclared
  rw [takeAll, Progress.log_takeRequests,
    Progress.takeStates_records source atFirst stillDeclared, declaredLog]
  rfl

end Outline

end Statechart
end SkillNode
