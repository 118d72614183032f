import SkillNode.Statechart.Model
import SkillNode.Statechart.Error

/-!
# Extraction of models

An outline is read item by item: first the data elements, then the
declarations, then the states with their handlers, then the requests. Each step
either extends what is known so far or ends the extraction with an error; what
was known by then is kept beside the error.

When all items are read, the model gets its endpoints and an initial state, and
warnings are made about clients that are never invoked and handlers that lead
nowhere.

A reader keeps what it builds. It goes on from what it remembers of the document
before, after it forgot the endpoints and started another model.
-/

namespace SkillNode
namespace Statechart

/-- What is known of a behaviour in the middle of an extraction. -/
structure Progress where
  datamodel : List Variable := []
  endpoints : List Endpoint := []
  states : List State := []
  log : Log := []
  deriving DecidableEq, Repr

/-- An error and what was known when it was met. -/
structure Failure where
  error : Error
  progress : Progress
  deriving DecidableEq, Repr

/-- The value of an attribute that has to be there and not blank, trimmed. -/
def required? (value? : Option Text) : Option Text :=
  (value?.map Text.trim).filter (!·.isEmpty)

/-- The value of an attribute that has to be there, or the fault of its lack. -/
def require (name : Text) (value? : Option Text) : Except Fault Text :=
  match required? value? with
  | some value => .ok value
  | none => .error (.missingAttribute name)

namespace Progress

/-- Add records to the log. -/
def note (progress : Progress) (records : Log) : Progress :=
  { progress with log := progress.log ++ records }

/-- End an extraction with a fault of an element. -/
def fail {α : Type} (progress : Progress) (source element : Text) (line : Nat) (fault : Fault) :
    Except Failure α :=
  .error ⟨⟨source, element, some line, fault⟩, progress⟩

end Progress

/-! ## Data elements -/

/-- The variable that a data element declares. -/
def DataItem.declared (item : DataItem) : Except Fault Variable := do
  let id ← require "id" item.id?
  let type ← require "type" item.type?
  return ⟨id, type, item.expr?.getD []⟩

/-- The warnings about a variable declared on a line after other variables. -/
def variableWarnings (source : Text) (line : Nat) (earlier : List Variable) (new : Variable) :
    Log :=
  let place : Text := source ++ ": datamodel variable '" ++ new.id
  let again : Log :=
    if earlier.any (·.id = new.id) then
      [.warning (place ++ "' declared twice (line " ++ Text.ofNat line ++ ")")]
    else
      []
  let unknown : Log :=
    if new.fieldType?.isNone then
      [.warning (place ++ "' has unknown type '" ++ new.type ++ "'")]
    else
      []
  again ++ unknown

/-- Take in a data element. -/
def Progress.addData (source : Text) (progress : Progress) (item : DataItem) :
    Except Failure Progress :=
  match item.declared with
  | .error fault => progress.fail source dataTag item.line fault
  | .ok new =>
      .ok { progress with
        datamodel := progress.datamodel ++ [new]
        log := progress.log ++ variableWarnings source item.line progress.datamodel new }

/-! ## Declarations -/

/-- The endpoint that a declaration declares. -/
def DeclarationItem.declared (nodeName : Text) (item : DeclarationItem) :
    Except Fault Endpoint := do
  let rosName ← require (rosNameAttribute item.kind) item.rosName?
  let type ← require "type" item.type?
  let (package, typeName) := Naming.splitInterfaceId type
  if package.isEmpty || typeName.isEmpty then
    throw (.badInterfaceType type)
  if (Naming.rosSegments rosName).isEmpty then
    throw (.badRosName rosName)
  return {
    nodeName := nodeName
    clientName := (item.name?.filter (!·.isEmpty)).getD rosName
    kind := item.kind
    rosName := rosName
    key := ⟨package, typeName⟩ }

/-- Take in a declaration, whose client name has to be new. -/
def Progress.addDeclaration (source nodeName : Text) (progress : Progress)
    (item : DeclarationItem) : Except Failure Progress :=
  match item.declared nodeName with
  | .error fault => progress.fail source (declarationTag item.kind) item.line fault
  | .ok endpoint =>
      if progress.endpoints.any (·.clientName = endpoint.clientName) then
        progress.fail source (declarationTag item.kind) item.line
          (.duplicateDeclaration endpoint.clientName)
      else
        .ok { progress with endpoints := progress.endpoints ++ [endpoint] }

/-! ## Handlers -/

/-- The declared endpoint with a client name. -/
def Progress.endpoint? (progress : Progress) (name : Text) : Option Endpoint :=
  progress.endpoints.find? (·.clientName = name)

/-- Change the endpoint with a client name. -/
def Progress.update (progress : Progress) (name : Text) (change : Endpoint → Endpoint) :
    Progress :=
  { progress with
    endpoints := progress.endpoints.map fun endpoint =>
      if endpoint.clientName = name then change endpoint else endpoint }

/-- The response field that an expression reads: what follows its first dot. An
expression without a dot reads none. -/
def fieldRead? (expr : Text) : Option Text := Text.after? '.' expr

/-- The field that an expression names: the one that it reads, or all of it. -/
def fieldOfExpr (expr : Text) : Text := (fieldRead? expr).getD expr

/-- An assignment's location and expression. -/
def AssignItem.operands (item : AssignItem) : Except Fault (Text × Text) := do
  let location ← require "location" item.location?
  let expr ← require "expr" item.expr?
  return (location, expr)

/-- Record that a field is assigned to a location. -/
def Endpoint.assign (endpoint : Endpoint) (field location : Text) : Endpoint :=
  { endpoint with
    assignments := putAssignment ⟨field, location⟩ endpoint.assignments
    assignedFields := endpoint.assignedFields ++ [field] }

/-- The warning about a field that was assigned to another location before. -/
def overrideWarnings (source name field location : Text) (line : Nat) (endpoint : Endpoint) :
    Log :=
  match endpoint.locationOf? field with
  | some previous =>
      if previous = location then
        []
      else
        [.warning (source ++ ":" ++ Text.ofNat line ++ ": response field '" ++ field ++ "' of '" ++
          name ++ "' assigned to '" ++ location ++ "', overriding '" ++ previous ++ "'")]
  | none => []

/-- Take in an assignment of a handler for an endpoint. -/
def Progress.addAssign (source name : Text) (progress : Progress) (item : AssignItem) :
    Except Failure Progress :=
  match item.operands with
  | .error fault => progress.fail source assignTag item.line fault
  | .ok (location, expr) =>
      match fieldRead? expr with
      | none =>
          .ok (progress.note [.debug (source ++ ":" ++ Text.ofNat item.line ++ ": assign to '" ++
            location ++ "' does not read the response, skipped")])
      | some field =>
          let warnings :=
            match progress.endpoint? name with
            | some endpoint => overrideWarnings source name field location item.line endpoint
            | none => []
          .ok ((progress.note warnings).update name (·.assign field location))

/-- A handler's reference to an endpoint and its target state. -/
def HandlerItem.operands (item : HandlerItem) : Except Fault (Text × Text) := do
  let name ← require "name" item.name?
  let target ← require "target" item.target?
  return (name, target)

/-- Take in a handler, which has to refer to a declaration of its kind. -/
def Progress.addHandler (source : Text) (progress : Progress) (item : HandlerItem) :
    Except Failure Progress :=
  match item.operands with
  | .error fault => progress.fail source (handlerTag item.kind) item.line fault
  | .ok (name, target) =>
      if (progress.endpoint? name).any (·.kind = item.kind) then
        let targeted := progress.update name fun endpoint =>
          { endpoint with handlerTargets := endpoint.handlerTargets ++ [target] }
        item.assigns.foldlM (Progress.addAssign source name) targeted
      else
        progress.fail source (handlerTag item.kind) item.line (.noDeclaration name item.kind)

/-! ## States -/

/-- The state that a state element makes under an id. -/
def StateItem.state (item : StateItem) (id : Text) : State where
  id := id
  parent? := item.parent?
  isFinal := item.tagName = finalTag
  transitions := item.transitions.map fun written =>
    ⟨written.event?.getD [], written.target?.getD []⟩

/-- Take in a state element: its handlers, then the state itself. -/
def Progress.addState (source : Text) (progress : Progress) (item : StateItem) :
    Except Failure Progress :=
  match require "id" item.id? with
  | .error fault => progress.fail source item.tagName item.line fault
  | .ok id =>
      match item.handlers.foldlM (Progress.addHandler source) progress with
      | .error failure => .error failure
      | .ok handled => .ok { handled with states := putState (item.state id) handled.states }

/-! ## Requests -/

/-- Take in a request, which has to refer to a service client. -/
def Progress.addRequest (source : Text) (progress : Progress) (item : RequestItem) :
    Except Failure Progress :=
  match require "name" item.name? with
  | .error fault => progress.fail source requestTag item.line fault
  | .ok name =>
      if (progress.endpoint? name).any Endpoint.isService then
        .ok (progress.update name fun endpoint => { endpoint with isInvoked := true })
      else
        progress.fail source requestTag item.line (.undeclaredClient name)

/-! ## Whole outlines -/

/-- Take in all items of an outline. -/
def Progress.addAll (source nodeName : Text) (outline : Outline) (progress : Progress := {}) :
    Except Failure Progress := do
  let progress ← outline.data.foldlM (Progress.addData source) progress
  let progress ← outline.declarations.foldlM (Progress.addDeclaration source nodeName) progress
  let progress ← outline.states.foldlM (Progress.addState source) progress
  outline.requests.foldlM (Progress.addRequest source) progress

/-- The warnings about service clients that no request invokes. -/
def uninvokedWarnings (source : Text) (endpoints : List Endpoint) : Log :=
  (endpoints.filter fun endpoint => endpoint.isService && !endpoint.isInvoked).map fun endpoint =>
    .warning (source ++ ": service client '" ++ endpoint.clientName ++
      "' is never invoked; it is still constructed at startup")

/-- The warnings about handlers whose target is no state. -/
def targetWarnings (source : Text) (states : List State) (endpoints : List Endpoint) : Log :=
  endpoints.flatMap fun endpoint =>
    (endpoint.handlerTargets.filter fun target => !states.any (·.id = target)).map fun target =>
      .warning (source ++ ": handler for '" ++ endpoint.clientName ++
        "' targets unknown state '" ++ target ++ "'")

/-- The id of the first state without a state around it. -/
def firstTopState? (states : List State) : Option Text :=
  (states.find? (·.parent?.isNone)).map State.id

/-- The name of the skill: that of the document if it is given and not empty. -/
def Outline.skillName (outline : Outline) (fallbackName : Text) : Text :=
  (outline.name?.filter (!·.isEmpty)).getD fallbackName

/-- The node of a skill of a name, if a class can be named after it. -/
def nodeName? (skillName : Text) : Option Text :=
  (Naming.className? skillName).map Naming.snakeCase

/-- The model of a skill whose outline is taken in completely. -/
def Progress.finish (progress : Progress) (name source initial : Text) : RawModel where
  name := name
  source := source
  initial := if initial.isEmpty then (firstTopState? progress.states).getD initial else initial
  datamodel := progress.datamodel
  states := progress.states
  endpoints := progress.endpoints

/-! ## Readers -/

/-- What a reader remembers: the source of the last document, the endpoints declared in it
so far, and the model that was started last. -/
structure Memory where
  source : Text := []
  endpoints : List Endpoint := []
  model? : Option RawModel := none
  deriving DecidableEq, Repr

namespace Memory

/-- Turn to a document of a source, in which no endpoint is declared so far. -/
def turnTo (memory : Memory) (source : Text) : Memory :=
  { memory with source := source, endpoints := [] }

/-- Start the model of a skill. -/
def start (memory : Memory) (name initial : Text) : Memory :=
  { memory with
    model? := some
      { name := name
        source := memory.source
        initial := initial
        datamodel := []
        states := []
        endpoints := [] } }

/-- What is known of the behaviour that the remembered model is of. -/
def progress (memory : Memory) : Progress where
  datamodel := (memory.model?.map Model.datamodel).getD []
  endpoints := memory.endpoints
  states := (memory.model?.map Model.states).getD []

/-- Remember what became known of the behaviour. The model gets its endpoints last. -/
def keep (memory : Memory) (progress : Progress) : Memory :=
  { memory with
    endpoints := progress.endpoints
    model? := memory.model?.map fun model =>
      { model with datamodel := progress.datamodel, states := progress.states } }

/-- Nothing is known of a behaviour whose model was just started. -/
@[simp] theorem progress_start (memory : Memory) (source name initial : Text) :
    ((memory.turnTo source).start name initial).progress = {} := rfl

end Memory

/-- What an extraction leaves behind: a model or an error, the log, and what the reader
remembers. -/
structure Extraction where
  outcome : Except Error RawModel
  log : Log
  memory : Memory

/-- Extract the model of an outline by a reader, which is a new one if nothing is said. A
skill without a name is called by the fallback name. -/
def Outline.extract (outline : Outline) (source fallbackName : Text) (memory : Memory := {}) :
    Extraction :=
  let turned := memory.turnTo source
  if outline.rootName ≠ rootTag then
    ⟨.error ⟨source, outline.rootName, some outline.line, .wrongRoot outline.rootName⟩, [],
      turned⟩
  else
    let name := outline.skillName fallbackName
    let initial := outline.initial?.getD []
    let started := turned.start name initial
    match nodeName? name with
    | none =>
        ⟨.error ⟨source, rootTag, some outline.line, .unusableName name⟩, [], started⟩
    | some nodeName =>
        match Progress.addAll source nodeName outline started.progress with
        | .error ⟨error, progress⟩ => ⟨.error error, progress.log, started.keep progress⟩
        | .ok progress =>
            let model := progress.finish name source initial
            ⟨.ok model,
              progress.log ++ uninvokedWarnings source progress.endpoints ++
                targetWarnings source progress.states progress.endpoints,
              { started.keep progress with model? := some model }⟩

end Statechart
end SkillNode
