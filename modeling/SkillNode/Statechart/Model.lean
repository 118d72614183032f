import SkillNode.Interface.Catalog
import SkillNode.Naming

/-!
# Statechart models

What the generator keeps of a behaviour description: its datamodel variables,
its states with their transitions, and one endpoint for each service client or
topic subscriber that it declares.

A model is parametrised by its endpoints, so that resolving the types of their
fields changes nothing else.
-/

namespace SkillNode
namespace Statechart

/-- A declared datamodel variable. -/
structure Variable where
  id : Text
  type : Text
  expr : Text
  deriving DecidableEq, Repr

/-- The type of a variable, if its declared type is known. -/
def Variable.fieldType? (declared : Variable) : Option Interface.FieldType :=
  Interface.FieldType.ofDeclared? declared.type

/-- A transition out of a state. -/
structure Transition where
  event : Text
  target : Text
  deriving DecidableEq, Repr

/-- A state, with the id of the state around it. -/
structure State where
  id : Text
  parent? : Option Text
  isFinal : Bool
  transitions : List Transition
  deriving DecidableEq, Repr

/-- A response field and the variable that it is assigned to. -/
structure Assignment where
  field : Text
  location : Text
  deriving DecidableEq, Repr

/-- A declared service client or topic subscriber, with what the handlers and
requests that refer to it say about it. The names of its function, server,
service, topic and type in snake case are not kept but derived from what is, as a
declaration sets them; an endpoint with other names cannot be written down. -/
structure Endpoint where
  nodeName : Text
  clientName : Text
  kind : Interface.Kind
  rosName : Text
  key : Interface.Key
  /-- The variable of each assigned field, in the order of first assignment. -/
  assignments : List Assignment := []
  /-- The field of every assignment in order, repetitions included. -/
  assignedFields : List Text := []
  handlerTargets : List Text := []
  isInvoked : Bool := false
  deriving DecidableEq, Repr

namespace Endpoint

/-- Whether an endpoint is a service client. -/
def isService (endpoint : Endpoint) : Bool := endpoint.kind = .service

/-- The interface of an endpoint as it is declared. -/
def interfaceId (endpoint : Endpoint) : Text := endpoint.key.text

/-- The type name of the interface in snake case. -/
def typeSnake (endpoint : Endpoint) : Text := Naming.snakeCase endpoint.key.typeName

/-- The last segment of the service or topic name. -/
def functionName (endpoint : Endpoint) : Text :=
  (Naming.rosSegments endpoint.rosName).getLast?.getD []

/-- The segments of a service name before the last, empty for a topic. -/
def serverName (endpoint : Endpoint) : Text :=
  if endpoint.isService then
    Text.join "/" (Naming.rosSegments endpoint.rosName).dropLast
  else
    []

/-- The name of the service, empty for a topic. -/
def serviceName (endpoint : Endpoint) : Text :=
  if endpoint.isService then endpoint.rosName else []

/-- The name of the topic, empty for a service. -/
def topicName (endpoint : Endpoint) : Text :=
  if endpoint.isService then [] else endpoint.rosName

/-- The variable that a field is assigned to. -/
def locationOf? (endpoint : Endpoint) (field : Text) : Option Text :=
  (endpoint.assignments.find? (·.field = field)).map Assignment.location

end Endpoint

/-- Set the variable of a field, in place if the field has one. -/
def putAssignment (new : Assignment) : List Assignment → List Assignment
  | [] => [new]
  | assignment :: rest =>
      if assignment.field = new.field then
        new :: rest
      else
        assignment :: putAssignment new rest

/-- Put a state, in place if there is one with its id. -/
def putState (new : State) : List State → List State
  | [] => [new]
  | state :: rest =>
      if state.id = new.id then new :: rest else state :: putState new rest

/-- A behaviour description as the generator sees it. -/
structure Model (Endpoints : Type) where
  name : Text
  source : Text
  initial : Text
  datamodel : List Variable
  states : List State
  endpoints : List Endpoints
  deriving DecidableEq, Repr

/-- A model whose endpoints are as declared and handled, without field types. -/
abbrev RawModel := Model Endpoint

/-- The first variable with an id. -/
def Model.variableNamed? {Endpoints : Type} (model : Model Endpoints) (id : Text) :
    Option Variable :=
  model.datamodel.find? (·.id = id)

/-! ## Resolved endpoints -/

/-- Where the type of a field came from. -/
inductive TypeSource
  | catalog
  | datamodel
  | default
  deriving DecidableEq, Repr

/-- The name of a source of types. -/
def TypeSource.name : TypeSource → Text
  | .catalog => "catalog"
  | .datamodel => "datamodel"
  | .default => "default"

/-- An assigned field with its type. -/
structure ResolvedField where
  name : Text
  location : Text
  type : Interface.FieldType
  source : TypeSource
  deriving DecidableEq, Repr

/-- An endpoint with the types of its assigned fields and the names of the fields
of its request. -/
structure ResolvedEndpoint where
  endpoint : Endpoint
  resolvedFields : List ResolvedField
  requestFields : List Text
  deriving DecidableEq, Repr

/-- A model whose endpoints carry the types of their fields. -/
abbrev TypedModel := Model ResolvedEndpoint

namespace Model

/-- The service clients of a typed model. -/
def services (model : TypedModel) : List ResolvedEndpoint :=
  model.endpoints.filter (·.endpoint.isService)

/-- The topic subscribers of a typed model. -/
def topics (model : TypedModel) : List ResolvedEndpoint :=
  model.endpoints.filter (! ·.endpoint.isService)

end Model

end Statechart
end SkillNode
