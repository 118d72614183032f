import SkillNode.Cpp.Access
import SkillNode.Generation.Error

/-!
# Bindings

A binding is what the generated code has for one endpoint: a member that holds
the client or subscription, methods that call or receive, an include file, state
machine events, and the fields that a response hands over.

A field that is assigned several times is handed over once. An array or nested
message cannot be handed over, so an endpoint that assigns one has no binding.
-/

namespace SkillNode
namespace Generation

open Statechart (Endpoint ResolvedEndpoint ResolvedField TypeSource)

/-- A field of a response with the expression that reads it. -/
structure ResponseField where
  name : Text
  location : Text
  type : Interface.FieldType
  source : TypeSource
  access : Text
  deriving DecidableEq, Repr

/-- The first field of each name. -/
def distinctFields : List ResolvedField → List ResolvedField
  | [] => []
  | field :: rest => field :: (distinctFields rest).filter (·.name ≠ field.name)

/-- What a response or message is called in the generated code. -/
def rootOf (endpoint : Endpoint) : Text := if endpoint.isService then "response" else "msg"

/-- A field with the expression that reads it from a root object. -/
def ResponseField.ofResolved (root : Text) (field : ResolvedField) : Except Error ResponseField :=
  match Cpp.access? field root with
  | some access => .ok ⟨field.name, field.location, field.type, field.source, access⟩
  | none => .error (.compoundField field.name field.location)

/-- An endpoint with the fields that its response hands over. -/
structure Binding where
  resolved : ResolvedEndpoint
  responseFields : List ResponseField
  deriving DecidableEq, Repr

/-- The binding of an endpoint. -/
def Binding.ofResolved (resolved : ResolvedEndpoint) : Except Error Binding :=
  match (distinctFields resolved.resolvedFields).mapM
      (ResponseField.ofResolved (rootOf resolved.endpoint)) with
  | .ok fields => .ok ⟨resolved, fields⟩
  | .error error => .error error

namespace Binding

/-- The endpoint of a binding. -/
def endpoint (binding : Binding) : Endpoint := binding.resolved.endpoint

/-- Whether a binding is that of a service client. -/
def isService (binding : Binding) : Bool := binding.endpoint.isService

/-- The client name of a binding. -/
def clientName (binding : Binding) : Text := binding.endpoint.clientName

/-- The identifier that the names of a binding are made of: that of the client, or
of the service or topic if the client name has no usable character. -/
def identifier (binding : Binding) : Text :=
  match Naming.identifier binding.clientName with
  | [] => Naming.identifier binding.endpoint.functionName
  | c :: rest => c :: rest

/-- The folder of a package that holds the interface. -/
def folder (binding : Binding) : Text := if binding.isService then "srv" else "msg"

/-- The member that holds the client or subscription. -/
def memberName (binding : Binding) : Text :=
  (if binding.isService then "m_client_" else "m_subscription_") ++ binding.identifier

/-- The type of the interface in the generated code. -/
def typeToken (binding : Binding) : Text :=
  binding.endpoint.key.package ++ "::" ++ binding.folder ++ "::" ++ binding.endpoint.key.typeName

/-- The include file of the interface. -/
def includePath (binding : Binding) : Text :=
  binding.endpoint.key.package ++ "/" ++ binding.folder ++ "/" ++ binding.endpoint.typeSnake ++
    ".hpp"

/-- What the events of an endpoint start with: the segments of its name, joined by
points. -/
def eventBase (binding : Binding) : Text :=
  Text.join "." (Text.segments '/' binding.endpoint.rosName)

/-- The event that calls a service. -/
def eventCall (binding : Binding) : Text := binding.eventBase ++ ".Call"

/-- The event that a response or message raises. -/
def eventReturn (binding : Binding) : Text :=
  binding.eventBase ++ if binding.isService then ".Return" else ".Sub"

/-- The method that calls a service. -/
def callMethod (binding : Binding) : Text := "call" ++ Naming.pascalCase binding.identifier

/-- The method that receives a response or message. -/
def callbackMethod (binding : Binding) : Text :=
  "on" ++ Naming.pascalCase binding.identifier ++
    if binding.isService then "Response" else "Message"

/-- What the response or message of a binding is called in the generated code. -/
def responseRoot (binding : Binding) : Text := rootOf binding.endpoint

/-- The generated names of a binding that have to differ from all others. -/
def names (binding : Binding) : List (NamePart × Text) :=
  [(.member, binding.memberName),
    if binding.isService then
      (.callMethod, binding.callMethod)
    else
      (.callbackMethod, binding.callbackMethod)]

end Binding

/-! ## Distinct names -/

/-- A generated name and the client that it is for. -/
structure EmittedName where
  part : NamePart
  name : Text
  clientName : Text
  deriving DecidableEq, Repr

/-- The generated names of bindings in order. -/
def emittedNames (bindings : List Binding) : List EmittedName :=
  bindings.flatMap fun binding =>
    binding.names.map fun (part, name) => ⟨part, name, binding.clientName⟩

/-- The first name that is taken already, and the client that it was taken for. -/
def collision? (taken : List EmittedName) : List EmittedName → Option Error
  | [] => none
  | new :: rest =>
      match taken.find? (·.name = new.name) with
      | some earlier =>
          some (.nameCollision new.part new.clientName earlier.clientName new.name)
      | none => collision? (new :: taken) rest

end Generation
end SkillNode
