import SkillNode.Generation.Blueprint

/-!
# Placeholders of skill templates

The names that a skill template may use and the values they stand for: those of
the blueprint, and for every endpoint a record of its own.
-/

namespace SkillNode
namespace Generation

open Statechart (Endpoint ResolvedField Variable)
open Template (Value)

/-- A list of texts as a value. -/
def textList (texts : List Text) : Value := .list (texts.map .text)

/-- A member of an enumeration, which is called by its value in capitals. -/
def enumeration (typeName value : Text) (derived : List (Text × Value)) : Value :=
  .symbol typeName (Text.upper value) value derived

/-- A field type as a value. -/
def fieldTypeValue (type : Interface.FieldType) : Value :=
  enumeration "FieldType" type.name [("is_string", .bool type.isString)]

/-- A kind of interface as a value. -/
def kindValue (kind : Interface.Kind) : Value :=
  enumeration "InterfaceKind" kind.name
    [("message_kind", enumeration "MessageKind" kind.delivered.name [])]

/-- A datamodel variable as a value. -/
def variableValue (declared : Variable) : Value :=
  .object "DatamodelVariable"
    [("id", .text declared.id), ("type", .text declared.type), ("expr", .text declared.expr)]
    [("field_type", (declared.fieldType?.map fieldTypeValue).getD .null)]

/-- An assigned field as a value. -/
def resolvedFieldValue (field : ResolvedField) : Value :=
  .object "ResolvedField"
    [("name", .text field.name), ("datamodel_var", .text field.location),
      ("field_type", fieldTypeValue field.type),
      ("source", enumeration "TypeSource" field.source.name [])]
    []

/-- A field of a response as a value. -/
def responseFieldValue (field : ResponseField) : Value :=
  .record
    [("name", .text field.name), ("datamodel_var", .text field.location),
      ("type", .text field.type.name), ("source", .text field.source.name),
      ("access", .text field.access)]

/-- The names about an endpoint as it is declared and handled. -/
def endpointEntries (endpoint : Endpoint) : List (Text × Value) :=
  [("node_name", .text endpoint.nodeName), ("client_name", .text endpoint.clientName),
    ("interface_kind", kindValue endpoint.kind),
    ("interface_name", .text endpoint.key.package),
    ("function_name", .text endpoint.functionName),
    ("service_type_name", .text endpoint.key.typeName),
    ("service_type_snake", .text endpoint.typeSnake),
    ("server_name", .text endpoint.serverName), ("service_name", .text endpoint.serviceName),
    ("topic_name", .text endpoint.topicName),
    ("response_field_map",
      .view (endpoint.assignments.map fun assignment =>
        (assignment.field, .text assignment.location))),
    ("interface_fields", .tuple (endpoint.assignedFields.map .text)),
    ("handler_targets", .tuple (endpoint.handlerTargets.map .text)),
    ("is_invoked", .bool endpoint.isInvoked)]

/-- The names about a binding. -/
def bindingEntries (binding : Binding) : List (Text × Value) :=
  [("resolved_fields", .tuple (binding.resolved.resolvedFields.map resolvedFieldValue)),
    ("request_fields", textList binding.resolved.requestFields),
    ("is_service", .bool binding.isService), ("kind", .text binding.endpoint.kind.name),
    ("interface_id", .text binding.endpoint.interfaceId),
    ("ros_name", .text binding.endpoint.rosName), ("identifier", .text binding.identifier),
    ("member_name", .text binding.memberName), ("type_token", .text binding.typeToken),
    ("include_path", .text binding.includePath), ("event_call", .text binding.eventCall),
    ("event_return", .text binding.eventReturn), ("call_method", .text binding.callMethod),
    ("callback_method", .text binding.callbackMethod),
    ("response_root", .text binding.responseRoot),
    ("response_fields", .list (binding.responseFields.map responseFieldValue))]

/-- A binding as a value. -/
def bindingValue (binding : Binding) : Value :=
  .record (endpointEntries binding.endpoint ++ bindingEntries binding)

/-- The names that the templates may use. -/
def Blueprint.context (blueprint : Blueprint) : Template.Context :=
  [("skill_name", .text blueprint.model.name), ("class_name", .text blueprint.className),
    ("node_name", .text blueprint.nodeName), ("header_file", .text blueprint.headerFile),
    ("source_file", .text blueprint.sourceFile),
    ("state_machine_header", .text blueprint.stateMachineHeader),
    ("header_guard", .text blueprint.headerGuard),
    ("generated_header", .text blueprint.fileHeader),
    ("service_wait_timeout_ms", .int blueprint.options.serviceWaitTimeoutMs),
    ("service_max_retries", .int blueprint.options.serviceMaxRetries),
    ("subscription_queue_size", .int blueprint.options.subscriptionQueueSize),
    ("initial_state", .text blueprint.model.initial),
    ("datamodel", .list (blueprint.model.datamodel.map variableValue)),
    ("interface_includes", textList blueprint.includes),
    ("events", .list (blueprint.bindings.map bindingValue)),
    ("services", .list (blueprint.services.map bindingValue)),
    ("topics", .list (blueprint.topics.map bindingValue)),
    ("has_services", .bool !blueprint.services.isEmpty),
    ("has_topics", .bool !blueprint.topics.isEmpty)]

end Generation
end SkillNode
