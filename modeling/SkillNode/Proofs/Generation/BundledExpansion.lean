import SkillNode.Generation.Sources
import SkillNode.Proofs.Generation.BundledNodes
import SkillNode.Proofs.Template.Expansion

/-!
# Expansion of the bundled templates

What the nodes of the bundled templates expand to in the context of a blueprint:
every loop to the lines that its items contribute, and the whole to the layout of the
file. An expansion fails only for a number among the settings that cannot be printed.
-/

namespace SkillNode
namespace Generation

open Template
open Statechart (Variable)

/-! ## Values of items -/

@[simp] theorem field?_bindingValue
    {part : Text}
    (notMethod : part ∉ Value.recordMethods)
    (binding : Binding) :
    (bindingValue binding).field? part =
      .ok (Value.entry? (endpointEntries binding.endpoint ++ bindingEntries binding) part) :=
  Value.field?_record notMethod _

@[simp] theorem field?_variableValue (declared : Variable) (part : Text) :
    (variableValue declared).field? part =
      .ok (Value.entry?
        [("id", .text declared.id), ("type", .text declared.type), ("expr", .text declared.expr),
          ("field_type", (declared.fieldType?.map fieldTypeValue).getD .null)] part) := by
  simp [variableValue]

@[simp] theorem field?_responseFieldValue
    {part : Text}
    (notMethod : part ∉ Value.recordMethods)
    (field : ResponseField) :
    (responseFieldValue field).field? part =
      .ok (Value.entry?
        [("name", .text field.name), ("datamodel_var", .text field.location),
          ("type", .text field.type.name), ("source", .text field.source.name),
          ("access", .text field.access)] part) :=
  Value.field?_record notMethod _

/-! ## Loops of the header -/

variable (blueprint : Blueprint)

theorem expand_includeNode :
    includeNode.expand false blueprint.context =
      .ok (Text.ofLines (blueprint.includes.map includeLine)) := by
  rw [Text.ofLines_map]
  unfold includeNode
  refine expand_plainLoop Value.text ?_ fun path _ state => ?_
  · simp [-String.reduceToList, Blueprint.context, textList]
  · unfold between printName includeLine
    simp [-String.reduceToList, Expr.line]

theorem expand_datamodelNode :
    datamodelNode.expand false blueprint.context =
      .ok (Text.ofLines (datamodelLines blueprint.model.datamodel)) := by
  have looped : datamodelNode.expand false blueprint.context =
      if blueprint.model.datamodel.isEmpty then
        expandAll false blueprint.context [.text (Text.ofLines [" *   (empty)"])]
      else
        .ok (blueprint.model.datamodel.flatMap fun declared =>
          Text.ofLines [variableLine declared]) := by
    unfold datamodelNode
    refine expand_loop variableValue ?_ fun declared _ state => ?_
    · simp [-String.reduceToList, Blueprint.context]
    · unfold between printPart variableLine
      simp [-String.reduceToList, Expr.line]
  rw [looped, datamodelLines]
  split
  · simp only [expandAll_cons, expand_text, expandAll_nil, ok_bind, ok_map, List.append_nil]
  · rw [Text.ofLines_map]

theorem expand_callDeclarationNode :
    callDeclarationNode.expand false blueprint.context =
      .ok (Text.ofLines (blueprint.services.map callDeclaration)) := by
  rw [Text.ofLines_map]
  unfold callDeclarationNode
  refine expand_plainLoop bindingValue ?_ fun binding _ state => ?_
  · simp [-String.reduceToList, Blueprint.context]
  · unfold between printPart callDeclaration
    simp [-String.reduceToList, Expr.line, endpointEntries, bindingEntries]

theorem expand_callbackDeclarationNode :
    callbackDeclarationNode.expand false blueprint.context =
      .ok (Text.ofLines (blueprint.topics.map callbackDeclaration)) := by
  rw [Text.ofLines_map]
  unfold callbackDeclarationNode
  refine expand_plainLoop bindingValue ?_ fun binding _ state => ?_
  · simp [-String.reduceToList, Blueprint.context]
  · unfold between printPart callbackDeclaration
    simp [-String.reduceToList, Expr.line, endpointEntries, bindingEntries]

/-- The members of a list of bindings begin as they are told to. -/
theorem expand_memberNode
    (line : Nat)
    (beginning : Text)
    {list : Text}
    {bindings : List Binding}
    (isList : Value.entry? blueprint.context list = some (.list (bindings.map bindingValue))) :
    (memberNode line list beginning).expand false blueprint.context =
      .ok (Text.ofLines (bindings.map fun binding =>
        beginning ++ binding.typeToken ++ ">::SharedPtr " ++ binding.memberName ++ ";")) := by
  rw [Text.ofLines_map]
  unfold memberNode
  refine expand_plainLoop bindingValue ?_ fun binding _ state => ?_
  · simp [-String.reduceToList, isList]
  · unfold between printPart
    simp [-String.reduceToList, Expr.line, endpointEntries, bindingEntries]

/-- The header template expands to the layout of a header if the settings can be printed. -/
theorem expandAll_headerNodes :
    expandAll false blueprint.context headerNodes =
      if blueprint.options.isPrintable then .ok (headerText blueprint) else .error .longNumber := by
  have clients : (memberNode 74 "services" "    rclcpp::Client<").expand false blueprint.context =
      .ok (Text.ofLines (blueprint.services.map clientMember)) :=
    expand_memberNode blueprint _ _ (by simp [-String.reduceToList, Blueprint.context])
  have subscriptions :
      (memberNode 77 "topics" "    rclcpp::Subscription<").expand false blueprint.context =
        .ok (Text.ofLines (blueprint.topics.map subscriptionMember)) :=
    expand_memberNode blueprint _ _ (by simp [-String.reduceToList, Blueprint.context])
  unfold headerNodes headerText headerLines between printName
  simp only [expandAll_cons, expandAll_nil, expand_includeNode, expand_datamodelNode,
    expand_callDeclarationNode, expand_callbackDeclarationNode, clients, subscriptions]
  unfold Blueprint.context Options.isPrintable
  simp [-String.reduceToList, Expr.line, Value.print_int]
  cases Text.isPrintable blueprint.options.serviceWaitTimeoutMs <;>
    cases Text.isPrintable blueprint.options.serviceMaxRetries <;>
    cases Text.isPrintable blueprint.options.subscriptionQueueSize <;>
    simp only [and_true, and_false, Bool.false_eq_true, if_true, if_false, ok_bind, ok_map,
      error_bind, error_map]

/-! ## Loops of the source -/

theorem expand_clientNode :
    clientNode.expand false blueprint.context =
      .ok (Text.ofLines (blueprint.services.flatMap clientLines)) := by
  rw [Text.ofLines_flatMap]
  unfold clientNode
  refine expand_plainLoop bindingValue ?_ fun binding _ state => ?_
  · simp [-String.reduceToList, Blueprint.context]
  · unfold between printPart printEscaped clientLines
    simp [-String.reduceToList, Expr.line, endpointEntries, bindingEntries]

theorem expand_subscriptionNode :
    subscriptionNode.expand false blueprint.context =
      .ok (Text.ofLines (blueprint.topics.flatMap (subscriptionLines blueprint.className))) := by
  rw [Text.ofLines_flatMap]
  unfold subscriptionNode
  refine expand_plainLoop bindingValue ?_ fun binding _ state => ?_
  · simp [-String.reduceToList, Blueprint.context]
  · unfold between printName printPart printEscaped subscriptionLines
    simp [-String.reduceToList, Expr.line, loopName, Blueprint.context, endpointEntries,
      bindingEntries]

theorem expand_connectNode :
    connectNode.expand false blueprint.context =
      .ok (Text.ofLines (blueprint.services.flatMap connectLines)) := by
  rw [Text.ofLines_flatMap]
  unfold connectNode
  refine expand_plainLoop bindingValue ?_ fun binding _ state => ?_
  · simp [-String.reduceToList, Blueprint.context]
  · unfold between printPart printEscaped connectLines
    simp [-String.reduceToList, Expr.line, endpointEntries, bindingEntries]

section Handlers

variable (binding : Binding) (scope : Scope)

theorem expand_paramNode :
    paramNode.expand false (("eventData", bindingValue binding) :: scope) =
      .ok (Text.ofLines (binding.resolved.requestFields.flatMap paramLines)) := by
  rw [Text.ofLines_flatMap]
  unfold paramNode
  refine expand_plainLoop Value.text ?_ fun field _ state => ?_
  · simp [-String.reduceToList, endpointEntries, bindingEntries, textList]
  · unfold between printName paramLines
    simp [-String.reduceToList, Expr.line]

theorem expand_requestNode :
    requestNode.expand false (("eventData", bindingValue binding) :: scope) =
      .ok (Text.ofLines (requestLines binding.resolved.requestFields)) := by
  have fields : (Expr.field 67 (.name 67 "eventData") "request_fields").valueOn 67
      (("eventData", bindingValue binding) :: scope) =
        .ok (textList binding.resolved.requestFields) := by
    simp [-String.reduceToList, endpointEntries, bindingEntries]
  unfold requestNode requestLines
  rw [expand_branch fields]
  cases isEmpty : binding.resolved.requestFields.isEmpty with
  | true => simp [textList, Value.truth, isEmpty]
  | false =>
      simp [-String.reduceToList, textList, Value.truth, isEmpty, expand_paramNode]

theorem expand_insertNode (line : Nat) (indent : Text) :
    (insertNode line indent).expand false (("eventData", bindingValue binding) :: scope) =
      .ok (Text.ofLines (binding.responseFields.map (insertLine indent))) := by
  rw [Text.ofLines_map]
  unfold insertNode
  refine expand_plainLoop responseFieldValue ?_ fun field _ state => ?_
  · simp [-String.reduceToList, endpointEntries, bindingEntries]
  · unfold between printPart insertLine
    simp [-String.reduceToList, Expr.line]

theorem expand_submitNode
    (testLine loopLine dataLine bareLine : Nat)
    (indent : Text)
    (taking ignoring : List Text) :
    (submitNode testLine loopLine dataLine bareLine indent taking ignoring).expand false
        (("eventData", bindingValue binding) :: scope) =
      .ok (Text.ofLines (submitLines indent taking ignoring binding)) := by
  have fields : (Expr.field testLine (.name testLine "eventData") "response_fields").valueOn
      testLine (("eventData", bindingValue binding) :: scope) =
        .ok (.list (binding.responseFields.map responseFieldValue)) := by
    simp [-String.reduceToList, endpointEntries, bindingEntries]
  unfold submitNode submitLines
  rw [expand_branch fields]
  unfold between printEscaped
  cases isEmpty : binding.responseFields.isEmpty with
  | true =>
      simp [-String.reduceToList, Value.truth, isEmpty, Expr.line, endpointEntries, bindingEntries]
  | false =>
      simp [-String.reduceToList, Value.truth, isEmpty, expand_insertNode, Expr.line,
        endpointEntries, bindingEntries]

end Handlers

theorem expand_callNode :
    callNode.expand false blueprint.context =
      .ok (Text.ofLines (blueprint.services.flatMap (callLines blueprint.className))) := by
  rw [Text.ofLines_flatMap]
  unfold callNode
  refine expand_plainLoop bindingValue ?_ fun binding _ state => ?_
  · simp [-String.reduceToList, Blueprint.context]
  · unfold between printName printPart callLines
    simp only [expandAll_cons, expandAll_nil, expand_requestNode, expand_submitNode]
    simp [-String.reduceToList, Expr.line, loopName, Blueprint.context, endpointEntries,
      bindingEntries]

theorem expand_callbackNode :
    callbackNode.expand false blueprint.context =
      .ok (Text.ofLines (blueprint.topics.flatMap (callbackLines blueprint.className))) := by
  rw [Text.ofLines_flatMap]
  unfold callbackNode
  refine expand_plainLoop bindingValue ?_ fun binding _ state => ?_
  · simp [-String.reduceToList, Blueprint.context]
  · unfold between printName printPart callbackLines
    simp only [expandAll_cons, expandAll_nil, expand_submitNode]
    simp [-String.reduceToList, Expr.line, loopName, Blueprint.context, endpointEntries,
      bindingEntries]

/-- The source template expands to the layout of a source. -/
theorem expandAll_sourceNodes :
    expandAll false blueprint.context sourceNodes = .ok (sourceText blueprint) := by
  unfold sourceNodes sourceText sourceLines startLines between printName
  simp only [expandAll_cons, expandAll_nil, expand_clientNode, expand_subscriptionNode,
    expand_connectNode, expand_callNode, expand_callbackNode]
  unfold Blueprint.context
  simp [-String.reduceToList, Expr.line]

end Generation
end SkillNode
