import SkillNode.Proofs.Generation.Gathering
import SkillNode.Proofs.Generation.Layout
import SkillNode.Proofs.Text.DollarSigns

/-!
# Layouts without dollar signs

The fixed text of the generated files has no dollar sign, so that one can only come from
what a blueprint prints between. What it prints comes from the texts of its model: a
model without dollar signs has files without them.
-/

namespace SkillNode
namespace Generation

open Statechart (TypedModel ResolvedEndpoint ResolvedField Variable)

/-! ## What is printed -/

/-- A binding prints no dollar sign. -/
structure Binding.IsPlain (binding : Binding) : Prop where
  memberName : '$' ∉ binding.memberName
  callMethod : '$' ∉ binding.callMethod
  callbackMethod : '$' ∉ binding.callbackMethod
  typeToken : '$' ∉ binding.typeToken
  includePath : '$' ∉ binding.includePath
  eventCall : '$' ∉ binding.eventCall
  eventReturn : '$' ∉ binding.eventReturn
  serviceName : '$' ∉ binding.endpoint.serviceName
  topicName : '$' ∉ binding.endpoint.topicName
  requestFields : ∀ field ∈ binding.resolved.requestFields, '$' ∉ field
  responseFields : ∀ field ∈ binding.responseFields,
    '$' ∉ field.name ∧ '$' ∉ field.access ∧ '$' ∉ field.location

/-- A blueprint prints no dollar sign. -/
structure Blueprint.IsPlain (blueprint : Blueprint) : Prop where
  className : '$' ∉ blueprint.className
  nodeName : '$' ∉ blueprint.nodeName
  headerGuard : '$' ∉ blueprint.headerGuard
  fileHeader : '$' ∉ blueprint.fileHeader
  skillName : '$' ∉ blueprint.model.name
  datamodel : ∀ declared ∈ blueprint.model.datamodel, '$' ∉ declared.id ∧ '$' ∉ declared.type
  includes : ∀ path ∈ blueprint.includes, '$' ∉ path
  services : ∀ binding ∈ blueprint.services, binding.IsPlain
  topics : ∀ binding ∈ blueprint.topics, binding.IsPlain

/-! ## Layouts -/

/-- No line has a dollar sign. -/
def ArePlain (lines : List Text) : Prop := ∀ line ∈ lines, '$' ∉ line

theorem dollar_notMem_ofLines {lines : List Text} (arePlain : ArePlain lines) :
    '$' ∉ Text.ofLines lines := by
  intro member
  obtain ⟨line, isLine, inLine⟩ := List.mem_flatMap.mp member
  rcases List.mem_append.mp inLine with inText | isFeed
  · exact arePlain line isLine inText
  · revert isFeed
    decide

theorem arePlain_append {first second : List Text} :
    ArePlain (first ++ second) ↔ ArePlain first ∧ ArePlain second := by
  simp [ArePlain, or_imp, forall_and]

theorem arePlain_map
    {Item : Type}
    {lineOf : Item → Text}
    {items : List Item}
    (each : ∀ item ∈ items, '$' ∉ lineOf item) :
    ArePlain (items.map lineOf) := by
  intro line isLine
  obtain ⟨item, member, rfl⟩ := List.mem_map.mp isLine
  exact each item member

theorem arePlain_flatMap
    {Item : Type}
    {linesOf : Item → List Text}
    {items : List Item}
    (each : ∀ item ∈ items, ArePlain (linesOf item)) :
    ArePlain (items.flatMap linesOf) := by
  intro line isLine
  obtain ⟨item, member, inItem⟩ := List.mem_flatMap.mp isLine
  exact each item member line inItem

theorem fixedLines_arePlain :
    ArePlain (libraryIncludes ++ startupStates ++ fixedMethods ++ convertBody ++ waitBody ++
      sourceIncludes ++ constructorBody ++ startBeginning ++ spinBody ++ failBeginning) := by
  unfold libraryIncludes startupStates fixedMethods convertBody waitBody sourceIncludes
    constructorBody startBeginning spinBody failBeginning ArePlain
  repeat rw [String.toList_ofList]
  decide +kernel

theorem indents_arePlain :
    ArePlain [responseIndent, responseTaking, responseIgnoring, messageIndent] := by
  unfold responseIndent responseTaking responseIgnoring messageIndent ArePlain
  repeat rw [String.toList_ofList]
  decide +kernel

/-! ## Lines of a header -/

theorem includeLine_isPlain {path : Text} (isPlain : '$' ∉ path) : '$' ∉ includeLine path := by
  unfold includeLine
  repeat rw [String.toList_ofList]
  simp [isPlain]

theorem datamodelLines_arePlain
    {datamodel : List Variable}
    (arePlain : ∀ declared ∈ datamodel, '$' ∉ declared.id ∧ '$' ∉ declared.type) :
    ArePlain (datamodelLines datamodel) := by
  unfold datamodelLines
  split
  · unfold ArePlain
    repeat rw [String.toList_ofList]
    simp
  · refine arePlain_map fun declared member => ?_
    obtain ⟨idPlain, typePlain⟩ := arePlain declared member
    unfold variableLine
    repeat rw [String.toList_ofList]
    simp [idPlain, typePlain]

section Bindings

variable {binding : Binding} (isPlain : binding.IsPlain)
include isPlain

theorem callDeclaration_isPlain : '$' ∉ callDeclaration binding := by
  unfold callDeclaration
  repeat rw [String.toList_ofList]
  simp [isPlain.callMethod]

theorem callbackDeclaration_isPlain : '$' ∉ callbackDeclaration binding := by
  unfold callbackDeclaration
  repeat rw [String.toList_ofList]
  simp [isPlain.callbackMethod, isPlain.typeToken]

theorem clientMember_isPlain : '$' ∉ clientMember binding := by
  unfold clientMember
  repeat rw [String.toList_ofList]
  simp [isPlain.memberName, isPlain.typeToken]

theorem subscriptionMember_isPlain : '$' ∉ subscriptionMember binding := by
  unfold subscriptionMember
  repeat rw [String.toList_ofList]
  simp [isPlain.memberName, isPlain.typeToken]

/-! ## Lines of a source -/

theorem clientLines_arePlain : ArePlain (clientLines binding) := by
  have escaped : '$' ∉ Cpp.escape binding.endpoint.serviceName :=
    fun member => isPlain.serviceName (Cpp.dollar_mem_of_escape member)
  unfold clientLines
  repeat rw [String.toList_ofList]
  simp [ArePlain, isPlain.memberName, isPlain.typeToken, escaped]

theorem subscriptionLines_arePlain
    {className : Text}
    (classPlain : '$' ∉ className) :
    ArePlain (subscriptionLines className binding) := by
  have escaped : '$' ∉ Cpp.escape binding.endpoint.topicName :=
    fun member => isPlain.topicName (Cpp.dollar_mem_of_escape member)
  unfold subscriptionLines
  repeat rw [String.toList_ofList]
  simp [ArePlain, isPlain.memberName, isPlain.typeToken, isPlain.callbackMethod, escaped,
    classPlain]

theorem connectLines_arePlain : ArePlain (connectLines binding) := by
  have escaped : '$' ∉ Cpp.escape binding.eventCall :=
    fun member => isPlain.eventCall (Cpp.dollar_mem_of_escape member)
  unfold connectLines
  repeat rw [String.toList_ofList]
  simp [ArePlain, isPlain.callMethod, escaped]

theorem requestLines_arePlain : ArePlain (requestLines binding.resolved.requestFields) := by
  unfold requestLines
  split
  · simp [ArePlain]
  · rw [← List.singleton_append, arePlain_append]
    constructor
    · unfold ArePlain
      repeat rw [String.toList_ofList]
      simp
    · refine arePlain_flatMap fun field member => ?_
      unfold paramLines
      repeat rw [String.toList_ofList]
      simp [ArePlain, isPlain.requestFields field member]

theorem insertLine_isPlain
    {indent : Text}
    (indentPlain : '$' ∉ indent)
    {field : ResponseField}
    (member : field ∈ binding.responseFields) :
    '$' ∉ insertLine indent field := by
  obtain ⟨namePlain, accessPlain, locationPlain⟩ := isPlain.responseFields field member
  unfold insertLine
  repeat rw [String.toList_ofList]
  simp [indentPlain, namePlain, accessPlain, locationPlain]

theorem submitLines_arePlain
    {indent : Text}
    {taking ignoring : List Text}
    (indentPlain : '$' ∉ indent)
    (takingPlain : ArePlain taking)
    (ignoringPlain : ArePlain ignoring) :
    ArePlain (submitLines indent taking ignoring binding) := by
  have escaped : '$' ∉ Cpp.escape binding.eventReturn :=
    fun member => isPlain.eventReturn (Cpp.dollar_mem_of_escape member)
  have inserts : ArePlain (binding.responseFields.map (insertLine indent)) :=
    arePlain_map fun _ member => insertLine_isPlain isPlain indentPlain member
  unfold submitLines
  repeat rw [String.toList_ofList]
  split
  · simp only [arePlain_append, ignoringPlain, true_and]
    simp [ArePlain, indentPlain, escaped]
  · simp only [arePlain_append, takingPlain, inserts, true_and]
    simp [ArePlain, indentPlain, escaped]

theorem callLines_arePlain
    {className : Text}
    (classPlain : '$' ∉ className) :
    ArePlain (callLines className binding) := by
  have submits : ArePlain
      (submitLines responseIndent [responseTaking] [responseIgnoring] binding) := by
    refine submitLines_arePlain isPlain (indents_arePlain _ (by simp)) ?_ ?_ <;>
      exact fun line isLine => indents_arePlain line (by simp_all)
  unfold callLines
  repeat rw [String.toList_ofList]
  simp only [List.flatten_cons, List.flatten_nil, arePlain_append, submits,
    requestLines_arePlain isPlain, true_and]
  simp [ArePlain, classPlain, isPlain.callMethod, isPlain.typeToken, isPlain.memberName]

theorem callbackLines_arePlain
    {className : Text}
    (classPlain : '$' ∉ className) :
    ArePlain (callbackLines className binding) := by
  have submits : ArePlain (submitLines messageIndent [] [] binding) :=
    submitLines_arePlain isPlain (indents_arePlain _ (by simp)) (by simp [ArePlain])
      (by simp [ArePlain])
  unfold callbackLines
  repeat rw [String.toList_ofList]
  simp only [List.flatten_cons, List.flatten_nil, arePlain_append, submits, true_and]
  simp [ArePlain, classPlain, isPlain.callbackMethod, isPlain.typeToken]

end Bindings

/-! ## Files -/

section Files

variable {blueprint : Blueprint} (isPlain : blueprint.IsPlain)
include isPlain

theorem dollar_notMem_headerText : '$' ∉ headerText blueprint := by
  have fixed := fixedLines_arePlain
  simp only [arePlain_append] at fixed
  have escaped : '$' ∉ Cpp.escape blueprint.model.name :=
    fun member => isPlain.skillName (Cpp.dollar_mem_of_escape member)
  have includes : ArePlain (blueprint.includes.map includeLine) :=
    arePlain_map fun path member => includeLine_isPlain (isPlain.includes path member)
  have calls : ArePlain (blueprint.services.map callDeclaration) :=
    arePlain_map fun _ member => callDeclaration_isPlain (isPlain.services _ member)
  have callbacks : ArePlain (blueprint.topics.map callbackDeclaration) :=
    arePlain_map fun _ member => callbackDeclaration_isPlain (isPlain.topics _ member)
  have clients : ArePlain (blueprint.services.map clientMember) :=
    arePlain_map fun _ member => clientMember_isPlain (isPlain.services _ member)
  have subscriptions : ArePlain (blueprint.topics.map subscriptionMember) :=
    arePlain_map fun _ member => subscriptionMember_isPlain (isPlain.topics _ member)
  refine dollar_notMem_ofLines ?_
  unfold headerLines Blueprint.stateMachineHeader
  repeat rw [String.toList_ofList]
  simp only [List.flatten_cons, List.flatten_nil, arePlain_append, fixed, includes, calls,
    callbacks, clients, subscriptions, datamodelLines_arePlain isPlain.datamodel, true_and]
  simp [ArePlain, isPlain.className, isPlain.nodeName, isPlain.headerGuard, isPlain.fileHeader,
    Text.dollar_notMem_ofInt, escaped]

theorem dollar_notMem_sourceText : '$' ∉ sourceText blueprint := by
  have fixed := fixedLines_arePlain
  simp only [arePlain_append] at fixed
  have clients : ArePlain (blueprint.services.flatMap clientLines) :=
    arePlain_flatMap fun _ member => clientLines_arePlain (isPlain.services _ member)
  have subscriptions :
      ArePlain (blueprint.topics.flatMap (subscriptionLines blueprint.className)) :=
    arePlain_flatMap fun _ member =>
      subscriptionLines_arePlain (isPlain.topics _ member) isPlain.className
  have connects : ArePlain (blueprint.services.flatMap connectLines) :=
    arePlain_flatMap fun _ member => connectLines_arePlain (isPlain.services _ member)
  have calls : ArePlain (blueprint.services.flatMap (callLines blueprint.className)) :=
    arePlain_flatMap fun _ member =>
      callLines_arePlain (isPlain.services _ member) isPlain.className
  have callbacks : ArePlain (blueprint.topics.flatMap (callbackLines blueprint.className)) :=
    arePlain_flatMap fun _ member =>
      callbackLines_arePlain (isPlain.topics _ member) isPlain.className
  refine dollar_notMem_ofLines ?_
  unfold sourceLines startLines Blueprint.headerFile
  repeat rw [String.toList_ofList]
  simp only [List.flatten_cons, List.flatten_nil, arePlain_append, fixed, clients, subscriptions,
    connects, calls, callbacks, true_and]
  simp [ArePlain, isPlain.className, isPlain.fileHeader]

end Files

end Generation
end SkillNode
