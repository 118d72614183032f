import SkillNode.Proofs.Generation.ClassNames
import SkillNode.Proofs.Generation.PlainLayout

/-!
# Models without dollar signs

A model whose texts have no dollar sign has a blueprint that prints none. Names of
classes, members and methods have none in any case; what a model prints besides them are
texts of its own, cut at slashes and joined by points.
-/

namespace SkillNode

namespace Statechart

/-- No text of an endpoint has a dollar sign. -/
structure ResolvedEndpoint.IsPlain (resolved : ResolvedEndpoint) : Prop where
  rosName : '$' ∉ resolved.endpoint.rosName
  package : '$' ∉ resolved.endpoint.key.package
  typeName : '$' ∉ resolved.endpoint.key.typeName
  fields : ∀ field ∈ resolved.resolvedFields, '$' ∉ field.name ∧ '$' ∉ field.location
  requestFields : ∀ field ∈ resolved.requestFields, '$' ∉ field

/-- No text that a model hands to generation has a dollar sign. -/
structure Model.IsPlain (model : TypedModel) : Prop where
  name : '$' ∉ model.name
  source : '$' ∉ model.source
  datamodel : ∀ declared ∈ model.datamodel, '$' ∉ declared.id ∧ '$' ∉ declared.type
  endpoints : ∀ resolved ∈ model.endpoints, resolved.IsPlain

end Statechart

namespace Generation

open Statechart (TypedModel ResolvedEndpoint ResolvedField)

/-! ## Bindings -/

theorem dollar_notMem_access
    {field : ResolvedField}
    {root access : Text}
    (rootPlain : '$' ∉ root)
    (namePlain : '$' ∉ field.name)
    (isAccess : Cpp.access? field root = some access) :
    '$' ∉ access := by
  unfold Cpp.access? at isAccess
  dsimp only at isAccess
  split at isAccess
  case h_1 => cases isAccess
  all_goals
    obtain rfl := Option.some.inj isAccess
    repeat rw [String.toList_ofList]
    simp [rootPlain, namePlain]

theorem isPlain_of_mem_mapM
    {root : Text}
    {fields : List ResolvedField}
    {handed : List ResponseField}
    (rootPlain : '$' ∉ root)
    (isPlain : ∀ field ∈ fields, '$' ∉ field.name ∧ '$' ∉ field.location)
    (mapped : fields.mapM (ResponseField.ofResolved root) = .ok handed) :
    ∀ field ∈ handed, '$' ∉ field.name ∧ '$' ∉ field.access ∧ '$' ∉ field.location := by
  intro field member
  obtain ⟨resolved, resolvedMember, handsOver⟩ := exists_of_mem_mapM mapped member
  obtain ⟨namePlain, locationPlain⟩ := isPlain resolved resolvedMember
  unfold ResponseField.ofResolved at handsOver
  split at handsOver
  · next access isAccess =>
      cases handsOver
      exact ⟨namePlain, dollar_notMem_access rootPlain namePlain isAccess, locationPlain⟩
  · cases handsOver

/-- A binding is called after identifiers, which have no dollar sign. -/
theorem Binding.dollar_notMem_identifier (binding : Binding) : '$' ∉ binding.identifier := by
  unfold Binding.identifier
  split
  · exact Naming.dollar_notMem_identifier _
  · next first rest isIdentifier =>
      exact isIdentifier ▸ Naming.dollar_notMem_identifier binding.clientName

theorem Binding.dollar_notMem_pascalCase (binding : Binding) :
    '$' ∉ Naming.pascalCase binding.identifier :=
  fun member => binding.dollar_notMem_identifier (Naming.dollar_mem_of_pascalCase member)

theorem Binding.dollar_notMem_memberName (binding : Binding) : '$' ∉ binding.memberName := by
  unfold Binding.memberName
  split <;> (repeat rw [String.toList_ofList]) <;> simp [binding.dollar_notMem_identifier]

theorem Binding.dollar_notMem_callMethod (binding : Binding) : '$' ∉ binding.callMethod := by
  unfold Binding.callMethod
  repeat rw [String.toList_ofList]
  simp [binding.dollar_notMem_pascalCase]

theorem Binding.dollar_notMem_callbackMethod (binding : Binding) :
    '$' ∉ binding.callbackMethod := by
  unfold Binding.callbackMethod
  split <;> (repeat rw [String.toList_ofList]) <;> simp [binding.dollar_notMem_pascalCase]

theorem Binding.dollar_notMem_folder (binding : Binding) : '$' ∉ binding.folder := by
  unfold Binding.folder
  split <;> decide

section Endpoints

variable {binding : Binding} (isPlain : binding.resolved.IsPlain)
include isPlain

theorem Binding.dollar_notMem_typeToken : '$' ∉ binding.typeToken := by
  unfold Binding.typeToken
  repeat rw [String.toList_ofList]
  simp [binding.dollar_notMem_folder, Binding.endpoint, isPlain.package, isPlain.typeName]

theorem Binding.dollar_notMem_includePath : '$' ∉ binding.includePath := by
  have snakePlain : '$' ∉ binding.resolved.endpoint.typeSnake :=
    fun member => isPlain.typeName (Naming.dollar_mem_of_snakeCase member)
  unfold Binding.includePath
  repeat rw [String.toList_ofList]
  simp [binding.dollar_notMem_folder, Binding.endpoint, isPlain.package, snakePlain]

/-- The events of an endpoint are called after its service or topic, segment by segment. -/
theorem Binding.dollar_notMem_eventBase : '$' ∉ binding.eventBase := by
  intro member
  rcases Text.mem_of_mem_join member with isPoint | ⟨segment, isSegment, inSegment⟩
  · revert isPoint
    decide
  · exact isPlain.rosName (Text.mem_of_mem_segments isSegment inSegment)

theorem Binding.dollar_notMem_eventCall : '$' ∉ binding.eventCall := by
  unfold Binding.eventCall
  repeat rw [String.toList_ofList]
  simp [Binding.dollar_notMem_eventBase isPlain]

theorem Binding.dollar_notMem_eventReturn : '$' ∉ binding.eventReturn := by
  unfold Binding.eventReturn
  split <;> (repeat rw [String.toList_ofList]) <;> simp [Binding.dollar_notMem_eventBase isPlain]

theorem Binding.dollar_notMem_serviceName : '$' ∉ binding.endpoint.serviceName := by
  unfold Statechart.Endpoint.serviceName
  split
  · exact isPlain.rosName
  · simp

theorem Binding.dollar_notMem_topicName : '$' ∉ binding.endpoint.topicName := by
  unfold Statechart.Endpoint.topicName
  split
  · simp
  · exact isPlain.rosName

/-- Fields that are handed over have no dollar sign if those of the endpoint have none. -/
theorem Binding.dollar_notMem_responseFields
    (bound : Binding.ofResolved binding.resolved = .ok binding) :
    ∀ field ∈ binding.responseFields,
      '$' ∉ field.name ∧ '$' ∉ field.access ∧ '$' ∉ field.location := by
  have rootPlain : '$' ∉ rootOf binding.resolved.endpoint := by
    unfold rootOf
    split <;> decide
  have distinctPlain : ∀ field ∈ distinctFields binding.resolved.resolvedFields,
      '$' ∉ field.name ∧ '$' ∉ field.location :=
    fun field member => isPlain.fields field (mem_of_mem_distinctFields member)
  unfold Binding.ofResolved at bound
  split at bound
  · next fields mapped =>
      rw [← Except.ok.inj bound]
      exact isPlain_of_mem_mapM rootPlain distinctPlain mapped
  · cases bound

/-- The binding of an endpoint without dollar signs prints none. -/
theorem Binding.isPlain_of_ofResolved
    (bound : Binding.ofResolved binding.resolved = .ok binding) :
    binding.IsPlain where
  memberName := binding.dollar_notMem_memberName
  callMethod := binding.dollar_notMem_callMethod
  callbackMethod := binding.dollar_notMem_callbackMethod
  typeToken := Binding.dollar_notMem_typeToken isPlain
  includePath := Binding.dollar_notMem_includePath isPlain
  eventCall := Binding.dollar_notMem_eventCall isPlain
  eventReturn := Binding.dollar_notMem_eventReturn isPlain
  serviceName := Binding.dollar_notMem_serviceName isPlain
  topicName := Binding.dollar_notMem_topicName isPlain
  requestFields := isPlain.requestFields
  responseFields := Binding.dollar_notMem_responseFields isPlain bound

end Endpoints

/-! ## Blueprints -/

/-- An identifier has no dollar sign, so neither has the class of a skill. -/
theorem dollar_notMem_of_isCIdentifier {name : Text} (isName : Text.isCIdentifier name = true) :
    '$' ∉ name := fun member =>
  absurd (Text.isAsciiWord_of_isCIdentifier isName '$' member) (by decide)

theorem dollar_notMem_fileHeader
    {sourceName comment : Text}
    (sourcePlain : '$' ∉ sourceName)
    (commentPlain : '$' ∉ comment) :
    '$' ∉ fileHeader sourceName comment := by
  have linesPlain : ArePlain (fileHeaderLines sourceName) := by
    unfold fileHeaderLines generatorLine ArePlain
    repeat rw [String.toList_ofList]
    split <;> simp [sourcePlain]
  intro member
  rcases Text.mem_of_mem_join member with isFeed | ⟨piece, isPiece, inPiece⟩
  · revert isFeed
    decide
  · obtain ⟨line, isLine, rfl⟩ := List.mem_map.mp isPiece
    have inLine := Text.mem_of_mem_trimEnd inPiece
    repeat rw [String.toList_ofList] at inLine
    simp [commentPlain, linesPlain line isLine] at inLine

/-- The blueprint of a model without dollar signs prints none. -/
theorem Blueprint.isPlain_of_ofModel
    {options : Options}
    {model : TypedModel}
    {blueprint : Blueprint}
    (isPlain : model.IsPlain)
    (holds : options.fault? = none)
    (gathers : Blueprint.ofModel options model = .ok blueprint) :
    blueprint.IsPlain := by
  obtain ⟨className, derived, all, chosen, named, mapped, _, rfl⟩ :=
    Blueprint.ofModel_eq_ok_iff.mp gathers
  have classPlain := dollar_notMem_of_isCIdentifier (isCIdentifier_of_chooseClassName holds chosen)
  have derivedPlain := dollar_notMem_of_isCIdentifier (Naming.isCIdentifier_of_className? named)
  have bindingsPlain : ∀ binding ∈ gathered all, binding.IsPlain := by
    intro binding member
    obtain ⟨resolved, resolvedMember, bound⟩ :=
      exists_of_mem_mapM mapped (mem_of_mem_gathered member)
    obtain rfl := Binding.resolved_of_ofResolved bound
    exact Binding.isPlain_of_ofResolved (isPlain.endpoints _ resolvedMember) bound
  refine
    { className := classPlain, nodeName := ?_, headerGuard := ?_, fileHeader := ?_,
      skillName := isPlain.name, datamodel := isPlain.datamodel, includes := ?_,
      services := fun binding member => bindingsPlain binding (mem_of_mem_bindingsFor member),
      topics := fun binding member => bindingsPlain binding (mem_of_mem_bindingsFor member) }
  · exact fun member => derivedPlain (Naming.dollar_mem_of_snakeCase member)
  · have guardPlain : '$' ∉ Text.upper (Naming.identifier className) :=
      fun member => Naming.dollar_notMem_identifier className (Text.dollar_mem_of_upper member)
    unfold Blueprint.headerGuard blueprintOf
    repeat rw [String.toList_ofList]
    simp [guardPlain]
  · have commentPlain : '$' ∉ lineComment := by decide
    refine dollar_notMem_fileHeader (fun member => ?_) commentPlain
    exact isPlain.source (FileTree.Path.dollar_mem_of_name member)
  · intro path member
    rw [Blueprint.includes, Sorted.mem_ofList] at member
    obtain ⟨binding, isGathered, rfl⟩ := List.mem_map.mp member
    exact (bindingsPlain binding isGathered).includePath

end Generation
end SkillNode
