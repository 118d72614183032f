import SkillNode.Proofs.Cpp.Literals
import SkillNode.Proofs.Generation.FileNames
import SkillNode.Proofs.Generation.Outcomes

/-!
# Names in string literals

The generated source writes the names of services, topics and events as string literals: where a
client is created and waited for, where a topic is subscribed to, and where an event is connected
or raised.

The main statement says that each of these literals, read by the rules of C++, is the name that
the model has.
-/

namespace SkillNode
namespace Generation

open Statechart (TypedModel)

/-- A name that is written as a string literal: what comes before the literal on its line, the
name, and what follows on the line. -/
structure NameLiteral where
  lead : Text
  name : Text
  tail : Text
  deriving DecidableEq

namespace NameLiteral

/-- The line that a literal stands on. -/
def line (literal : NameLiteral) : Text :=
  literal.lead ++ '"' :: (Cpp.escape literal.name ++ '"' :: literal.tail)

/-- A literal stands on a line of a text, and what is read of it is the name. -/
def IsReadIn (literal : NameLiteral) (text : Text) : Prop :=
  ∃ linesBefore written after, text = Text.ofLines linesBefore ++ literal.lead ++ '"' :: written ∧
    Cpp.readLiteral? written = some (literal.name, literal.tail ++ '\n' :: after)

/-- A literal whose line is one of those of a text is read in it. -/
theorem isReadIn_ofLines
    {literal : NameLiteral}
    {lines : List Text}
    (member : literal.line ∈ lines) :
    literal.IsReadIn (Text.ofLines lines) := by
  obtain ⟨linesBefore, linesAfter, rfl⟩ := List.append_of_mem member
  refine ⟨linesBefore, Cpp.escape literal.name ++ '"' :: (literal.tail ++ '\n' ::
    Text.ofLines linesAfter), Text.ofLines linesAfter, ?_, Cpp.readLiteral?_escape _ _⟩
  simp [line]

end NameLiteral

/-! ## Literals of a source -/

/-- The literal of the event that a response or message raises. -/
def eventLiteral (indent : Text) (binding : Binding) : NameLiteral where
  lead := indent ++ "m_stateMachine.submitEvent("
  name := binding.eventReturn
  tail := if binding.responseFields.isEmpty then ");" else ", data);"

/-- The literals for a service: its name where the client is created, where it is waited for and
where the startup fails, the event that calls it, and the event of its response. -/
def serviceLiterals (binding : Binding) : List NameLiteral :=
  [⟨"    " ++ binding.memberName ++ " = m_node->create_client<" ++ binding.typeToken ++ ">(",
      binding.endpoint.serviceName, ");"⟩,
    ⟨"    if (!waitForService(" ++ binding.memberName ++ ", ",
      binding.endpoint.serviceName, ")) \x7b"⟩,
    ⟨"        failStartup(", binding.endpoint.serviceName, ");"⟩,
    ⟨"    m_stateMachine.connectToEvent(", binding.eventCall,
      ", [this](const QScxmlEvent & event) \x7b"⟩,
    eventLiteral responseIndent binding]

/-- The literals for a topic: its name where it is subscribed to, and the event of its message. -/
def topicLiterals (binding : Binding) : List NameLiteral :=
  [⟨"        ", binding.endpoint.topicName, ", kSubscriptionQueueSize,"⟩,
    eventLiteral messageIndent binding]

/-- The literals that a source writes names in. -/
def nameLiterals (blueprint : Blueprint) : List NameLiteral :=
  blueprint.services.flatMap serviceLiterals ++ blueprint.topics.flatMap topicLiterals

theorem line_eventLiteral
    (indent : Text)
    (taking ignoring : List Text)
    (binding : Binding) :
    (eventLiteral indent binding).line ∈ submitLines indent taking ignoring binding := by
  unfold eventLiteral submitLines NameLiteral.line
  repeat rw [String.toList_ofList]
  split <;> simp

/-- The literals for a service stand where its client is acquired, where its event is connected,
and in the method that calls it. -/
theorem line_serviceLiterals
    (className : Text)
    {binding : Binding}
    {literal : NameLiteral}
    (member : literal ∈ serviceLiterals binding) :
    literal.line ∈ clientLines binding ++ connectLines binding ++ callLines className binding := by
  simp only [serviceLiterals, List.mem_cons, List.not_mem_nil, or_false] at member
  rw [List.mem_append, List.mem_append]
  rcases member with rfl | rfl | rfl | rfl | rfl
  · refine .inl (.inl ?_)
    unfold NameLiteral.line clientLines
    repeat rw [String.toList_ofList]
    simp
  · refine .inl (.inl ?_)
    unfold NameLiteral.line clientLines
    repeat rw [String.toList_ofList]
    simp
  · refine .inl (.inl ?_)
    unfold NameLiteral.line clientLines
    repeat rw [String.toList_ofList]
    simp
  · refine .inl (.inr ?_)
    unfold NameLiteral.line connectLines
    repeat rw [String.toList_ofList]
    simp
  · refine .inr ?_
    have raised := line_eventLiteral responseIndent [responseTaking] [responseIgnoring] binding
    unfold callLines
    simp only [List.flatten_cons, List.mem_append]
    exact .inr (.inr (.inr (.inl raised)))

/-- The literals for a topic stand where it is subscribed to and in the method that receives its
messages. -/
theorem line_topicLiterals
    (className : Text)
    {binding : Binding}
    {literal : NameLiteral}
    (member : literal ∈ topicLiterals binding) :
    literal.line ∈ subscriptionLines className binding ++ callbackLines className binding := by
  simp only [topicLiterals, List.mem_cons, List.not_mem_nil, or_false] at member
  rw [List.mem_append]
  rcases member with rfl | rfl
  · refine .inl ?_
    unfold NameLiteral.line subscriptionLines
    repeat rw [String.toList_ofList]
    simp
  · refine .inr ?_
    have raised := line_eventLiteral messageIndent [] [] binding
    unfold callbackLines
    simp only [List.flatten_cons, List.mem_append]
    exact .inr (.inl raised)

/-! ## Lines of a source -/

section Lines

variable {blueprint : Blueprint} {line : Text}

theorem mem_sourceLines_of_start (member : line ∈ startLines blueprint) :
    line ∈ sourceLines blueprint :=
  List.mem_flatten.mpr ⟨_, by simp only [List.mem_cons, true_or, or_true], member⟩

/-- Every line that is laid out for a service is a line of the source. -/
theorem mem_sourceLines_of_service
    {binding : Binding}
    (isService : binding ∈ blueprint.services)
    (member : line ∈ clientLines binding ++ connectLines binding ++
      callLines blueprint.className binding) :
    line ∈ sourceLines blueprint := by
  rw [List.mem_append, List.mem_append] at member
  rcases member with (ofClient | ofEvent) | ofCall
  · refine mem_sourceLines_of_start (List.mem_flatten.mpr
      ⟨blueprint.services.flatMap clientLines, ?_, ?_⟩)
    · simp only [List.mem_cons, true_or, or_true]
    · exact List.mem_flatMap.mpr ⟨binding, isService, ofClient⟩
  · refine mem_sourceLines_of_start (List.mem_flatten.mpr
      ⟨blueprint.services.flatMap connectLines, ?_, ?_⟩)
    · simp only [List.mem_cons, true_or, or_true]
    · exact List.mem_flatMap.mpr ⟨binding, isService, ofEvent⟩
  · refine List.mem_flatten.mpr
      ⟨blueprint.services.flatMap (callLines blueprint.className), ?_, ?_⟩
    · simp only [List.mem_cons, true_or, or_true]
    · exact List.mem_flatMap.mpr ⟨binding, isService, ofCall⟩

/-- Every line that is laid out for a topic is a line of the source. -/
theorem mem_sourceLines_of_topic
    {binding : Binding}
    (isTopic : binding ∈ blueprint.topics)
    (member : line ∈ subscriptionLines blueprint.className binding ++
      callbackLines blueprint.className binding) :
    line ∈ sourceLines blueprint := by
  rw [List.mem_append] at member
  rcases member with ofSubscription | ofCallback
  · refine mem_sourceLines_of_start (List.mem_flatten.mpr
      ⟨blueprint.topics.flatMap (subscriptionLines blueprint.className), ?_, ?_⟩)
    · simp only [List.mem_cons, true_or, or_true]
    · exact List.mem_flatMap.mpr ⟨binding, isTopic, ofSubscription⟩
  · refine List.mem_flatten.mpr
      ⟨blueprint.topics.flatMap (callbackLines blueprint.className), ?_, ?_⟩
    · simp only [List.mem_cons, true_or, or_true]
    · exact List.mem_flatMap.mpr ⟨binding, isTopic, ofCallback⟩

end Lines

/-- Every literal of a source is read as its name. -/
theorem isReadIn_sourceText
    {blueprint : Blueprint}
    {literal : NameLiteral}
    (member : literal ∈ nameLiterals blueprint) :
    literal.IsReadIn (sourceText blueprint) := by
  rcases List.mem_append.mp member with ofService | ofTopic
  · obtain ⟨binding, isService, isLiteral⟩ := List.mem_flatMap.mp ofService
    exact NameLiteral.isReadIn_ofLines
      (mem_sourceLines_of_service isService (line_serviceLiterals _ isLiteral))
  · obtain ⟨binding, isTopic, isLiteral⟩ := List.mem_flatMap.mp ofTopic
    exact NameLiteral.isReadIn_ofLines
      (mem_sourceLines_of_topic isTopic (line_topicLiterals _ isLiteral))

/-- Escaping is undone by reading. The written form of a text is what replacing the escaped
characters one after the other gives, and with a quote after it, it is read back as the text, up to
that quote. It has no line feed, carriage return or tab, and no quote that is not escaped, and no
two texts have one written form. So in every source that is generated for a model, each literal
that the name of a service, topic or event is written in is read as that name. -/
theorem literals_readBack :
    (∀ text, (Template.Value.text text).escapeCpp = .ok (Cpp.escape text) ∧
      Cpp.replaceEscaped text = Cpp.escape text ∧
      (∀ rest, Cpp.readLiteral? (Cpp.escape text ++ '"' :: rest) = some (text, rest)) ∧
      (∀ control ∈ ['\n', '\r', '\t'], control ∉ Cpp.escape text) ∧
      ¬ Cpp.HoldsOpenQuote (Cpp.escape text)) ∧
    Function.Injective Cpp.escape ∧
    ∀ options model sources, generate bundledFolder [] options model = .ok sources →
      ∃ blueprint, Blueprint.ofModel options model = .ok blueprint ∧
        (∀ binding ∈ blueprint.services ++ blueprint.topics,
          binding.resolved ∈ model.endpoints) ∧
        blueprint.services.map Binding.clientName =
          model.services.map (·.endpoint.clientName) ∧
        blueprint.topics.map Binding.clientName = model.topics.map (·.endpoint.clientName) ∧
        ∀ literal ∈ nameLiterals blueprint, literal.IsReadIn sources.source := by
  refine ⟨fun text => ⟨Template.Value.escapeCpp_text text, Cpp.replaceEscaped_eq text,
    Cpp.readLiteral?_escape text, fun control => Cpp.control_notMem_escape text,
    Cpp.not_holdsOpenQuote_escape text⟩, fun _ _ => Cpp.escape_injective, ?_⟩
  intro options model sources generates
  obtain ⟨_, blueprint, gathers, rfl⟩ := exists_blueprint_of_generate generates
  obtain ⟨_, _, services, topics, areDeclared⟩ := Blueprint.bindings_inOrder gathers
  exact ⟨blueprint, gathers, fun binding member => (areDeclared binding member).1, services, topics,
    fun literal => isReadIn_sourceText⟩

/-- A skill that calls a service whose name has quotes and ends in a backslash. -/
def greetModel : TypedModel where
  name := "greet"
  source := "greet.scxml"
  initial := ""
  datamodel := []
  states := []
  endpoints :=
    [⟨{ nodeName := "greet_skill", clientName := "greet", kind := .service,
        rosName := "/say/\"hi\"\\", key := ⟨"s", "Say"⟩ }, [], []⟩]

theorem isPlain_greetModel : greetModel.IsPlain := by
  have endpoints : ∀ resolved ∈ greetModel.endpoints, resolved.IsPlain := by
    intro resolved member
    obtain rfl := List.mem_singleton.mp member
    exact ⟨by decide +kernel, by decide +kernel, by decide +kernel, by decide +kernel,
      by decide +kernel⟩
  exact ⟨by decide +kernel, by decide +kernel, by decide +kernel, endpoints⟩

/-- The literals with the name of the service where the startup fails, and with the event of its
response. -/
def greetLiterals : List NameLiteral :=
  [⟨"        failStartup(", "/say/\"hi\"\\", ");"⟩,
    ⟨"            m_stateMachine.submitEvent(", "say.\"hi\"\\.Return", ");"⟩]

/-- The source for the skill is generated, and the literals in it are read as the names. -/
theorem literals_readBack_greet :
    '\n' ∉ Cpp.escape "say\n\"hi\"" ∧
    ∃ sources, generate bundledFolder [] {} greetModel = .ok sources ∧
      ∀ literal ∈ greetLiterals, literal.IsReadIn sources.source := by
  obtain ⟨written, _, readBack⟩ := literals_readBack
  refine ⟨(written _).2.2.2.1 '\n' (by decide), ?_⟩
  have listed : (Blueprint.ofModel {} greetModel).toOption.map
      (fun blueprint => decide (greetLiterals ⊆ nameLiterals blueprint)) = some true := by
    decide +kernel
  obtain ⟨blueprint, isGathered, isListed⟩ := Option.map_eq_some_iff.mp listed
  have gathers := eq_ok_of_toOption isGathered
  have generates := generate_of_isPlain isPlain_greetModel rfl Options.isPrintable_default gathers
  obtain ⟨same, sameGathers, _, _, _, areRead⟩ := readBack _ _ _ generates
  obtain rfl := Except.ok.inj (gathers.symm.trans sameGathers)
  exact ⟨_, generates, fun literal member => areRead literal (of_decide_eq_true isListed member)⟩

end Generation
end SkillNode
