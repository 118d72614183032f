import SkillNode.Generation.Bundled
import SkillNode.Proofs.Generation.Layout
import SkillNode.Proofs.Template.ReadNodes

/-!
# Nodes of the bundled templates

The nodes that the two bundled templates are read as. Every node knows its line of
the template; the text between two placeholders is the end of a line, some whole
lines, and the beginning of another.

That the templates are read so is settled by reading them. Nodes of one shape are
written as one definition, with the lines as parameters.
-/

namespace SkillNode
namespace Template

/-! ## Shapes of nodes -/

/-- The text between two placeholders: the end of a line, whole lines, and the
beginning of another. -/
def between (ending : Text) (lines : List Text) (beginning : Text) : Node :=
  .text (ending ++ '\n' :: Text.ofLines lines ++ beginning)

/-- The value of a name. -/
def printName (line : Nat) (name : Text) : Node := .output (.name line name)

/-- A part of the value of a name. -/
def printPart (line : Nat) (name part : Text) : Node :=
  .output (.field line (.name line name) part)

/-- A part of the value of a name, as text of a C++ literal. -/
def printEscaped (line : Nat) (name part : Text) : Node :=
  .output (.filter line (.field line (.name line name) part) "escape_cpp")

end Template

namespace Generation

open Template

/-! ## Header -/

/-- The include lines. -/
def includeNode : Node :=
  .loop 15 "include" (.name 15 "interface_includes") none
    [.text "#include <", printName 16 "include", between ">" [] ""] []

/-- The comment lines of the datamodel. -/
def datamodelNode : Node :=
  .loop 25 "var" (.name 25 "datamodel") none
    [.text " *   ", printPart 26 "var" "id", .text " (", printPart 26 "var" "type",
      between ")" [] ""]
    [.text (Text.ofLines [" *   (empty)"])]

/-- The declarations of the methods that call services. -/
def callDeclarationNode : Node :=
  .loop 63 "eventData" (.name 63 "services") none
    [.text "    void ", printPart 64 "eventData" "call_method",
      between "(const QScxmlEvent & event);" [] ""] []

/-- The declarations of the methods that receive messages. -/
def callbackDeclarationNode : Node :=
  .loop 66 "eventData" (.name 66 "topics") none
    [.text "    void ", printPart 67 "eventData" "callback_method", .text "(const ",
      printPart 67 "eventData" "type_token", between "::SharedPtr msg);" [] ""] []

/-- The members that hold clients or subscriptions, from a line on. -/
def memberNode (line : Nat) (list beginning : Text) : Node :=
  .loop line "eventData" (.name line list) none
    [.text beginning, printPart (line + 1) "eventData" "type_token", .text ">::SharedPtr ",
      printPart (line + 1) "eventData" "member_name", between ";" [] ""] []

/-- The nodes of the template for headers. -/
def headerNodes : List Node :=
  [printName 1 "generated_header",
    between "" [""] "#ifndef ",
    printName 3 "header_guard",
    between "" [] "#define ",
    printName 4 "header_guard",
    between "" libraryIncludes "",
    includeNode,
    between "" [] "#include \"",
    printName 19 "state_machine_header",
    between "\"" ["", "/**"] " * Skill node for the \"",
    .output (.filter 22 (.name 22 "skill_name") "escape_cpp"),
    between "\" behavior." [" *", " * Datamodel:"] "",
    datamodelNode,
    between " */" [] "class ",
    printName 31 "class_name",
    between "" startupStates
      "    static constexpr std::chrono::milliseconds kServiceWaitTimeout\x7b",
    printName 42 "service_wait_timeout_ms",
    between "\x7d;" [] "    static constexpr int kServiceMaxRetries\x7b",
    printName 43 "service_max_retries",
    between "\x7d;" [] "    static constexpr size_t kSubscriptionQueueSize\x7b",
    printName 44 "subscription_queue_size",
    between "\x7d;" [""] "    explicit ",
    printName 46 "class_name",
    .text "(std::string name = \"",
    printName 46 "node_name",
    between "\");" fixedMethods "",
    callDeclarationNode,
    callbackDeclarationNode,
    between "" ["    std::string m_name;", "    std::shared_ptr<rclcpp::Node> m_node;"] "    ",
    printName 72 "class_name",
    between "SM m_stateMachine;"
      ["    StartupState m_startupState\x7bStartupState::Uninitialized\x7d;"] "",
    memberNode 74 "services" "    rclcpp::Client<",
    memberNode 77 "topics" "    rclcpp::Subscription<",
    between "\x7d;" ["", "template <>"] "inline std::string ",
    printName 83 "class_name",
    between "::convert<std::string>(const QVariant & value)" convertBody "bool ",
    printName 89 "class_name",
    between "::waitForService(const ClientT & client, const std::string & serviceName)" waitBody
      "#endif  // ",
    printName 109 "header_guard",
    between "" [] ""]

/-! ## Source -/

/-- The lines that acquire clients. -/
def clientNode : Node :=
  .loop 24 "eventData" (.name 24 "services") none
    [between "" [] "    ",
      printPart 26 "eventData" "member_name",
      .text " = m_node->create_client<",
      printPart 26 "eventData" "type_token",
      .text ">(\"",
      printEscaped 26 "eventData" "service_name",
      between "\");" [] "    if (!waitForService(",
      printPart 27 "eventData" "member_name",
      .text ", \"",
      printEscaped 27 "eventData" "service_name",
      between "\")) \x7b" [] "        failStartup(\"",
      printEscaped 28 "eventData" "service_name",
      between "\");" ["    \x7d"] ""] []

/-- The lines that subscribe. -/
def subscriptionNode : Node :=
  .loop 31 "eventData" (.name 31 "topics") none
    [between "" [] "    ",
      printPart 33 "eventData" "member_name",
      .text " = m_node->create_subscription<",
      printPart 33 "eventData" "type_token",
      between ">(" [] "        \"",
      printEscaped 34 "eventData" "topic_name",
      between "\", kSubscriptionQueueSize," [] "        std::bind(&",
      printName 35 "class_name",
      .text "::",
      printPart 35 "eventData" "callback_method",
      between ", this, std::placeholders::_1));" [] ""] []

/-- The lines that let the state machine call services. -/
def connectNode : Node :=
  .loop 39 "eventData" (.name 39 "services") none
    [between "" [] "    m_stateMachine.connectToEvent(\"",
      printEscaped 41 "eventData" "event_call",
      between "\", [this](const QScxmlEvent & event) \x7b" [] "        ",
      printPart 42 "eventData" "call_method",
      between "(event);" ["    \x7d);"] ""] []

/-- The lines that set the fields of a request. -/
def paramNode : Node :=
  .loop 69 "field" (.field 69 (.name 69 "eventData") "request_fields") none
    [.text "    if (params.contains(\"",
      printName 70 "field",
      between "\")) \x7b" [] "        request->",
      printName 71 "field",
      .text " = convert<decltype(request->",
      printName 71 "field",
      .text ")>(params[\"",
      printName 71 "field",
      between "\"]);" ["    \x7d"] ""] []

/-- The lines that fill a request. -/
def requestNode : Node :=
  .branch 67 (.field 67 (.name 67 "eventData") "request_fields")
    [.text (Text.ofLines ["    const QVariantMap params = event.data().toMap();"]), paramNode] []

/-- The lines that hand fields over, from a line on. -/
def insertNode (line : Nat) (indent : Text) : Node :=
  .loop line "field" (.field line (.name line "eventData") "response_fields") none
    [.text (indent ++ "data.insert(\""),
      printPart (line + 1) "field" "name",
      .text "\", ",
      printPart (line + 1) "field" "access",
      .text ");  // ",
      printPart (line + 1) "field" "datamodel_var",
      between "" [] ""] []

/-- The lines that raise the event of a response or message. The test for fields, the
loop over them, and the event with and without data stand on certain lines. -/
def submitNode
    (testLine loopLine dataLine bareLine : Nat)
    (indent : Text)
    (taking ignoring : List Text) : Node :=
  .branch testLine (.field testLine (.name testLine "eventData") "response_fields")
    [.text (Text.ofLines (taking ++ [indent ++ "QVariantMap data;"])),
      insertNode loopLine indent,
      .text (indent ++ "m_stateMachine.submitEvent(\""),
      printEscaped dataLine "eventData" "event_return",
      between "\", data);" [] ""]
    [.text (Text.ofLines ignoring ++ indent ++ "m_stateMachine.submitEvent(\""),
      printEscaped bareLine "eventData" "event_return",
      between "\");" [] ""]

/-- The methods that call services. -/
def callNode : Node :=
  .loop 62 "eventData" (.name 62 "services") none
    [between "" [] "void ",
      printName 64 "class_name",
      .text "::",
      printPart 64 "eventData" "call_method",
      between "([[maybe_unused]] const QScxmlEvent & event)" ["\x7b"]
        "    auto request = std::make_shared<",
      printPart 66 "eventData" "type_token",
      between "::Request>();" [] "",
      requestNode,
      between "" [] "    ",
      printPart 76 "eventData" "member_name",
      between "->async_send_request(request," [] "        [this](rclcpp::Client<",
      printPart 77 "eventData" "type_token",
      between ">::SharedFuture future) \x7b" [] "",
      submitNode 78 81 84 87 responseIndent [responseTaking] [responseIgnoring],
      .text (Text.ofLines ["        \x7d);", "\x7d"])] []

/-- The methods that receive messages. -/
def callbackNode : Node :=
  .loop 92 "eventData" (.name 92 "topics") none
    [between "" [] "void ",
      printName 94 "class_name",
      .text "::",
      printPart 94 "eventData" "callback_method",
      .text "([[maybe_unused]] const ",
      printPart 94 "eventData" "type_token",
      between "::SharedPtr msg)" ["\x7b"] "",
      submitNode 96 98 101 103 messageIndent [] [],
      .text (Text.ofLines ["\x7d"])] []

/-- The nodes of the template for sources. -/
def sourceNodes : List Node :=
  [printName 1 "generated_header",
    between "" [""] "#include \"",
    printName 3 "header_file",
    between "\"" sourceIncludes "",
    printName 9 "class_name",
    .text "::",
    printName 9 "class_name",
    between "(std::string name)" constructorBody "bool ",
    printName 14 "class_name",
    between "::start(int argc, char * argv[])" startBeginning
      "    RCLCPP_DEBUG_STREAM(m_node->get_logger(), \"",
    printName 21 "class_name",
    between "::start\");" ["", "    m_startupState = StartupState::AwaitingServices;"] "",
    clientNode,
    subscriptionNode,
    between "" ["    m_startupState = StartupState::Ready;"] "",
    connectNode,
    between "" ["    m_stateMachine.start();", "    return true;", "\x7d", ""] "void ",
    printName 50 "class_name",
    between "::spin()" spinBody "void ",
    printName 55 "class_name",
    between "::failStartup(const std::string & serviceName)" failBeginning
      "        \"Service \" << serviceName << \" is unavailable, terminating ",
    printName 59 "class_name",
    between "\");" ["    std::exit(EXIT_FAILURE);", "\x7d"] "",
    callNode,
    callbackNode]

/-! ## Reading -/

section Reading

-- The texts of the templates are evaluated as lists of characters.
set_option maxRecDepth 100000

theorem readTemplate_headerTemplate : readTemplate headerTemplate = .ok headerNodes := by
  apply eq_of_reads
  unfold headerTemplate headerTemplateLines textOfLines
  simp only [List.flatMap_cons, List.flatMap_nil]
  unfold headerNodes includeNode datamodelNode callDeclarationNode callbackDeclarationNode
    memberNode printName printPart between libraryIncludes startupStates fixedMethods convertBody
    waitBody
  repeat rw [String.toList_ofList]
  decide +kernel

theorem readTemplate_sourceTemplate : readTemplate sourceTemplate = .ok sourceNodes := by
  apply eq_of_reads
  unfold sourceTemplate sourceTemplateLines textOfLines
  simp only [List.flatMap_cons, List.flatMap_nil]
  unfold sourceNodes clientNode subscriptionNode connectNode callNode callbackNode requestNode
    paramNode submitNode insertNode printName printPart printEscaped between sourceIncludes
    constructorBody startBeginning spinBody failBeginning responseIndent messageIndent
    responseTaking responseIgnoring
  repeat rw [String.toList_ofList]
  decide +kernel

theorem noReturn_headerTemplate : '\r' ∉ headerTemplate := by
  unfold headerTemplate headerTemplateLines textOfLines
  simp only [List.flatMap_cons, List.flatMap_nil]
  repeat rw [String.toList_ofList]
  decide +kernel

theorem noReturn_sourceTemplate : '\r' ∉ sourceTemplate := by
  unfold sourceTemplate sourceTemplateLines textOfLines
  simp only [List.flatMap_cons, List.flatMap_nil]
  repeat rw [String.toList_ofList]
  decide +kernel

end Reading

end Generation
end SkillNode
