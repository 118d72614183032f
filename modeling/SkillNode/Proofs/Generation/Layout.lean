import SkillNode.Generation.Placeholders

/-!
# Layout of the generated files

The header and the source of a skill node written down line by line: fixed lines,
and between them lines for every include file, variable, service and topic.

Nothing is expanded here. A file is the concatenation of its lines, and each list
of a blueprint contributes the lines of its items in order.
-/

namespace SkillNode

/-- The text of some lines, each with a line feed at its end. -/
def Text.ofLines (lines : List Text) : Text := lines.flatMap (· ++ ['\n'])

namespace Text

@[simp] theorem ofLines_nil : ofLines [] = [] := rfl

@[simp] theorem ofLines_cons (line : Text) (lines : List Text) :
    ofLines (line :: lines) = line ++ '\n' :: ofLines lines := by
  simp [ofLines]

@[simp] theorem ofLines_append (first second : List Text) :
    ofLines (first ++ second) = ofLines first ++ ofLines second := by
  simp [ofLines]

/-- The lines of items make the texts of the items in a row. -/
theorem ofLines_flatMap
    {Item : Type}
    (linesOf : Item → List Text)
    (items : List Item) :
    ofLines (items.flatMap linesOf) = items.flatMap fun item => ofLines (linesOf item) := by
  induction items with
  | nil => rfl
  | cons item items restHypothesis =>
      rw [List.flatMap_cons, List.flatMap_cons, ofLines_append, restHypothesis]

theorem ofLines_map
    {Item : Type}
    (lineOf : Item → Text)
    (items : List Item) :
    ofLines (items.map lineOf) = items.flatMap fun item => ofLines [lineOf item] := by
  induction items with
  | nil => rfl
  | cons item items restHypothesis =>
      rw [List.map_cons, List.flatMap_cons, ofLines_cons, restHypothesis, ofLines_cons]
      simp

end Text

namespace Generation

open Statechart (Variable)

/-! ## Fixed lines of a header -/

/-- The include files that every header needs. -/
def libraryIncludes : List Text :=
  ["",
    "#include <chrono>",
    "#include <memory>",
    "#include <string>",
    "",
    "#include <QScxmlEvent>",
    "#include <QVariant>",
    "#include <QVariantMap>",
    "",
    "#include <rclcpp/rclcpp.hpp>"]

/-- The beginning of a class, with the states of its startup. -/
def startupStates : List Text :=
  ["\x7b",
    "public:",
    "    enum class StartupState",
    "    \x7b",
    "        Uninitialized,",
    "        AwaitingServices,",
    "        Ready,",
    "        Failed",
    "    \x7d;",
    ""]

/-- The declarations of the methods that every class has. -/
def fixedMethods : List Text :=
  ["",
    "    // Acquires every client and subscription; terminates the process if a",
    "    // service stays unavailable.",
    "    bool start(int argc, char * argv[]);",
    "    void spin();",
    "",
    "    StartupState startupState() const \x7b return m_startupState; \x7d",
    "",
    "private:",
    "    template <typename ClientT>",
    "    bool waitForService(const ClientT & client, const std::string & serviceName);",
    "    [[noreturn]] void failStartup(const std::string & serviceName);",
    "",
    "    template <typename T>",
    "    static T convert(const QVariant & value) \x7b return value.value<T>(); \x7d",
    ""]

/-- The body of the conversion to strings, and the template of the method after it. -/
def convertBody : List Text :=
  ["\x7b",
    "    return value.toString().toStdString();",
    "\x7d",
    "",
    "template <typename ClientT>"]

/-- The body of the method that waits for a service. -/
def waitBody : List Text :=
  ["\x7b",
    "    int attempts = 0;",
    "    while (!client->wait_for_service(kServiceWaitTimeout)) \x7b",
    "        if (!rclcpp::ok()) \x7b",
    "            RCLCPP_ERROR_STREAM(m_node->get_logger(),",
    "                \"Interrupted while waiting for service \" << serviceName);",
    "            return false;",
    "        \x7d",
    "        if (++attempts >= kServiceMaxRetries) \x7b",
    "            RCLCPP_ERROR_STREAM(m_node->get_logger(),",
    "                \"Service \" << serviceName << \" not available after \" << attempts << \" attempts\");",
    "            return false;",
    "        \x7d",
    "        RCLCPP_WARN_STREAM(m_node->get_logger(),",
    "            \"Waiting for service \" << serviceName << \" (\" << attempts << \"/\" << kServiceMaxRetries << \")\");",
    "    \x7d",
    "    return true;",
    "\x7d",
    ""]

/-! ## Header -/

/-- The line that includes a file of an interface. -/
def includeLine (path : Text) : Text := "#include <" ++ path ++ ">"

/-- The comment line of a variable. -/
def variableLine (declared : Variable) : Text :=
  " *   " ++ declared.id ++ " (" ++ declared.type ++ ")"

/-- The comment lines of the datamodel. -/
def datamodelLines (datamodel : List Variable) : List Text :=
  if datamodel.isEmpty then [" *   (empty)"] else datamodel.map variableLine

/-- The declaration of the method that calls a service. -/
def callDeclaration (binding : Binding) : Text :=
  "    void " ++ binding.callMethod ++ "(const QScxmlEvent & event);"

/-- The declaration of the method that receives a message. -/
def callbackDeclaration (binding : Binding) : Text :=
  "    void " ++ binding.callbackMethod ++ "(const " ++ binding.typeToken ++ "::SharedPtr msg);"

/-- The member that holds a client. -/
def clientMember (binding : Binding) : Text :=
  "    rclcpp::Client<" ++ binding.typeToken ++ ">::SharedPtr " ++ binding.memberName ++ ";"

/-- The member that holds a subscription. -/
def subscriptionMember (binding : Binding) : Text :=
  "    rclcpp::Subscription<" ++ binding.typeToken ++ ">::SharedPtr " ++ binding.memberName ++ ";"

/-- The lines of a header. -/
def headerLines (blueprint : Blueprint) : List Text :=
  List.flatten
    [[blueprint.fileHeader,
        "",
        "#ifndef " ++ blueprint.headerGuard,
        "#define " ++ blueprint.headerGuard],
      libraryIncludes,
      blueprint.includes.map includeLine,
      ["",
        "#include \"" ++ blueprint.stateMachineHeader ++ "\"",
        "",
        "/**",
        " * Skill node for the \"" ++ Cpp.escape blueprint.model.name ++ "\" behavior.",
        " *",
        " * Datamodel:"],
      datamodelLines blueprint.model.datamodel,
      [" */",
        "class " ++ blueprint.className],
      startupStates,
      ["    static constexpr std::chrono::milliseconds kServiceWaitTimeout\x7b" ++
          Text.ofInt blueprint.options.serviceWaitTimeoutMs ++ "\x7d;",
        "    static constexpr int kServiceMaxRetries\x7b" ++
          Text.ofInt blueprint.options.serviceMaxRetries ++ "\x7d;",
        "    static constexpr size_t kSubscriptionQueueSize\x7b" ++
          Text.ofInt blueprint.options.subscriptionQueueSize ++ "\x7d;",
        "",
        "    explicit " ++ blueprint.className ++ "(std::string name = \"" ++ blueprint.nodeName ++
          "\");"],
      fixedMethods,
      blueprint.services.map callDeclaration,
      blueprint.topics.map callbackDeclaration,
      ["",
        "    std::string m_name;",
        "    std::shared_ptr<rclcpp::Node> m_node;",
        "    " ++ blueprint.className ++ "SM m_stateMachine;",
        "    StartupState m_startupState\x7bStartupState::Uninitialized\x7d;"],
      blueprint.services.map clientMember,
      blueprint.topics.map subscriptionMember,
      ["\x7d;",
        "",
        "template <>",
        "inline std::string " ++ blueprint.className ++
          "::convert<std::string>(const QVariant & value)"],
      convertBody,
      ["bool " ++ blueprint.className ++
          "::waitForService(const ClientT & client, const std::string & serviceName)"],
      waitBody,
      ["#endif  // " ++ blueprint.headerGuard]]

/-- The text of a header. -/
def headerText (blueprint : Blueprint) : Text := Text.ofLines (headerLines blueprint)

/-! ## Startup -/

/-- The lines that acquire the client of a service or give up. -/
def clientLines (binding : Binding) : List Text :=
  let service := Cpp.escape binding.endpoint.serviceName
  ["",
    "    " ++ binding.memberName ++ " = m_node->create_client<" ++ binding.typeToken ++ ">(\"" ++
      service ++ "\");",
    "    if (!waitForService(" ++ binding.memberName ++ ", \"" ++ service ++ "\")) \x7b",
    "        failStartup(\"" ++ service ++ "\");",
    "    \x7d"]

/-- The lines that subscribe to a topic. -/
def subscriptionLines (className : Text) (binding : Binding) : List Text :=
  ["",
    "    " ++ binding.memberName ++ " = m_node->create_subscription<" ++ binding.typeToken ++ ">(",
    "        \"" ++ Cpp.escape binding.endpoint.topicName ++ "\", kSubscriptionQueueSize,",
    "        std::bind(&" ++ className ++ "::" ++ binding.callbackMethod ++
      ", this, std::placeholders::_1));"]

/-- The lines that let the state machine call a service. -/
def connectLines (binding : Binding) : List Text :=
  ["",
    "    m_stateMachine.connectToEvent(\"" ++ Cpp.escape binding.eventCall ++
      "\", [this](const QScxmlEvent & event) \x7b",
    "        " ++ binding.callMethod ++ "(event);",
    "    \x7d);"]

/-- The lines of the startup method after its fixed beginning. -/
def startLines (blueprint : Blueprint) : List Text :=
  List.flatten
    [["    RCLCPP_DEBUG_STREAM(m_node->get_logger(), \"" ++ blueprint.className ++ "::start\");",
        "",
        "    m_startupState = StartupState::AwaitingServices;"],
      blueprint.services.flatMap clientLines,
      blueprint.topics.flatMap (subscriptionLines blueprint.className),
      ["",
        "    m_startupState = StartupState::Ready;"],
      blueprint.services.flatMap connectLines,
      ["",
        "    m_stateMachine.start();",
        "    return true;",
        "\x7d",
        ""]]

/-! ## Calls and callbacks -/

/-- The lines that set a field of a request. -/
def paramLines (field : Text) : List Text :=
  ["    if (params.contains(\"" ++ field ++ "\")) \x7b",
    "        request->" ++ field ++ " = convert<decltype(request->" ++ field ++ ")>(params[\"" ++
      field ++ "\"]);",
    "    \x7d"]

/-- The lines that fill a request. -/
def requestLines (fields : List Text) : List Text :=
  if fields.isEmpty then
    []
  else
    "    const QVariantMap params = event.data().toMap();" :: fields.flatMap paramLines

/-- The line that hands a field of a response over. -/
def insertLine (indent : Text) (field : ResponseField) : Text :=
  indent ++ "data.insert(\"" ++ field.name ++ "\", " ++ field.access ++ ");  // " ++ field.location

/-- The lines that raise the event of a response or message: with its fields after
what takes it, or bare after what ignores it. -/
def submitLines (indent : Text) (taking ignoring : List Text) (binding : Binding) : List Text :=
  let event := indent ++ "m_stateMachine.submitEvent(\"" ++ Cpp.escape binding.eventReturn
  if binding.responseFields.isEmpty then
    ignoring ++ [event ++ "\");"]
  else
    taking ++ [indent ++ "QVariantMap data;"] ++ binding.responseFields.map (insertLine indent) ++
      [event ++ "\", data);"]

/-- What the lines of a response are indented by. -/
def responseIndent : Text := "            "

/-- What the lines of a message are indented by. -/
def messageIndent : Text := "    "

/-- The line that takes a response. -/
def responseTaking : Text := "            const auto response = future.get();"

/-- The line that waits for a response without fields. -/
def responseIgnoring : Text := "            future.get();"

/-- The method that calls a service. -/
def callLines (className : Text) (binding : Binding) : List Text :=
  List.flatten
    [["",
        "void " ++ className ++ "::" ++ binding.callMethod ++
          "([[maybe_unused]] const QScxmlEvent & event)",
        "\x7b",
        "    auto request = std::make_shared<" ++ binding.typeToken ++ "::Request>();"],
      requestLines binding.resolved.requestFields,
      ["",
        "    " ++ binding.memberName ++ "->async_send_request(request,",
        "        [this](rclcpp::Client<" ++ binding.typeToken ++ ">::SharedFuture future) \x7b"],
      submitLines responseIndent [responseTaking] [responseIgnoring] binding,
      ["        \x7d);",
        "\x7d"]]

/-- The method that receives a message. -/
def callbackLines (className : Text) (binding : Binding) : List Text :=
  List.flatten
    [["",
        "void " ++ className ++ "::" ++ binding.callbackMethod ++ "([[maybe_unused]] const " ++
          binding.typeToken ++ "::SharedPtr msg)",
        "\x7b"],
      submitLines messageIndent [] [] binding,
      ["\x7d"]]

/-! ## Source -/

/-- The include files that every source needs. -/
def sourceIncludes : List Text :=
  ["",
    "#include <cstdlib>",
    "#include <functional>",
    "#include <utility>",
    ""]

/-- The body of the constructor. -/
def constructorBody : List Text :=
  ["    : m_name(std::move(name))",
    "\x7b",
    "\x7d",
    ""]

/-- The fixed beginning of the startup method. -/
def startBeginning : List Text :=
  ["\x7b",
    "    if (!rclcpp::ok()) \x7b",
    "        rclcpp::init(argc, argv);",
    "    \x7d",
    "",
    "    m_node = rclcpp::Node::make_shared(m_name);"]

/-- The body of the method that spins the node. -/
def spinBody : List Text :=
  ["\x7b",
    "    rclcpp::spin(m_node);",
    "\x7d",
    ""]

/-- The beginning of the method that gives the startup up. -/
def failBeginning : List Text :=
  ["\x7b",
    "    m_startupState = StartupState::Failed;",
    "    RCLCPP_FATAL_STREAM(m_node->get_logger(),"]

/-- The lines of a source. -/
def sourceLines (blueprint : Blueprint) : List Text :=
  List.flatten
    [[blueprint.fileHeader,
        "",
        "#include \"" ++ blueprint.headerFile ++ "\""],
      sourceIncludes,
      [blueprint.className ++ "::" ++ blueprint.className ++ "(std::string name)"],
      constructorBody,
      ["bool " ++ blueprint.className ++ "::start(int argc, char * argv[])"],
      startBeginning,
      startLines blueprint,
      ["void " ++ blueprint.className ++ "::spin()"],
      spinBody,
      ["void " ++ blueprint.className ++ "::failStartup(const std::string & serviceName)"],
      failBeginning,
      ["        \"Service \" << serviceName << \" is unavailable, terminating " ++
          blueprint.className ++ "\");",
        "    std::exit(EXIT_FAILURE);",
        "\x7d"],
      blueprint.services.flatMap (callLines blueprint.className),
      blueprint.topics.flatMap (callbackLines blueprint.className)]

/-- The text of a source. -/
def sourceText (blueprint : Blueprint) : Text := Text.ofLines (sourceLines blueprint)

end Generation
end SkillNode
