import SkillNode.Template.Rendering

/-!
# The bundled templates

The templates that every generator carries along: one for the header of a skill
node and one for its source. Every line of a template is one line here, however long
it is.
-/

namespace SkillNode
namespace Generation

open Template (Folder)

/-! ## Names -/

/-- How the folder of the bundled templates is printed. -/
def bundledPath : Text := "<bundled>"

/-- The name of the template for headers. -/
def headerTemplateName : Text := "skill.h.jinja2"

/-- The name of the template for sources. -/
def sourceTemplateName : Text := "skill.cpp.jinja2"

/-! ## Texts -/

/-- The lines of the template for headers. -/
def headerTemplateLines : List String :=
  ["$generated_header$",
    "",
    "#ifndef $header_guard$",
    "#define $header_guard$",
    "",
    "#include <chrono>",
    "#include <memory>",
    "#include <string>",
    "",
    "#include <QScxmlEvent>",
    "#include <QVariant>",
    "#include <QVariantMap>",
    "",
    "#include <rclcpp/rclcpp.hpp>",
    "\x7b% for include in interface_includes %\x7d",
    "#include <$include$>",
    "\x7b% endfor %\x7d",
    "",
    "#include \"$state_machine_header$\"",
    "",
    "/**",
    " * Skill node for the \"$skill_name|escape_cpp$\" behavior.",
    " *",
    " * Datamodel:",
    "\x7b% for var in datamodel %\x7d",
    " *   $var.id$ ($var.type$)",
    "\x7b% else %\x7d",
    " *   (empty)",
    "\x7b% endfor %\x7d",
    " */",
    "class $class_name$",
    "\x7b",
    "public:",
    "    enum class StartupState",
    "    \x7b",
    "        Uninitialized,",
    "        AwaitingServices,",
    "        Ready,",
    "        Failed",
    "    \x7d;",
    "",
    "    static constexpr std::chrono::milliseconds kServiceWaitTimeout\x7b$service_wait_timeout_ms$\x7d;",
    "    static constexpr int kServiceMaxRetries\x7b$service_max_retries$\x7d;",
    "    static constexpr size_t kSubscriptionQueueSize\x7b$subscription_queue_size$\x7d;",
    "",
    "    explicit $class_name$(std::string name = \"$node_name$\");",
    "",
    "    // Acquires every client and subscription; terminates the process if a",
    "    // service stays unavailable.",
    "    bool start(int argc, char * argv[]);",
    "    void spin();",
    "",
    "    StartupState startupState() const \x7b return m_startupState; \x7d",
    "",
    "private:",
    "    template <typename ClientT>",
    "    bool waitForService(const ClientT & client, const std::string & serviceName);",
    "    [[noreturn]] void failStartup(const std::string & serviceName);",
    "",
    "    template <typename T>",
    "    static T convert(const QVariant & value) \x7b return value.value<T>(); \x7d",
    "",
    "\x7b% for eventData in services %\x7d",
    "    void $eventData.call_method$(const QScxmlEvent & event);",
    "\x7b% endfor %\x7d",
    "\x7b% for eventData in topics %\x7d",
    "    void $eventData.callback_method$(const $eventData.type_token$::SharedPtr msg);",
    "\x7b% endfor %\x7d",
    "",
    "    std::string m_name;",
    "    std::shared_ptr<rclcpp::Node> m_node;",
    "    $class_name$SM m_stateMachine;",
    "    StartupState m_startupState\x7bStartupState::Uninitialized\x7d;",
    "\x7b% for eventData in services %\x7d",
    "    rclcpp::Client<$eventData.type_token$>::SharedPtr $eventData.member_name$;",
    "\x7b% endfor %\x7d",
    "\x7b% for eventData in topics %\x7d",
    "    rclcpp::Subscription<$eventData.type_token$>::SharedPtr $eventData.member_name$;",
    "\x7b% endfor %\x7d",
    "\x7d;",
    "",
    "template <>",
    "inline std::string $class_name$::convert<std::string>(const QVariant & value)",
    "\x7b",
    "    return value.toString().toStdString();",
    "\x7d",
    "",
    "template <typename ClientT>",
    "bool $class_name$::waitForService(const ClientT & client, const std::string & serviceName)",
    "\x7b",
    "    int attempts = 0;",
    "    while (!client->wait_for_service(kServiceWaitTimeout)) \x7b",
    "        if (!rclcpp::ok()) \x7b",
    "            RCLCPP_ERROR_STREAM(m_node->get_logger(),",
    "                \"Interrupted while waiting for service \" << serviceName);",
    "            return false;",
    "        \x7d",
    "        if (++attempts >= kServiceMaxRetries) \x7b",
    "            RCLCPP_ERROR_STREAM(m_node->get_logger(),",
    "                \"Service \" << serviceName << \" not available after \" << attempts << \" attempts\");",
    "            return false;",
    "        \x7d",
    "        RCLCPP_WARN_STREAM(m_node->get_logger(),",
    "            \"Waiting for service \" << serviceName << \" (\" << attempts << \"/\" << kServiceMaxRetries << \")\");",
    "    \x7d",
    "    return true;",
    "\x7d",
    "",
    "#endif  // $header_guard$"]

/-- The lines of the template for sources. -/
def sourceTemplateLines : List String :=
  ["$generated_header$",
    "",
    "#include \"$header_file$\"",
    "",
    "#include <cstdlib>",
    "#include <functional>",
    "#include <utility>",
    "",
    "$class_name$::$class_name$(std::string name)",
    "    : m_name(std::move(name))",
    "\x7b",
    "\x7d",
    "",
    "bool $class_name$::start(int argc, char * argv[])",
    "\x7b",
    "    if (!rclcpp::ok()) \x7b",
    "        rclcpp::init(argc, argv);",
    "    \x7d",
    "",
    "    m_node = rclcpp::Node::make_shared(m_name);",
    "    RCLCPP_DEBUG_STREAM(m_node->get_logger(), \"$class_name$::start\");",
    "",
    "    m_startupState = StartupState::AwaitingServices;",
    "\x7b% for eventData in services %\x7d",
    "",
    "    $eventData.member_name$ = m_node->create_client<$eventData.type_token$>(\"$eventData.service_name|escape_cpp$\");",
    "    if (!waitForService($eventData.member_name$, \"$eventData.service_name|escape_cpp$\")) \x7b",
    "        failStartup(\"$eventData.service_name|escape_cpp$\");",
    "    \x7d",
    "\x7b% endfor %\x7d",
    "\x7b% for eventData in topics %\x7d",
    "",
    "    $eventData.member_name$ = m_node->create_subscription<$eventData.type_token$>(",
    "        \"$eventData.topic_name|escape_cpp$\", kSubscriptionQueueSize,",
    "        std::bind(&$class_name$::$eventData.callback_method$, this, std::placeholders::_1));",
    "\x7b% endfor %\x7d",
    "",
    "    m_startupState = StartupState::Ready;",
    "\x7b% for eventData in services %\x7d",
    "",
    "    m_stateMachine.connectToEvent(\"$eventData.event_call|escape_cpp$\", [this](const QScxmlEvent & event) \x7b",
    "        $eventData.call_method$(event);",
    "    \x7d);",
    "\x7b% endfor %\x7d",
    "",
    "    m_stateMachine.start();",
    "    return true;",
    "\x7d",
    "",
    "void $class_name$::spin()",
    "\x7b",
    "    rclcpp::spin(m_node);",
    "\x7d",
    "",
    "void $class_name$::failStartup(const std::string & serviceName)",
    "\x7b",
    "    m_startupState = StartupState::Failed;",
    "    RCLCPP_FATAL_STREAM(m_node->get_logger(),",
    "        \"Service \" << serviceName << \" is unavailable, terminating $class_name$\");",
    "    std::exit(EXIT_FAILURE);",
    "\x7d",
    "\x7b% for eventData in services %\x7d",
    "",
    "void $class_name$::$eventData.call_method$([[maybe_unused]] const QScxmlEvent & event)",
    "\x7b",
    "    auto request = std::make_shared<$eventData.type_token$::Request>();",
    "\x7b% if eventData.request_fields %\x7d",
    "    const QVariantMap params = event.data().toMap();",
    "\x7b% for field in eventData.request_fields %\x7d",
    "    if (params.contains(\"$field$\")) \x7b",
    "        request->$field$ = convert<decltype(request->$field$)>(params[\"$field$\"]);",
    "    \x7d",
    "\x7b% endfor %\x7d",
    "\x7b% endif %\x7d",
    "",
    "    $eventData.member_name$->async_send_request(request,",
    "        [this](rclcpp::Client<$eventData.type_token$>::SharedFuture future) \x7b",
    "\x7b% if eventData.response_fields %\x7d",
    "            const auto response = future.get();",
    "            QVariantMap data;",
    "\x7b% for field in eventData.response_fields %\x7d",
    "            data.insert(\"$field.name$\", $field.access$);  // $field.datamodel_var$",
    "\x7b% endfor %\x7d",
    "            m_stateMachine.submitEvent(\"$eventData.event_return|escape_cpp$\", data);",
    "\x7b% else %\x7d",
    "            future.get();",
    "            m_stateMachine.submitEvent(\"$eventData.event_return|escape_cpp$\");",
    "\x7b% endif %\x7d",
    "        \x7d);",
    "\x7d",
    "\x7b% endfor %\x7d",
    "\x7b% for eventData in topics %\x7d",
    "",
    "void $class_name$::$eventData.callback_method$([[maybe_unused]] const $eventData.type_token$::SharedPtr msg)",
    "\x7b",
    "\x7b% if eventData.response_fields %\x7d",
    "    QVariantMap data;",
    "\x7b% for field in eventData.response_fields %\x7d",
    "    data.insert(\"$field.name$\", $field.access$);  // $field.datamodel_var$",
    "\x7b% endfor %\x7d",
    "    m_stateMachine.submitEvent(\"$eventData.event_return|escape_cpp$\", data);",
    "\x7b% else %\x7d",
    "    m_stateMachine.submitEvent(\"$eventData.event_return|escape_cpp$\");",
    "\x7b% endif %\x7d",
    "\x7d",
    "\x7b% endfor %\x7d"]

/-- The text of some lines, each with a line feed at its end. -/
def textOfLines (lines : List String) : Text :=
  lines.flatMap fun line => line.toList ++ ['\n']

/-- The template for headers. -/
def headerTemplate : Text := textOfLines headerTemplateLines

/-- The template for sources. -/
def sourceTemplate : Text := textOfLines sourceTemplateLines

/-- The text of a bundled template. -/
def bundledText? (parts : List Text) : Option Text :=
  if parts = [headerTemplateName] then some headerTemplate
  else if parts = [sourceTemplateName] then some sourceTemplate
  else none

/-- The folder of the bundled templates. -/
def bundledFolder : Folder where
  path := bundledPath
  content? parts := (bundledText? parts).map .ok

end Generation
end SkillNode
