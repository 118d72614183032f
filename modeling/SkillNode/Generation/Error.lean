import SkillNode.Generation.Options
import SkillNode.Template.Rendering
import SkillNode.Naming
import SkillNode.Log

/-!
# Errors of generation

Why no code is generated for a model, and what is said of it. The message starts
with the template that the error is about, and ends with the placeholder if there
is one.
-/

namespace SkillNode
namespace Generation

/-- The generated names of an endpoint that have to differ from all others. -/
inductive NamePart
  | member
  | callMethod
  | callbackMethod
  deriving DecidableEq, Repr

/-- The placeholder that prints a generated name. -/
def NamePart.placeholder : NamePart → Text
  | .member => "eventData.member_name"
  | .callMethod => "eventData.call_method"
  | .callbackMethod => "eventData.callback_method"

/-- The placeholder that prints the fields of a response. -/
def responseFieldsPlaceholder : Text := "eventData.response_fields"

/-- What a template of a set is for. -/
inductive Role
  | header
  | source
  deriving DecidableEq, Repr

/-- The name of a role. -/
def Role.name : Role → Text
  | .header => "header"
  | .source => "source"

/-- Why no code is generated. -/
inductive Error
  | badOptions (fault : OptionFault)
  /-- No class can be named after the skill. -/
  | unusableName (name : Text)
  /-- A set has no template for a role. -/
  | missingTemplate (role : Role)
  /-- A field that is assigned to a variable cannot be handed over. -/
  | compoundField (field location : Text)
  /-- Two clients have one generated name. -/
  | nameCollision (part : NamePart) (clientName earlier name : Text)
  | rendering (error : Template.RenderError)
  deriving DecidableEq, Repr

namespace Error

/-- The template that an error is about, empty if none. -/
def template : Error → Text
  | .rendering error => error.template
  | _ => []

/-- The line of the template that an error is about. -/
def line? : Error → Option Nat
  | .rendering error => error.fault.line?
  | _ => none

/-- The placeholder that an error is about, empty if none. -/
def placeholder : Error → Text
  | .compoundField _ _ => responseFieldsPlaceholder
  | .nameCollision part _ _ _ => part.placeholder
  | .rendering error => error.fault.placeholder
  | _ => []

/-- What is said of an error, without its place. -/
def reason : Error → Text
  | .badOptions fault => fault.message
  | .unusableName name => Naming.unusableMessage name
  | .missingTemplate role => "Template set has no '" ++ role.name ++ "' template"
  | .compoundField field location =>
      "Field '" ++ field ++ "' (assigned to '" ++ location ++
        "') is an array or nested message and cannot be passed to the state machine"
  | .nameCollision _ clientName earlier name =>
      "'" ++ clientName ++ "' and '" ++ earlier ++ "' map to the same C++ name '" ++ name ++ "'"
  | .rendering error => error.fault.message

/-- What the place of an error without a template is called. -/
def unnamedTemplate : Text := "<template>"

/-- Whether an error is about the expansion of a model and says where it is. An error about
settings, names, numbers or the content of files is one about a wrong value, and does not. -/
def hasPlace : Error → Bool
  | .badOptions _ | .unusableName _ => false
  | .rendering ⟨_, .undecodable _⟩ | .rendering ⟨_, .longNumber⟩
  | .rendering ⟨_, .obstructed _⟩ => false
  | _ => true

/-- The full message of an error. -/
def message (error : Error) : Text :=
  if error.hasPlace then
    let template := if error.template.isEmpty then unnamedTemplate else error.template
    let named : Text :=
      if error.placeholder.isEmpty then
        []
      else
        " (placeholder '" ++ error.placeholder ++ "')"
    placeText template (error.line?.map Int.ofNat) ++ ": " ++ error.reason ++ named
  else
    error.reason

end Error

end Generation
end SkillNode
