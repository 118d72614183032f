import SkillNode.Interface.FieldType
import SkillNode.Naming
import SkillNode.Log
import SkillNode.Statechart.Outline

/-!
# Errors in behaviour descriptions

Why a behaviour description is refused, where the fault stands, and what is
said of it.
-/

namespace SkillNode
namespace Statechart

/-- Why a behaviour description is refused. -/
inductive Fault
  /-- The text is no well-formed document; a piece of it may be quoted. -/
  | malformed (quote : Text)
  /-- The file cannot be read. -/
  | unreadable
  /-- The root element has another name. -/
  | wrongRoot (found : Text)
  /-- No class can be named after the skill. -/
  | unusableName (name : Text)
  /-- A required attribute is missing or blank. -/
  | missingAttribute (name : Text)
  /-- An interface type lacks its package or its name. -/
  | badInterfaceType (type : Text)
  /-- A service or topic name has no segment. -/
  | badRosName (name : Text)
  /-- Two declarations share a client name. -/
  | duplicateDeclaration (clientName : Text)
  /-- A handler refers to no declaration of its kind. -/
  | noDeclaration (name : Text) (kind : Interface.Kind)
  /-- A request refers to no service client. -/
  | undeclaredClient (name : Text)
  deriving DecidableEq, Repr

/-- What is said of a fault. -/
def Fault.message : Fault → Text
  | .malformed quote => "Malformed XML" ++ quote
  | .unreadable => "Cannot read behavior description"
  | .wrongRoot found => "Root element must be <scxml>, got <" ++ found ++ ">"
  | .unusableName name => Naming.unusableMessage name
  | .missingAttribute name => "Missing required attribute '" ++ name ++ "'"
  | .badInterfaceType type => "Interface type '" ++ type ++ "' must be '<package>/<TypeName>'"
  | .badRosName name => "Invalid name '" ++ name ++ "'"
  | .duplicateDeclaration clientName => "Duplicate declaration '" ++ clientName ++ "'"
  | .noDeclaration name kind =>
      "'" ++ name ++ "' has no matching <" ++ declarationTag kind ++ "> declaration"
  | .undeclaredClient name => "Request for undeclared service client '" ++ name ++ "'"

/-- A fault with its source, its line if it has one, and the element it concerns,
empty if it concerns none. -/
structure Error where
  source : Text
  element : Text
  line? : Option Nat
  fault : Fault
  deriving DecidableEq, Repr

/-- The full message of an error, which starts with its place. -/
def Error.message (error : Error) : Text :=
  let place := placeText error.source (error.line?.map Int.ofNat)
  let withElement :=
    if error.element.isEmpty then place else place ++ " <" ++ error.element ++ ">"
  withElement ++ ": " ++ error.fault.message

end Statechart
end SkillNode
