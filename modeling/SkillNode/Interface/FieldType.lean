import SkillNode.Text.Letter
import SkillNode.Text.Blank

/-!
# Field types

The types of message fields as the generator sees them: fifteen primitive types
by name, and compound for nested messages and arrays.
-/

namespace SkillNode
namespace Interface

/-- The type of a message field. -/
inductive FieldType
  | bool
  | byte
  | char
  | int8
  | int16
  | int32
  | int64
  | uint8
  | uint16
  | uint32
  | uint64
  | float32
  | float64
  | string
  | wstring
  | compound
  deriving DecidableEq, Repr

namespace FieldType

/-- The name of a type. -/
def name : FieldType → Text
  | .bool => "bool"
  | .byte => "byte"
  | .char => "char"
  | .int8 => "int8"
  | .int16 => "int16"
  | .int32 => "int32"
  | .int64 => "int64"
  | .uint8 => "uint8"
  | .uint16 => "uint16"
  | .uint32 => "uint32"
  | .uint64 => "uint64"
  | .float32 => "float32"
  | .float64 => "float64"
  | .string => "string"
  | .wstring => "wstring"
  | .compound => "compound"

/-- The types that a declaration can name. -/
def primitives : List FieldType :=
  [.bool, .byte, .char, .int8, .int16, .int32, .int64, .uint8, .uint16, .uint32, .uint64,
    .float32, .float64, .string, .wstring]

/-- A declared type without the bound that may follow it. -/
def withoutBound : Text → Text
  | [] => []
  | '<' :: '=' :: _ => []
  | c :: rest => c :: withoutBound rest

/-- The type that a trimmed declaration stands for. Brackets make an array and a
slash names a message of another package; a name with a capital is a message of
the same package. -/
def ofTrimmed? (declared : Text) : Option FieldType :=
  if '[' ∈ declared || '/' ∈ declared then
    some .compound
  else
    let base := withoutBound declared
    match primitives.find? (·.name = base) with
    | some type => some type
    | none => if (base.head?.map Text.isCapital).getD false then some .compound else none

/-- The type that a declaration stands for, if it is known. -/
def ofDeclared? (declared : Text) : Option FieldType := ofTrimmed? (Text.trim declared)

/-- Whether a type is the plain string type. -/
def isString (type : FieldType) : Bool := type = .string

end FieldType

/-- The parts of an interface description that hold fields. -/
inductive SectionKind
  | request
  | response
  | message
  deriving DecidableEq, Repr

/-- The name of a section. -/
def SectionKind.name : SectionKind → Text
  | .request => "request"
  | .response => "response"
  | .message => "message"

/-- Services are called, topics are subscribed to. -/
inductive Kind
  | service
  | topic
  deriving DecidableEq, Repr

namespace Kind

/-- The name of a kind of interface. -/
def name : Kind → Text
  | .service => "service"
  | .topic => "topic"

/-- The section whose fields a response handler receives. -/
def delivered : Kind → SectionKind
  | .service => .response
  | .topic => .message

end Kind

end Interface
end SkillNode
