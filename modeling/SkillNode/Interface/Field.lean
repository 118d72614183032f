import SkillNode.Interface.FieldType
import SkillNode.Text.Line
import SkillNode.Log

/-!
# Field lines

A section of an interface description declares one field per line: a type and a
name. Comments start at a number sign outside quotes; blank lines and constants
declare nothing.

A section with a line of another form is refused at that line.
-/

namespace SkillNode
namespace Interface

/-- A declared field. -/
structure Field where
  name : Text
  type : Text
  deriving DecidableEq, Repr

/-- The type of a field, if its declared type is known. -/
def Field.fieldType? (field : Field) : Option FieldType := FieldType.ofDeclared? field.type

/-! ## Comments -/

/-- A character that opens and closes quoted text. -/
def isQuote (c : Char) : Bool := c = '"' || c = '\''

/-- Cut at the first number sign outside quotes, inside the quote that is open at
the start, if any. -/
def stripCommentWithin : Option Char → Text → Text
  | _, [] => []
  | some quote, c :: rest =>
      c :: stripCommentWithin (if c = quote then none else some quote) rest
  | none, c :: rest =>
      if isQuote c then
        c :: stripCommentWithin (some c) rest
      else if c = '#' then
        []
      else
        c :: stripCommentWithin none rest

/-- A line without its comment. -/
def stripComment (line : Text) : Text := stripCommentWithin none line

/-- What a line says: its text without comment and without blanks at the ends. -/
def lineContent (line : Text) : Text := Text.trim (stripComment line)

/-! ## Errors -/

/-- Why an interface description is refused. -/
inductive Fault
  /-- A line has a type only. -/
  | missingName (content : Text)
  /-- A field has a name of another form than letters, digits and underscores. -/
  | badFieldName (name : Text)
  /-- A service description does not have exactly one separator. -/
  | separatorCount (found : Nat)
  /-- Nothing stands at a path. -/
  | pathNotFound
  /-- A file has neither of the two suffixes. -/
  | unsupportedSuffix (found : Text)
  deriving DecidableEq, Repr

/-- The line that separates the sections of a service description. -/
def separatorText : Text := "---"

/-- What is said of a fault. -/
def Fault.message : Fault → Text
  | .missingName content => "Expected '<type> <name>', got '" ++ content ++ "'"
  | .badFieldName name => "Invalid field name '" ++ name ++ "'"
  | .separatorCount found =>
      "Service description needs exactly one '" ++ separatorText ++ "' separator, found " ++
        Text.ofNat found
  | .pathNotFound => "Interface path not found"
  | .unsupportedSuffix found => "Unsupported interface file type '" ++ found ++ "'"

/-- A fault and where it was found. -/
structure Error where
  source : Text
  line? : Option Int
  fault : Fault
  deriving DecidableEq, Repr

/-- The full message of an error, which starts with its place. -/
def Error.message (error : Error) : Text :=
  placeText error.source error.line? ++ ": " ++ error.fault.message

/-! ## Reading lines -/

/-- A name of a field: a letter, then letters, digits and underscores. -/
def isFieldName : Text → Bool
  | [] => false
  | c :: rest => c.isAlpha && rest.all Text.isAsciiWord

/-- The field that the content of a line declares, if any. A name that is given a
value is a constant and declares none. -/
def Field.ofContent (content : Text) : Except Fault (Option Field) :=
  match Text.firstWord? content with
  | none => .ok none
  | some (type, rest) =>
      match Text.firstWord? rest with
      | none => .error (.missingName content)
      | some (name, remainder) =>
          if '=' ∈ name || remainder.head? = some '=' then
            .ok none
          else if isFieldName name then
            .ok (some ⟨name, type⟩)
          else
            .error (.badFieldName name)

/-- The field that a line declares, if any. -/
def Field.ofLine (line : Text) : Except Fault (Option Field) :=
  Field.ofContent (lineContent line)

/-- The fields that lines declare, in order; the first faulty line is reported by
its number, counted from that of the first line. -/
def fieldsOfLines (source : Text) (number : Int) : List Text → Except Error (List Field)
  | [] => .ok []
  | line :: rest =>
      match Field.ofLine line with
      | .error fault => .error ⟨source, some number, fault⟩
      | .ok declared =>
          match fieldsOfLines source (number + 1) rest with
          | .error error => .error error
          | .ok fields => .ok (declared.toList ++ fields)

/-- The fields that a text declares. -/
def readFields (text source : Text) (firstLine : Int) : Except Error (List Field) :=
  fieldsOfLines source firstLine (Text.lines text)

end Interface
end SkillNode
