import SkillNode.Text.Letter
import SkillNode.Text.Blank

/-!
# Names

How the names of a behaviour description become names of the generated code:
snake case for nodes and include files, identifiers for members, capitalised
words for methods and classes.

The class name of a skill is made of its ASCII words; a skill without a usable
word has none.
-/

namespace SkillNode
namespace Naming

/-- Put an underscore before every ASCII capital but one at the very start. -/
def markCapitals : Text → Text
  | [] => []
  | c :: rest => c :: rest.flatMap fun d => if d.isUpper then ['_', d] else [d]

/-- Snake case: capitals marked by underscores, then all in small letters. -/
def snakeCase (name : Text) : Text := Text.lower (markCapitals name)

/-- Replace every run of characters that no name may hold by an underscore. -/
def underscoreRuns (inRun : Bool) : Text → Text
  | [] => []
  | c :: rest =>
      if Text.isWordCharacter c then
        c :: underscoreRuns false rest
      else if inRun then
        underscoreRuns true rest
      else
        '_' :: underscoreRuns true rest

/-- Put an underscore before a leading digit. -/
def guardDigit : Text → Text
  | [] => []
  | c :: rest => if Text.isDigit c then '_' :: c :: rest else c :: rest

/-- The identifier that stands for a name: runs of other characters become
underscores, none is kept at the ends, and a leading digit is guarded by one. -/
def identifier (name : Text) : Text :=
  guardDigit (Text.trimChar '_' (underscoreRuns false name))

/-- The words between underscores, each with a capital, run together. -/
def pascalCase (name : Text) : Text :=
  (Text.segments '_' name).flatMap Text.capitalize

/-! ## Class names -/

/-- The runs of ASCII letters and digits of a name. -/
def asciiWords (name : Text) : List Text :=
  Text.segments ' ' (name.map fun c => if c.isAlphanum then c else ' ')

/-- The ending that every class of a skill has. -/
def classSuffix : Text := "Skill"

/-- The words of a skill name, each with a capital, run together. -/
def classStem (name : Text) : Text := (asciiWords name).flatMap Text.capitalize

/-- The class of a skill: its words run together, ending in the class suffix. It
is none for a name without words or with a leading digit. -/
def className? (name : Text) : Option Text :=
  match classStem name with
  | [] => none
  | c :: rest =>
      if c.isDigit then
        none
      else if classSuffix.isSuffixOf (c :: rest) then
        some (c :: rest)
      else
        some (c :: rest ++ classSuffix)

/-- What is said of a skill name without a class. -/
def unusableMessage (name : Text) : Text :=
  "Skill name '" ++ name ++ "' is not usable as a C++ class name"

/-! ## Names with slashes -/

/-- The non-empty segments of a service or topic name. -/
def rosSegments (name : Text) : List Text := Text.segments '/' (Text.trim name)

/-- Split an interface identifier into package and type at its last slash; the
folder of the long form is no part of the package. -/
def splitInterfaceId (identifier : Text) : Text × Text :=
  let (package, typeName) := Text.splitLast '/' identifier
  match Text.beforeSuffix? "/srv" package, Text.beforeSuffix? "/msg" package with
  | some short, _ => (short, typeName)
  | none, some short => (short, typeName)
  | none, none => (package, typeName)

/-- The datamodel variable that a response field belongs to by its name. -/
def variableOfField (field : Text) : Text := "m_" ++ field

end Naming
end SkillNode
