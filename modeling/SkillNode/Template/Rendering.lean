import SkillNode.Template.Evaluation
import SkillNode.Template.Marker
import SkillNode.Template.Reading
import SkillNode.Text.Line
import SkillNode.Text.Utf8

/-!
# Rendering

A template is taken from a folder, read, checked for names that the context
lacks, and expanded. A name that is lacking is refused before anything is
expanded, whatever part of the template it stands in; of several the least is
named. Expanded text that holds a marker is refused as well.

What the names stand for that every template may use is left out of the values: a
template that looks one up without a value from its context is not expanded.
-/

namespace SkillNode
namespace Template

/-- The values that a template is expanded with, by name. -/
abbrev Context := List (Text × Value)

/-! ## Errors -/

/-- Why a template cannot be rendered. -/
inductive RenderFault
  /-- A folder has no template of the name. -/
  | notFound (folder : Text)
  /-- The template is no text. -/
  | undecodable (fault : Text.Utf8Fault)
  /-- The template cannot be read, on a line. -/
  | malformed (line : Nat)
  /-- A name or part has no value. -/
  | unresolved (line? : Option Nat) (placeholder : Text)
  /-- A marker is left on a line of the expanded text. -/
  | markerLeft (outputLine : Nat) (line? : Option Nat) (marker : Text)
  /-- An operation met a value of a kind it does not work on. -/
  | wrongKind
  /-- Text was to be escaped, but another value was met. -/
  | notText
  /-- A filter or test in a conditional part does not exist. -/
  | unknownOperation
  /-- A number has too many digits to be printed. -/
  | longNumber
  /-- The template is well formed but cannot be made ready. -/
  | obstructed (obstacle : Obstacle)
  /-- A value was given to the name that stands for the template. -/
  | reservedName
  /-- A name that every template may use was looked up, and what it stands for is left out. -/
  | leftOut (name : Text)
  deriving DecidableEq, Repr

/-- The fault of a rendering that an evaluation ends with. -/
def RenderFault.ofFault : Fault → RenderFault
  | .unresolved line lacking => .unresolved (some line) lacking.placeholder
  | .wrongKind => .wrongKind
  | .notText => .notText
  | .unknownOperation => .unknownOperation
  | .longNumber => .longNumber

/-- The fault of a rendering whose template cannot be read. -/
def RenderFault.ofReadFault : ReadFault → RenderFault
  | .malformed line => .malformed line
  | .obstructed obstacle => .obstructed obstacle

/-- Whether the program has an answer to a fault: it tells of what is wrong with a template or a
number, and breaks off at an operation that a value does not take. -/
def RenderFault.isAnswered : RenderFault → Bool
  | .wrongKind | .notText | .unknownOperation | .reservedName | .leftOut _
  | .obstructed .deepLoops | .obstructed .missingConstant => false
  | .notFound _ | .undecodable _ | .malformed _ | .unresolved _ _ | .markerLeft _ _ _
  | .longNumber | .obstructed .longNumber => true

/-- The line of the template that a fault concerns. -/
def RenderFault.line? : RenderFault → Option Nat
  | .malformed line => some line
  | .unresolved line? _ | .markerLeft _ line? _ => line?
  | _ => none

/-- The placeholder that a fault concerns, empty if none. -/
def RenderFault.placeholder : RenderFault → Text
  | .unresolved _ placeholder | .markerLeft _ _ placeholder => placeholder
  | _ => []

/-- What is said of a number of too many digits. -/
def longNumberMessage : Text :=
  "Exceeds the limit (" ++ Text.ofNat Text.maxDigits ++
    " digits) for integer string conversion; use sys.set_int_max_str_digits() to increase the limit"

/-- What is said of a fault. -/
def RenderFault.message : RenderFault → Text
  | .notFound folder => "Template not found in " ++ folder
  | .undecodable fault => fault.message
  | .malformed _ => "Template syntax error"
  | .unresolved _ _ => "Unresolved placeholder"
  | .markerLeft outputLine _ _ => "Placeholder left in output line " ++ Text.ofNat outputLine
  | .wrongKind => "Operation on a value of another kind"
  | .notText => "Only text can be escaped"
  | .unknownOperation => "Unknown filter or test"
  | .longNumber | .obstructed .longNumber => longNumberMessage
  | .obstructed .deepLoops => "Too many loops inside one another"
  | .obstructed .missingConstant => "A constant lacks a part"
  | .reservedName => "A value is given to a name that is taken"
  | .leftOut name => "Nothing is known of the name '" ++ name ++ "'"

/-- A fault and the template it is about: its name if it was not found, its path
otherwise. -/
structure RenderError where
  template : Text
  fault : RenderFault
  deriving DecidableEq, Repr

/-! ## Rendering a text -/

/-- The least of some names in the order of code points. -/
def least? : List Text → Option Text
  | [] => none
  | name :: rest =>
      match least? rest with
      | some other => some (if other < name then other else name)
      | none => some name

/-- The least name that a template looks up and its context lacks. -/
def missingName? (nodes : List Node) (context : Context) : Option Text :=
  least? ((freeNamesOf nodes).filter fun name =>
    !(builtinNames.contains name) && (Value.entry? context name).isNone)

/-- The first name that a template looks up, although what it stands for is left out. -/
def leftOutName? (nodes : List Node) (context : Context) : Option Text :=
  (freeNamesOf nodes).find? fun name =>
    builtinNames.contains name && (Value.entry? context name).isNone

/-- Expand a read template, unless it lacks a name, is given a value for itself, or leaves a
marker. -/
def renderNodes (escaping : Escaping) (source : Text) (nodes : List Node) (context : Context) :
    Except RenderFault Text :=
  match missingName? nodes context with
  | some name => .error (.unresolved (lineOfName? source name) name)
  | none =>
      if (Value.entry? context selfName).isSome then
        .error .reservedName
      else
        match leftOutName? nodes context with
        | some name => .error (.leftOut name)
        | none =>
            match expandAll escaping context nodes with
            | .error fault => .error (.ofFault fault)
            | .ok output =>
                match firstMarker? 1 output with
                | some (line, marker) =>
                    .error (.markerLeft line (lineOfName? source marker) marker)
                | none => .ok output

/-- Read and expand a template held in memory. -/
def renderText (escaping : Escaping) (source : Text) (context : Context) :
    Except RenderFault Text :=
  match readTemplate source with
  | .error fault => .error (.ofReadFault fault)
  | .ok nodes => renderNodes escaping source nodes context

/-! ## Folders -/

/-- A folder of templates: its path as it is printed, and the content of its files
by the components of their paths. -/
structure Folder where
  path : Text
  content? : List Text → Option (Except Text.Utf8Fault Text)

/-- The components of the path that a template name stands for, none if the name
leads out of the folder. -/
def nameParts? (name : Text) : Option (List Text) :=
  let pieces := Text.segments '/' name
  if pieces.contains (".." : Text) then none else some (pieces.filter (· ≠ ("." : Text)))

/-- The path of a template in a folder. -/
def Folder.pathOf (folder : Folder) (parts : List Text) : Text :=
  parts.foldl
    (fun path part => if path.getLast? = some '/' then path ++ part else path ++ "/" ++ part)
    folder.path

/-- Whether the values of a template are escaped: that is so for markup files, by
the end of their name in letters of any case. -/
def isMarkupName (name : Text) : Bool :=
  let small := Text.lower name
  (".html" : Text).isSuffixOf small || (".xml" : Text).isSuffixOf small

/-- Render a template of a folder. -/
def Folder.render (folder : Folder) (name : Text) (context : Context) :
    Except RenderError Text :=
  match (nameParts? name).bind fun parts => (folder.content? parts).map (parts, ·) with
  | none => .error ⟨name, .notFound folder.path⟩
  | some (parts, content) =>
      let path := folder.pathOf parts
      match content with
      | .error fault => .error ⟨path, .undecodable fault⟩
      | .ok source =>
          match renderText (isMarkupName name) (Text.withLineFeeds source) context with
          | .error fault => .error ⟨path, fault⟩
          | .ok output => .ok output

end Template
end SkillNode
