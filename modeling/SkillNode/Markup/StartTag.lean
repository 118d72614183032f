import SkillNode.Markup.Document
import SkillNode.Markup.Entity
import SkillNode.Markup.UriReference

/-!
# Start tags and namespaces

A start tag names an element and gives its attributes. Attributes of the form
`xmlns` bind a default namespace or a namespace prefix for the element and all
inside it; every prefix has to be bound, and no attribute stands twice.
-/

namespace SkillNode
namespace Markup

/-- A name as written: an optional prefix and a local name. -/
structure QualifiedName where
  prefixName? : Option Text
  localName : Text
  deriving DecidableEq, Repr

/-- The bound prefixes with their namespaces, the latest first. The default
namespace is bound to no prefix. -/
abbrev Scope := List (Option Text × Text)

/-- The namespace of the prefix `xml`. -/
def xmlSpace : Text := "http://www.w3.org/XML/1998/namespace"

/-- The namespace of the prefix `xmlns`. -/
def xmlnsSpace : Text := "http://www.w3.org/2000/xmlns/"

/-- The namespace bound to a prefix. -/
def Scope.find? (scope : Scope) (prefixName? : Option Text) : Option Text :=
  if prefixName? = some ("xml" : Text) then
    some xmlSpace
  else
    (List.find? (fun binding => decide (binding.1 = prefixName?)) scope).map (·.2)

/-- An attribute as written, its value already expanded. -/
structure WrittenAttribute where
  name : QualifiedName
  value : Text
  deriving DecidableEq, Repr

/-- A start tag whose names are not resolved yet. -/
structure WrittenTag where
  name : QualifiedName
  /-- Attributes that bind no namespace. -/
  attributes : List WrittenAttribute := []
  /-- Namespaces that the tag binds. -/
  bindings : Scope := []
  deriving DecidableEq, Repr

/-- Whether a namespace may be bound to a prefix; the empty one unbinds the
default namespace only. -/
def mayBind (prefixName? : Option Text) (space : Text) : Bool :=
  if prefixName? = some ("xml" : Text) then
    space = xmlSpace
  else
    prefixName? ≠ some ("xmlns" : Text) && space ≠ xmlSpace && space ≠ xmlnsSpace &&
      (if space.isEmpty then prefixName?.isNone else UriReference.isValid space)

/-- The prefix that an attribute binds, if it is a binding at all. -/
def boundPrefix? (name : QualifiedName) : Option (Option Text) :=
  match name.prefixName? with
  | none => if name.localName = "xmlns" then some none else none
  | some prefixName => if prefixName = "xmlns" then some (some name.localName) else none

namespace WrittenTag

/-- Take an attribute into a tag, unless it is a binding that may not stand. -/
def add? (tag : WrittenTag) (written : WrittenAttribute) : Option WrittenTag :=
  match boundPrefix? written.name with
  | none => some { tag with attributes := tag.attributes ++ [written] }
  | some prefixName? =>
      if mayBind prefixName? written.value && tag.bindings.all (·.1 ≠ prefixName?) then
        some { tag with bindings := (prefixName?, written.value) :: tag.bindings }
      else
        none

end WrittenTag

/-- An attribute with the namespace of its prefix, if that is bound. -/
def WrittenAttribute.resolve? (written : WrittenAttribute) (scope : Scope) : Option Attribute :=
  match written.name.prefixName? with
  | none => some ⟨none, written.name.localName, written.value⟩
  | some prefixName =>
      (scope.find? (some prefixName)).map fun space =>
        ⟨some space, written.name.localName, written.value⟩

/-- The attributes with their namespaces, if every prefix is bound and no two
attributes share namespace and name. -/
def resolveAttributes? (scope : Scope) : List WrittenAttribute → Option (List Attribute)
  | [] => some []
  | written :: rest =>
      match written.resolve? scope, resolveAttributes? scope rest with
      | some first, some others =>
          if others.any fun other => other.space? = first.space? && other.name = first.name then
            none
          else
            some (first :: others)
      | _, _ => none

/-- The largest line that a tag records. -/
def maxLine : Nat := 65535

/-- The tag on a line with all names resolved, if they can be. -/
def WrittenTag.resolve? (tag : WrittenTag) (scope : Scope) (line : Nat) : Option Tag :=
  match resolveAttributes? scope tag.attributes with
  | none => none
  | some attributes =>
      match tag.name.prefixName?, scope.find? tag.name.prefixName? with
      | some _, none => none
      | _, space? =>
          some ⟨space?.filter (!·.isEmpty), tag.name.localName, attributes, min line maxLine⟩

namespace Reader

/-- Take a name with at most one colon inside. -/
def qualifiedName : Reader QualifiedName := do
  let first ← plainName
  if ← accept ":" then
    let second ← plainName
    require (!(← sees ":"))
    return ⟨some first, second⟩
  else
    return ⟨none, first⟩

/-- Take an attribute. -/
def writtenAttribute (declarations : Declarations) : Reader WrittenAttribute := do
  let found ← qualifiedName
  equals
  return ⟨found, ← attributeValue declarations⟩

/-- Whether a start tag ends here. -/
def seesTagEnd : Reader Bool := do return (← sees ">") || (← sees "/>")

/-- Take the attributes of a start tag up to its end. -/
def tagAttributes (declarations : Declarations) : Nat → WrittenTag → Reader WrittenTag
  | 0, _ => stop
  | fuel + 1, tag => do
      if ← seesTagEnd then
        return tag
      else
        let written ← writtenAttribute declarations
        let extended ← ofOption (tag.add? written)
        if ← seesTagEnd then
          return extended
        else
          requireSpaces
          tagAttributes declarations fuel extended

/-- Take a start tag up to its closing bracket, which is left. -/
def writtenTag (declarations : Declarations) : Reader WrittenTag := do
  expect "<"
  let found ← qualifiedName
  let _ ← spaces
  tagAttributes declarations ((← remaining).length + 1) { name := found }

end Reader

end Markup
end SkillNode
