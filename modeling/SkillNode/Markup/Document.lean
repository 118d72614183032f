import SkillNode.Text.Basic

/-!
# Documents

A read document is a tree of nodes. Elements carry a tag: their name without
prefix, the namespace of the name, their attributes and the line on which the
start tag ends. Comments are not kept.

Whoever reads a tree sees elements by local name and attributes without a
namespace; text, processing instructions and entity references are noise.
-/

namespace SkillNode
namespace Markup

/-- An attribute, with the namespace of its name if the name has one. -/
structure Attribute where
  space? : Option Text
  name : Text
  value : Text
  deriving DecidableEq, Repr

/-- What a start tag says. -/
structure Tag where
  space? : Option Text
  name : Text
  attributes : List Attribute
  line : Nat
  deriving DecidableEq, Repr

/-- The value of an attribute without a namespace. -/
def Tag.attribute? (tag : Tag) (name : Text) : Option Text :=
  (tag.attributes.find? fun candidate =>
    candidate.space?.isNone && candidate.name = name).map Attribute.value

/-- A node of a document. -/
inductive Node
  | element (tag : Tag) (children : List Node)
  | text (content : Text)
  | instruction (target : Text)
  | reference (entity : Text)
  deriving Repr

/-- A document is its root element. -/
structure Document where
  root : Tag
  children : List Node
  deriving Repr

/-- The elements among nodes, each with its children. -/
def elementsOf (nodes : List Node) : List (Tag × List Node) :=
  nodes.filterMap fun
    | .element tag children => some (tag, children)
    | _ => none

mutual

/-- The tags of a node and of the elements below it, in document order. -/
def Node.tags : Node → List Tag
  | .element tag children => tag :: tagsOf children
  | .text _ | .instruction _ | .reference _ => []

/-- The tags of all elements at any depth, in document order. -/
def tagsOf : List Node → List Tag
  | [] => []
  | node :: rest => node.tags ++ tagsOf rest

end

@[simp] theorem tagsOf_append (left right : List Node) :
    tagsOf (left ++ right) = tagsOf left ++ tagsOf right := by
  induction left with
  | nil => simp [tagsOf]
  | cons node rest restHypothesis => simp [tagsOf, restHypothesis]

/-- The tags with a local name at any depth, in document order. -/
def tagsNamed (name : Text) (nodes : List Node) : List Tag :=
  (tagsOf nodes).filter (·.name = name)

end Markup
end SkillNode
