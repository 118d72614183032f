import SkillNode.Markup.Document
import SkillNode.Interface.FieldType
import SkillNode.Text.Blank

/-!
# Outlines

The part of a document that a behaviour description speaks with: the data
elements of the top-level datamodels, the declarations, the states in the order
in which they are visited with their transitions and handlers, and the service
requests. Each item keeps the attributes that matter, as written, and its line.

Everything else in a document is noise: two documents with one outline describe
one behaviour.
-/

namespace SkillNode
namespace Statechart

open Markup (Tag Node Document elementsOf tagsNamed)

/-! ## Element names -/

/-- The root element. -/
def rootTag : Text := "scxml"

/-- A group of data elements. -/
def datamodelTag : Text := "datamodel"

/-- The declaration of a variable. -/
def dataTag : Text := "data"

/-- The elements that make states. -/
def stateTags : List Text := ["state", "parallel", "final"]

/-- The element of a state without successors. -/
def finalTag : Text := "final"

/-- A transition out of a state. -/
def transitionTag : Text := "transition"

/-- An assignment to a variable. -/
def assignTag : Text := "assign"

/-- A request to a service. -/
def requestTag : Text := "ros_service_send_request"

/-- The element that declares an endpoint of a kind. -/
def declarationTag : Interface.Kind → Text
  | .service => "ros_service_client"
  | .topic => "ros_topic_subscriber"

/-- The element that handles what an endpoint of a kind delivers. -/
def handlerTag : Interface.Kind → Text
  | .service => "ros_service_handle_response"
  | .topic => "ros_topic_callback"

/-- The attribute that names the service or topic of a declaration. -/
def rosNameAttribute : Interface.Kind → Text
  | .service => "service_name"
  | .topic => "topic"

/-- The kind whose tag of some sort is a name. -/
def kindOf? (tagOf : Interface.Kind → Text) (name : Text) : Option Interface.Kind :=
  if name = tagOf .service then some .service
  else if name = tagOf .topic then some .topic
  else none

/-! ## Items -/

/-- A data element. -/
structure DataItem where
  line : Nat
  id? : Option Text
  type? : Option Text
  expr? : Option Text
  deriving DecidableEq, Repr

/-- A declaration of a service client or topic subscriber. -/
structure DeclarationItem where
  line : Nat
  kind : Interface.Kind
  name? : Option Text
  rosName? : Option Text
  type? : Option Text
  deriving DecidableEq, Repr

/-- An assignment inside a handler. -/
structure AssignItem where
  line : Nat
  location? : Option Text
  expr? : Option Text
  deriving DecidableEq, Repr

/-- A handler of responses or messages. -/
structure HandlerItem where
  line : Nat
  kind : Interface.Kind
  name? : Option Text
  target? : Option Text
  assigns : List AssignItem
  deriving DecidableEq, Repr

/-- A transition as written. -/
structure TransitionItem where
  event? : Option Text
  target? : Option Text
  deriving DecidableEq, Repr

/-- A state, with the trimmed id of the state around it. -/
structure StateItem where
  line : Nat
  tagName : Text
  id? : Option Text
  parent? : Option Text
  transitions : List TransitionItem
  handlers : List HandlerItem
  deriving DecidableEq, Repr

/-- A request to a service. -/
structure RequestItem where
  line : Nat
  name? : Option Text
  deriving DecidableEq, Repr

/-- What a document says about a behaviour. -/
structure Outline where
  line : Nat
  rootName : Text
  name? : Option Text
  initial? : Option Text
  data : List DataItem
  declarations : List DeclarationItem
  states : List StateItem
  requests : List RequestItem
  deriving DecidableEq, Repr

/-! ## Outlines of documents -/

/-- The item of a data element. -/
def DataItem.ofTag (tag : Tag) : DataItem where
  line := tag.line
  id? := tag.attribute? "id"
  type? := tag.attribute? "type"
  expr? := tag.attribute? "expr"

/-- The data elements of the datamodels among nodes. -/
def dataItems (nodes : List Node) : List DataItem :=
  (elementsOf nodes).flatMap fun (tag, children) =>
    if tag.name = datamodelTag then
      ((elementsOf children).filter (·.1.name = dataTag)).map (DataItem.ofTag ·.1)
    else
      []

/-- The item of a declaration, if a tag is one. -/
def DeclarationItem.ofTag? (tag : Tag) : Option DeclarationItem :=
  (kindOf? declarationTag tag.name).map fun kind =>
    { line := tag.line
      kind := kind
      name? := tag.attribute? "name"
      rosName? := tag.attribute? (rosNameAttribute kind)
      type? := tag.attribute? "type" }

/-- The declarations among nodes. -/
def declarationItems (nodes : List Node) : List DeclarationItem :=
  (elementsOf nodes).filterMap (DeclarationItem.ofTag? ·.1)

/-- The item of an assignment. -/
def AssignItem.ofTag (tag : Tag) : AssignItem where
  line := tag.line
  location? := tag.attribute? "location"
  expr? := tag.attribute? "expr"

/-- The item of a handler with all assignments below it, if a tag is one. -/
def HandlerItem.ofElement? (tag : Tag) (children : List Node) : Option HandlerItem :=
  (kindOf? handlerTag tag.name).map fun kind =>
    { line := tag.line
      kind := kind
      name? := tag.attribute? "name"
      target? := tag.attribute? "target"
      assigns := (tagsNamed assignTag children).map AssignItem.ofTag }

/-- The transitions among nodes. -/
def transitionItems (nodes : List Node) : List TransitionItem :=
  ((elementsOf nodes).filter (·.1.name = transitionTag)).map fun (tag, _) =>
    ⟨tag.attribute? "event", tag.attribute? "target"⟩

/-- The item of a state, given the id around it. -/
def StateItem.ofElement (parent? : Option Text) (tag : Tag) (children : List Node) : StateItem where
  line := tag.line
  tagName := tag.name
  id? := tag.attribute? "id"
  parent? := parent?
  transitions := transitionItems children
  handlers := (elementsOf children).filterMap fun (tag, children) =>
    HandlerItem.ofElement? tag children

mutual

/-- The states that a node makes, itself before those inside. -/
def stateItemsOfNode (parent? : Option Text) : Node → List StateItem
  | .element tag children =>
      if stateTags.contains tag.name then
        StateItem.ofElement parent? tag children ::
          stateItems ((tag.attribute? "id").map Text.trim) children
      else
        []
  | .text _ | .instruction _ | .reference _ => []

/-- The states that nodes make, each before those inside it. -/
def stateItems (parent? : Option Text) : List Node → List StateItem
  | [] => []
  | node :: rest => stateItemsOfNode parent? node ++ stateItems parent? rest

end

/-- The requests at any depth. -/
def requestItems (nodes : List Node) : List RequestItem :=
  (tagsNamed requestTag nodes).map fun tag => ⟨tag.line, tag.attribute? "name"⟩

/-- The outline of a document. -/
def Outline.ofDocument (document : Document) : Outline where
  line := document.root.line
  rootName := document.root.name
  name? := document.root.attribute? "name"
  initial? := document.root.attribute? "initial"
  data := dataItems document.children
  declarations := declarationItems document.children
  states := stateItems none document.children
  requests := requestItems document.children

end Statechart
end SkillNode
