import SkillNode.Proofs.Statechart.Acceptance
import SkillNode.Proofs.Statechart.AlikeOutlines

/-!
# Documents with the same content

The content of a document: the attributes of its root that matter, its data elements and
its declarations in order, the forest of its states, each with its transitions, its
handlers and the states inside in order, and the set of names that are requested.

Documents with the same content have alike outlines, hence one model or an error each.
-/

namespace SkillNode
namespace Statechart

open Markup (Tag Node Document elementsOf)

/-! ## Forests of states -/

/-- A state as a tree: its own tag and id, its transitions and handlers, and the states
inside. Handlers stand without their lines. -/
inductive StateForm
  | mk (tagName : Text) (id? : Option Text) (transitions : List TransitionItem)
      (handlers : List HandlerItem) (substates : List StateForm)

mutual

/-- Whether two states are the same tree. -/
def StateForm.decEq : (left right : StateForm) → Decidable (left = right)
  | .mk tagName id? transitions handlers substates,
    .mk otherTag otherId? otherTransitions otherHandlers otherSubstates =>
      have := decEqForms substates otherSubstates
      decidable_of_iff
        (tagName = otherTag ∧ id? = otherId? ∧ transitions = otherTransitions ∧
          handlers = otherHandlers ∧ substates = otherSubstates)
        (by rw [StateForm.mk.injEq])

/-- Whether two forests of states are the same. -/
def decEqForms : (left right : List StateForm) → Decidable (left = right)
  | [], [] => isTrue rfl
  | [], _ :: _ => isFalse (by simp)
  | _ :: _, [] => isFalse (by simp)
  | form :: rest, other :: others =>
      have := form.decEq other
      have := decEqForms rest others
      decidable_of_iff (form = other ∧ rest = others) (by rw [List.cons.injEq])

end

instance : DecidableEq StateForm := StateForm.decEq

/-- The handlers among nodes, without their lines. -/
def handlerForms (nodes : List Node) : List HandlerItem :=
  ((elementsOf nodes).filterMap fun (tag, children) => HandlerItem.ofElement? tag children).map
    HandlerItem.unplaced

mutual

/-- The state that a node is, if it is one. -/
def stateFormsOfNode : Node → List StateForm
  | .element tag children =>
      if stateTags.contains tag.name then
        [.mk tag.name (tag.attribute? "id") (transitionItems children) (handlerForms children)
          (stateForms children)]
      else
        []
  | .text _ | .instruction _ | .reference _ => []

/-- The forest of states that nodes make. -/
def stateForms : List Node → List StateForm
  | [] => []
  | node :: rest => stateFormsOfNode node ++ stateForms rest

end

mutual

/-- The items of a state and of the states inside it, in the order of visits. -/
def StateForm.items (parent? : Option Text) : StateForm → List StateItem
  | .mk tagName id? transitions handlers substates =>
      ⟨0, tagName, id?, parent?, transitions, handlers⟩ ::
        itemsOfForms (id?.map Text.trim) substates

/-- The items of a forest of states in the order of visits. -/
def itemsOfForms (parent? : Option Text) : List StateForm → List StateItem
  | [] => []
  | form :: rest => form.items parent? ++ itemsOfForms parent? rest

end

theorem itemsOfForms_append (parent? : Option Text) (left right : List StateForm) :
    itemsOfForms parent? (left ++ right) =
      itemsOfForms parent? left ++ itemsOfForms parent? right := by
  induction left with
  | nil => simp [itemsOfForms]
  | cons form rest restHypothesis => simp [itemsOfForms, restHypothesis]

mutual

theorem unplaced_stateItemsOfNode (parent? : Option Text) :
    (node : Node) → (stateItemsOfNode parent? node).map StateItem.unplaced =
      itemsOfForms parent? (stateFormsOfNode node)
  | .element tag children => by
      rw [stateItemsOfNode, stateFormsOfNode]
      split
      · rw [List.map_cons, unplaced_stateItems _ children, itemsOfForms, itemsOfForms,
          List.append_nil, StateForm.items]
        rfl
      · rfl
  | .text _ | .instruction _ | .reference _ => by
      simp [stateItemsOfNode, stateFormsOfNode, itemsOfForms]

/-- The states of an outline, without their lines, are told by the forest of states. -/
theorem unplaced_stateItems (parent? : Option Text) :
    (nodes : List Node) → (stateItems parent? nodes).map StateItem.unplaced =
      itemsOfForms parent? (stateForms nodes)
  | [] => by simp [stateItems, stateForms, itemsOfForms]
  | node :: rest => by
      rw [stateItems, stateForms, List.map_append, itemsOfForms_append,
        unplaced_stateItemsOfNode parent? node, unplaced_stateItems parent? rest]

end

/-! ## Content -/

/-- Two documents with the same content. -/
structure SameContent (first second : Document) : Prop where
  root : first.root.name = second.root.name
  name : first.root.attribute? "name" = second.root.attribute? "name"
  initial : first.root.attribute? "initial" = second.root.attribute? "initial"
  data : (dataItems first.children).map DataItem.unplaced =
    (dataItems second.children).map DataItem.unplaced
  declarations : (declarationItems first.children).map DeclarationItem.unplaced =
    (declarationItems second.children).map DeclarationItem.unplaced
  states : stateForms first.children = stateForms second.children
  requests : ∀ name?, name? ∈ (requestItems first.children).map RequestItem.name? ↔
    name? ∈ (requestItems second.children).map RequestItem.name?

/-- Sets of names are compared as lists that include each other. -/
instance (first second : Document) : Decidable (SameContent first second) :=
  decidable_of_iff
    (first.root.name = second.root.name ∧
      first.root.attribute? "name" = second.root.attribute? "name" ∧
      first.root.attribute? "initial" = second.root.attribute? "initial" ∧
      (dataItems first.children).map DataItem.unplaced =
        (dataItems second.children).map DataItem.unplaced ∧
      (declarationItems first.children).map DeclarationItem.unplaced =
        (declarationItems second.children).map DeclarationItem.unplaced ∧
      stateForms first.children = stateForms second.children ∧
      (requestItems first.children).map RequestItem.name? ⊆
        (requestItems second.children).map RequestItem.name? ∧
      (requestItems second.children).map RequestItem.name? ⊆
        (requestItems first.children).map RequestItem.name?)
    ⟨fun ⟨root, name, initial, data, declarations, states, included, including⟩ =>
      ⟨root, name, initial, data, declarations, states,
        fun _ => ⟨fun member => included member, fun member => including member⟩⟩,
     fun same => ⟨same.root, same.name, same.initial, same.data, same.declarations, same.states,
      fun _ => (same.requests _).mp, fun _ => (same.requests _).mpr⟩⟩

namespace SameContent

variable {first second third : Document}

theorem trans (left : SameContent first second) (right : SameContent second third) :
    SameContent first third where
  root := left.root.trans right.root
  name := left.name.trans right.name
  initial := left.initial.trans right.initial
  data := left.data.trans right.data
  declarations := left.declarations.trans right.declarations
  states := left.states.trans right.states
  requests name? := (left.requests name?).trans (right.requests name?)

theorem alike (same : SameContent first second) :
    (Outline.ofDocument first).Alike (Outline.ofDocument second) where
  rootName := same.root
  name := same.name
  initial := same.initial
  data := same.data
  declarations := same.declarations
  states := by
    change (stateItems none first.children).map StateItem.unplaced =
      (stateItems none second.children).map StateItem.unplaced
    rw [unplaced_stateItems, unplaced_stateItems, same.states]
  requests := same.requests

/-- Documents of one source with the same content have one model or are both refused. -/
theorem outcomes
    {source : Text}
    {firstRun secondRun : Run RawModel}
    (same : SameContent first second)
    (readsFirst : IsReading source first firstRun)
    (readsSecond : IsReading source second secondRun) :
    (∃ model, firstRun.outcome = .ok model ∧ secondRun.outcome = .ok model) ∨
      ∃ error other, firstRun.outcome = .error (.statechart error) ∧
        secondRun.outcome = .error (.statechart other) := by
  have sameModel : modelOf source first = modelOf source second := same.alike.model ..
  have bothAccepted : complaintsOf source first = [] ↔ complaintsOf source second = [] :=
    same.alike.complaints_eq_nil_iff ..
  rw [readsFirst.outcome_eq, readsSecond.outcome_eq, sameModel]
  cases ofFirst : complaintsOf source first with
  | nil =>
      rw [bothAccepted.mp ofFirst]
      exact .inl ⟨_, rfl, rfl⟩
  | cons error later =>
      cases ofSecond : complaintsOf source second with
      | nil => simp [bothAccepted.mpr ofSecond] at ofFirst
      | cons other others => exact .inr ⟨error, other, rfl, rfl⟩

end SameContent

end Statechart
end SkillNode
