import SkillNode.Statechart.Outline
import Mathlib.Data.List.Basic

/-!
# Trees of documents

Which elements an outline is made of, said of the tree itself: elements at some depth, and
states that are reached through states only. The items of an outline are exactly those of
these elements.
-/

namespace SkillNode
namespace Statechart

open Markup (Tag Node elementsOf tagsOf tagsNamed)

/-- The tag of an element at some depth among nodes. -/
inductive Below : List Node → Tag → Prop
  | here {nodes : List Node} {tag : Tag} {children : List Node} :
      .element tag children ∈ nodes → Below nodes tag
  | deeper {nodes : List Node} {outer tag : Tag} {children : List Node} :
      .element outer children ∈ nodes → Below children tag → Below nodes tag

/-- A state with what is in it, reached from nodes through states only. -/
inductive Reached : List Node → Tag → List Node → Prop
  | here {nodes : List Node} {tag : Tag} {children : List Node} :
      .element tag children ∈ nodes → tag.name ∈ stateTags → Reached nodes tag children
  | deeper {nodes : List Node} {outer tag : Tag} {inner children : List Node} :
      .element outer inner ∈ nodes → outer.name ∈ stateTags → Reached inner tag children →
        Reached nodes tag children

/-! ## Elements at some depth -/

theorem mem_elementsOf {nodes children : List Node} {tag : Tag} :
    (tag, children) ∈ elementsOf nodes ↔ .element tag children ∈ nodes := by
  unfold elementsOf
  rw [List.mem_filterMap]
  constructor
  · rintro ⟨node, member, isElement⟩
    cases node <;> simp at isElement
    obtain ⟨rfl, rfl⟩ := isElement
    exact member
  · intro member
    exact ⟨_, member, rfl⟩

theorem Below.mono
    {nodes others : List Node}
    {tag : Tag}
    (below : Below nodes tag)
    (included : ∀ node ∈ nodes, node ∈ others) :
    Below others tag := by
  cases below with
  | here member => exact .here (included _ member)
  | deeper member inside => exact .deeper (included _ member) inside

mutual

theorem below_of_mem_tags {tag : Tag} :
    (node : Node) → tag ∈ node.tags → Below [node] tag
  | .element outer children, member => by
      rw [Node.tags, List.mem_cons] at member
      rcases member with rfl | inside
      · exact .here (List.mem_singleton.mpr rfl)
      · exact .deeper (List.mem_singleton.mpr rfl) (below_of_mem_tagsOf children inside)
  | .text _, member | .instruction _, member | .reference _, member => by cases member

theorem below_of_mem_tagsOf {tag : Tag} :
    (nodes : List Node) → tag ∈ tagsOf nodes → Below nodes tag
  | [], member => by cases member
  | node :: rest, member => by
      rw [tagsOf, List.mem_append] at member
      rcases member with first | later
      · exact (below_of_mem_tags node first).mono (by simp)
      · exact (below_of_mem_tagsOf rest later).mono fun _ => List.mem_cons_of_mem node

end

theorem mem_tagsOf_iff_exists {nodes : List Node} {tag : Tag} :
    tag ∈ tagsOf nodes ↔ ∃ node ∈ nodes, tag ∈ node.tags := by
  induction nodes with
  | nil => simp [tagsOf]
  | cons node rest restHypothesis => simp [tagsOf, restHypothesis]

/-- The tags at any depth are those of the elements at some depth. -/
theorem mem_tagsOf_iff {nodes : List Node} {tag : Tag} : tag ∈ tagsOf nodes ↔ Below nodes tag := by
  refine ⟨below_of_mem_tagsOf nodes, fun below => ?_⟩
  induction below with
  | here isNode => exact mem_tagsOf_iff_exists.mpr ⟨_, isNode, by simp [Node.tags]⟩
  | deeper isNode _ inside =>
      exact mem_tagsOf_iff_exists.mpr ⟨_, isNode, by simp [Node.tags, inside]⟩

theorem mem_tagsNamed_iff {name : Text} {nodes : List Node} {tag : Tag} :
    tag ∈ tagsNamed name nodes ↔ Below nodes tag ∧ tag.name = name := by
  simp [tagsNamed, mem_tagsOf_iff]

/-! ## States -/

theorem Reached.mono
    {nodes others children : List Node}
    {tag : Tag}
    (reached : Reached nodes tag children)
    (included : ∀ node ∈ nodes, node ∈ others) :
    Reached others tag children := by
  cases reached with
  | here member isState => exact .here (included _ member) isState
  | deeper member isState inside => exact .deeper (included _ member) isState inside

mutual

theorem reached_of_mem_stateItemsOfNode {parent? : Option Text} {item : StateItem} :
    (node : Node) → item ∈ stateItemsOfNode parent? node →
      ∃ outer? tag children, Reached [node] tag children ∧
        item = StateItem.ofElement outer? tag children
  | .element tag children, member => by
      rw [stateItemsOfNode] at member
      split at member
      · next isState =>
          have isState : tag.name ∈ stateTags := List.contains_iff_mem.mp isState
          have isNode : Node.element tag children ∈ [.element tag children] :=
            List.mem_singleton.mpr rfl
          rcases List.mem_cons.mp member with rfl | inside
          · exact ⟨_, tag, children, .here isNode isState, rfl⟩
          · obtain ⟨outer?, inner, grandchildren, reached, isItem⟩ :=
              reached_of_mem_stateItems children inside
            exact ⟨outer?, inner, grandchildren, .deeper isNode isState reached, isItem⟩
      · cases member
  | .text _, member | .instruction _, member | .reference _, member => by
      simp [stateItemsOfNode] at member

/-- Every state of an outline is reached. -/
theorem reached_of_mem_stateItems {parent? : Option Text} {item : StateItem} :
    (nodes : List Node) → item ∈ stateItems parent? nodes →
      ∃ outer? tag children, Reached nodes tag children ∧
        item = StateItem.ofElement outer? tag children
  | [], member => by simp [stateItems] at member
  | node :: rest, member => by
      rw [stateItems, List.mem_append] at member
      rcases member with first | later
      · obtain ⟨outer?, tag, children, reached, isItem⟩ :=
          reached_of_mem_stateItemsOfNode node first
        exact ⟨outer?, tag, children, reached.mono (by simp), isItem⟩
      · obtain ⟨outer?, tag, children, reached, isItem⟩ := reached_of_mem_stateItems rest later
        exact ⟨outer?, tag, children, reached.mono fun _ => List.mem_cons_of_mem node, isItem⟩

end

theorem mem_stateItems_of_mem
    {parent? : Option Text}
    {nodes : List Node}
    {node : Node}
    {item : StateItem}
    (isNode : node ∈ nodes)
    (member : item ∈ stateItemsOfNode parent? node) :
    item ∈ stateItems parent? nodes := by
  induction nodes with
  | nil => cases isNode
  | cons first rest restHypothesis =>
      rw [stateItems, List.mem_append]
      rcases List.mem_cons.mp isNode with rfl | later
      · exact .inl member
      · exact .inr (restHypothesis later)

/-- Every reached state is in the outline, under the id of the state around it. -/
theorem mem_stateItems_of_reached
    {nodes children : List Node}
    {tag : Tag}
    (reached : Reached nodes tag children)
    (parent? : Option Text) :
    ∃ outer?, StateItem.ofElement outer? tag children ∈ stateItems parent? nodes := by
  induction reached generalizing parent? with
  | here isNode isState =>
      refine ⟨parent?, mem_stateItems_of_mem isNode ?_⟩
      rw [stateItemsOfNode, if_pos (List.contains_iff_mem.mpr isState)]
      exact List.mem_cons_self ..
  | @deeper nodes outer tag inner children isNode isState _ inside =>
      obtain ⟨outer?, member⟩ := inside ((outer.attribute? "id").map Text.trim)
      refine ⟨outer?, mem_stateItems_of_mem isNode ?_⟩
      rw [stateItemsOfNode, if_pos (List.contains_iff_mem.mpr isState)]
      exact List.mem_cons_of_mem _ member

/-! ## Other items -/

/-- The data elements of an outline are those in the datamodels among the nodes. -/
theorem mem_dataItems_iff {nodes : List Node} {item : DataItem} :
    item ∈ dataItems nodes ↔
      ∃ group members tag children,
        Node.element group members ∈ nodes ∧ group.name = datamodelTag ∧
          Node.element tag children ∈ members ∧ tag.name = dataTag ∧ DataItem.ofTag tag = item := by
  unfold dataItems
  rw [List.mem_flatMap]
  constructor
  · rintro ⟨⟨group, members⟩, isGroup, member⟩
    dsimp only at member
    split at member
    · next isDatamodel =>
        obtain ⟨⟨tag, children⟩, isData, rfl⟩ := List.mem_map.mp member
        rw [List.mem_filter, mem_elementsOf, decide_eq_true_eq] at isData
        exact ⟨group, members, tag, children, mem_elementsOf.mp isGroup, isDatamodel, isData.1,
          isData.2, rfl⟩
    · cases member
  · rintro ⟨group, members, tag, children, isGroup, isDatamodel, isChild, isData, rfl⟩
    refine ⟨(group, members), mem_elementsOf.mpr isGroup, ?_⟩
    dsimp only
    rw [if_pos isDatamodel]
    refine List.mem_map.mpr ⟨(tag, children), ?_, rfl⟩
    rw [List.mem_filter, mem_elementsOf, decide_eq_true_eq]
    exact ⟨isChild, isData⟩

theorem kindOf?_eq_some_iff
    {tagOf : Interface.Kind → Text}
    (distinct : tagOf .service ≠ tagOf .topic)
    {name : Text}
    {kind : Interface.Kind} :
    kindOf? tagOf name = some kind ↔ name = tagOf kind := by
  unfold kindOf?
  split
  · next isService => cases kind <;> simp [isService, distinct]
  · next notService =>
      split
      · next isTopic => cases kind <;> simp [isTopic, distinct.symm]
      · next notTopic => cases kind <;> simp [notService, notTopic]

/-- The declarations among nodes in order, each with the kind that it declares. -/
def declarationsIn (nodes : List Node) : List (Interface.Kind × Tag) :=
  (elementsOf nodes).filterMap fun (tag, _) => (kindOf? declarationTag tag.name).map (·, tag)

/-- The item of a declaration of a kind. -/
def declarationItem (declaration : Interface.Kind × Tag) : DeclarationItem where
  line := declaration.2.line
  kind := declaration.1
  name? := declaration.2.attribute? "name"
  rosName? := declaration.2.attribute? (rosNameAttribute declaration.1)
  type? := declaration.2.attribute? "type"

theorem declarationItems_eq (nodes : List Node) :
    declarationItems nodes = (declarationsIn nodes).map declarationItem := by
  unfold declarationItems declarationsIn
  rw [List.map_filterMap]
  refine List.filterMap_congr fun element _ => ?_
  rw [Option.map_map]
  rfl

theorem mem_declarationsIn_iff {nodes : List Node} {kind : Interface.Kind} {tag : Tag} :
    (kind, tag) ∈ declarationsIn nodes ↔
      tag.name = declarationTag kind ∧ ∃ children, Node.element tag children ∈ nodes := by
  have tagsDiffer : declarationTag .service ≠ declarationTag .topic := by decide
  unfold declarationsIn
  rw [List.mem_filterMap]
  constructor
  · rintro ⟨⟨found, children⟩, isElement, isDeclaration⟩
    obtain ⟨foundKind, isKind, same⟩ := Option.map_eq_some_iff.mp isDeclaration
    cases same
    exact ⟨(kindOf?_eq_some_iff tagsDiffer).mp isKind, children, mem_elementsOf.mp isElement⟩
  · rintro ⟨isNamed, children, isChild⟩
    refine ⟨(tag, children), mem_elementsOf.mpr isChild, ?_⟩
    dsimp only
    rw [(kindOf?_eq_some_iff tagsDiffer).mpr isNamed]
    rfl

/-- The item of a handler of a kind with what is in it. -/
def handlerItem (kind : Interface.Kind) (tag : Tag) (children : List Node) : HandlerItem where
  line := tag.line
  kind := kind
  name? := tag.attribute? "name"
  target? := tag.attribute? "target"
  assigns := (tagsNamed assignTag children).map AssignItem.ofTag

/-- The handlers of a state are its children with the tag of a handler. -/
theorem mem_handlers_iff
    {outer? : Option Text}
    {state : Tag}
    {children : List Node}
    {item : HandlerItem} :
    item ∈ (StateItem.ofElement outer? state children).handlers ↔
      ∃ kind tag inner,
        Node.element tag inner ∈ children ∧ tag.name = handlerTag kind ∧
          handlerItem kind tag inner = item := by
  have tagsDiffer : handlerTag .service ≠ handlerTag .topic := by decide
  unfold StateItem.ofElement
  rw [List.mem_filterMap]
  constructor
  · rintro ⟨⟨tag, inner⟩, isElement, isHandler⟩
    obtain ⟨kind, isKind, isItem⟩ := Option.map_eq_some_iff.mp isHandler
    exact ⟨kind, tag, inner, mem_elementsOf.mp isElement,
      (kindOf?_eq_some_iff tagsDiffer).mp isKind, isItem⟩
  · rintro ⟨kind, tag, inner, isChild, isNamed, isItem⟩
    refine ⟨(tag, inner), mem_elementsOf.mpr isChild, ?_⟩
    dsimp only
    rw [HandlerItem.ofElement?, (kindOf?_eq_some_iff tagsDiffer).mpr isNamed, ← isItem]
    rfl

end Statechart
end SkillNode
