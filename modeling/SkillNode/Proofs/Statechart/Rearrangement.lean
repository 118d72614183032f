import SkillNode.Proofs.Statechart.SameContent

/-!
# Rearranged documents

A document can be tidied in two ways that its content does not show. Noise goes: text,
instructions, references, the namespaces of elements, and elements that neither are
spoken with nor hold one that is. And the nodes of the root and of each state are put in
groups, each of which keeps its order.

Two documents that are tidied to the same one hence differ in what nobody sees.
-/

namespace SkillNode
namespace Statechart

open Markup (Tag Node Document elementsOf tagsOf tagsNamed)

/-! ## Reading elements one by one -/

/-- What is read of the elements among nodes is read of one node after the other. -/
def onElement {Seen : Type} (see : Tag × List Node → List Seen) : Node → List Seen
  | .element tag children => see (tag, children)
  | .text _ | .instruction _ | .reference _ => []

theorem flatMap_elementsOf
    {Seen : Type}
    (see : Tag × List Node → List Seen)
    (nodes : List Node) :
    (elementsOf nodes).flatMap see = nodes.flatMap (onElement see) := by
  induction nodes with
  | nil => rfl
  | cons node rest restHypothesis =>
      rw [List.flatMap_cons, ← restHypothesis]
      cases node <;> simp [elementsOf, onElement]

/-- What is read of the elements with one name. -/
def onTag {Seen : Type} (name : Text) (see : Tag → Seen) (element : Tag × List Node) : List Seen :=
  if element.1.name = name then [see element.1] else []

theorem map_filter_elementsOf
    {Seen : Type}
    (name : Text)
    (see : Tag → Seen)
    (nodes : List Node) :
    ((elementsOf nodes).filter (·.1.name = name)).map (see ·.1) =
      nodes.flatMap (onElement (onTag name see)) := by
  rw [← flatMap_elementsOf]
  induction elementsOf nodes with
  | nil => rfl
  | cons element rest restHypothesis =>
      by_cases isNamed : element.1.name = name <;> simp [onTag, isNamed, restHypothesis]

/-- What a datamodel holds. -/
def dataOf (element : Tag × List Node) : List DataItem :=
  if element.1.name = datamodelTag then
    element.2.flatMap (onElement (onTag dataTag DataItem.ofTag))
  else
    []

theorem dataItems_eq (nodes : List Node) : dataItems nodes = nodes.flatMap (onElement dataOf) := by
  unfold dataItems
  rw [← flatMap_elementsOf]
  simp only [map_filter_elementsOf]
  rfl

theorem declarationItems_eq_flatMap (nodes : List Node) :
    declarationItems nodes =
      nodes.flatMap (onElement fun element => (DeclarationItem.ofTag? element.1).toList) := by
  rw [← flatMap_elementsOf, ← List.filterMap_eq_flatMap_toList]
  rfl

/-- The transition of a tag. -/
def transitionOf (tag : Tag) : TransitionItem := ⟨tag.attribute? "event", tag.attribute? "target"⟩

theorem transitionItems_eq (nodes : List Node) :
    transitionItems nodes = nodes.flatMap (onElement (onTag transitionTag transitionOf)) :=
  map_filter_elementsOf transitionTag transitionOf nodes

theorem handlerForms_eq (nodes : List Node) :
    handlerForms nodes =
      nodes.flatMap (onElement fun element =>
        ((HandlerItem.ofElement? element.1 element.2).map HandlerItem.unplaced).toList) := by
  rw [← flatMap_elementsOf, ← List.filterMap_eq_flatMap_toList, handlerForms, List.map_filterMap]

theorem stateForms_eq (nodes : List Node) : stateForms nodes = nodes.flatMap stateFormsOfNode := by
  induction nodes with
  | nil => rfl
  | cons node rest restHypothesis => rw [stateForms, List.flatMap_cons, restHypothesis]

/-! ## Noise -/

/-- The names of the elements that a behaviour description speaks with, the root apart. -/
def spokenTags : List Text :=
  [datamodelTag, dataTag, transitionTag, assignTag, requestTag, declarationTag .service,
    declarationTag .topic, handlerTag .service, handlerTag .topic] ++ stateTags

/-- Whether an element is spoken with. -/
def isSpoken (tag : Tag) : Bool := spokenTags.contains tag.name

/-- A tag without the namespace of its name. -/
def bare (tag : Tag) : Tag := { tag with space? := none }

mutual

/-- A node without noise, if it is not noise itself. -/
def quietNode : Node → List Node
  | .element tag children =>
      if isSpoken tag || (tagsOf children).any isSpoken then
        [.element (bare tag) (quiet children)]
      else
        []
  | .text _ | .instruction _ | .reference _ => []

/-- Nodes without noise. -/
def quiet : List Node → List Node
  | [] => []
  | node :: rest => quietNode node ++ quiet rest

end

/-- What is read of elements that are spoken with, and through noise, is read of them
without noise. -/
theorem flatMap_quiet
    {Seen : Type}
    {see : Tag × List Node → List Seen}
    (silent : ∀ tag children, isSpoken tag = false → see (tag, children) = [])
    (overlooks : ∀ tag children, see (bare tag, quiet children) = see (tag, children))
    (nodes : List Node) :
    (quiet nodes).flatMap (onElement see) = nodes.flatMap (onElement see) := by
  induction nodes with
  | nil => simp [quiet]
  | cons node rest restHypothesis =>
      rw [quiet, List.flatMap_append, List.flatMap_cons, restHypothesis]
      congr 1
      cases node with
      | element tag children =>
          rw [quietNode]
          split
          · simp [onElement, overlooks]
          · next noise =>
              have unspoken : isSpoken tag = false := by simp_all
              simp [onElement, silent tag children unspoken]
      | text _ | instruction _ | reference _ => simp [quietNode, onElement]

mutual

theorem named_tags_quietNode {name : Text} (spoken : name ∈ spokenTags) :
    (node : Node) → (tagsOf (quietNode node)).filter (·.name = name) =
      (node.tags.filter (·.name = name)).map bare
  | .element tag children => by
      rw [quietNode, Node.tags]
      split
      · have inside := tagsNamed_quiet spoken children
        unfold tagsNamed at inside
        rw [tagsOf, tagsOf, List.append_nil, Node.tags, List.filter_cons, List.filter_cons, inside]
        by_cases isNamed : tag.name = name <;> simp [bare, isNamed]
      · next noise =>
          -- A node goes only if no tag in it has a name that is spoken with.
          have unspoken : ∀ other ∈ tag :: tagsOf children, isSpoken other = false := by
            simpa using noise
          rw [tagsOf, List.filter_nil, List.filter_eq_nil_iff.mpr, List.map_nil]
          intro other member isNamed
          have otherSpoken : isSpoken other = true :=
            List.contains_iff_mem.mpr (of_decide_eq_true isNamed ▸ spoken)
          simp [unspoken other member] at otherSpoken
  | .text _ | .instruction _ | .reference _ => by simp [quietNode, tagsOf, Node.tags]

/-- The tags with a name that is spoken with are the same without noise. -/
theorem tagsNamed_quiet {name : Text} (spoken : name ∈ spokenTags) :
    (nodes : List Node) → tagsNamed name (quiet nodes) = (tagsNamed name nodes).map bare
  | [] => by simp [quiet, tagsNamed, tagsOf]
  | node :: rest => by
      have restTags := tagsNamed_quiet spoken rest
      unfold tagsNamed at restTags ⊢
      rw [quiet, tagsOf, Markup.tagsOf_append, List.filter_append, List.filter_append,
        List.map_append, named_tags_quietNode spoken node, restTags]

end

theorem name_ne_of_unspoken
    {name : Text}
    {tag : Tag}
    (spoken : name ∈ spokenTags)
    (unspoken : isSpoken tag = false) :
    tag.name ≠ name := by
  rintro rfl
  have isSpokenTag : isSpoken tag = true := List.contains_iff_mem.mpr spoken
  simp [unspoken] at isSpokenTag

theorem onTag_quiet
    {Seen : Type}
    {name : Text}
    (spoken : name ∈ spokenTags)
    {see : Tag → Seen}
    (overlooks : ∀ tag, see (bare tag) = see tag)
    (nodes : List Node) :
    (quiet nodes).flatMap (onElement (onTag name see)) =
      nodes.flatMap (onElement (onTag name see)) := by
  refine flatMap_quiet (fun tag children unspoken => ?_) (fun tag children => ?_) nodes
  · exact if_neg (name_ne_of_unspoken spoken unspoken)
  · simp only [onTag, overlooks]
    rfl

theorem dataItems_quiet (nodes : List Node) : dataItems (quiet nodes) = dataItems nodes := by
  rw [dataItems_eq, dataItems_eq]
  refine flatMap_quiet (fun tag children unspoken => ?_) (fun tag children => ?_) nodes
  · exact if_neg (name_ne_of_unspoken (by decide) unspoken)
  · unfold dataOf
    dsimp only
    rw [onTag_quiet (by decide) fun _ => rfl]
    rfl

theorem kindOf?_eq_none
    {tagOf : Interface.Kind → Text}
    {name : Text}
    (different : ∀ kind, name ≠ tagOf kind) :
    kindOf? tagOf name = none := by
  unfold kindOf?
  rw [if_neg (different .service), if_neg (different .topic)]

theorem declarationItems_quiet (nodes : List Node) :
    declarationItems (quiet nodes) = declarationItems nodes := by
  have spoken : ∀ kind, declarationTag kind ∈ spokenTags := by rintro (_ | _) <;> decide
  rw [declarationItems_eq_flatMap, declarationItems_eq_flatMap]
  refine flatMap_quiet (fun tag children unspoken => ?_) (fun tag children => rfl) nodes
  rw [DeclarationItem.ofTag?,
    kindOf?_eq_none fun kind => name_ne_of_unspoken (spoken kind) unspoken]
  rfl

theorem transitionItems_quiet (nodes : List Node) :
    transitionItems (quiet nodes) = transitionItems nodes := by
  rw [transitionItems_eq, transitionItems_eq, onTag_quiet (by decide) fun _ => rfl]

theorem ofElement?_quiet (tag : Tag) (children : List Node) :
    HandlerItem.ofElement? (bare tag) (quiet children) =
      HandlerItem.ofElement? tag children := by
  unfold HandlerItem.ofElement?
  rw [tagsNamed_quiet (by decide), List.map_map]
  rfl

theorem handlerForms_quiet (nodes : List Node) :
    handlerForms (quiet nodes) = handlerForms nodes := by
  have spoken : ∀ kind, handlerTag kind ∈ spokenTags := by rintro (_ | _) <;> decide
  rw [handlerForms_eq, handlerForms_eq]
  refine flatMap_quiet (fun tag children unspoken => ?_) (fun tag children => ?_) nodes
  · dsimp only
    rw [HandlerItem.ofElement?,
      kindOf?_eq_none fun kind => name_ne_of_unspoken (spoken kind) unspoken]
    rfl
  · dsimp only
    rw [ofElement?_quiet]

theorem isSpoken_of_isState {tag : Tag} (isState : stateTags.contains tag.name = true) :
    isSpoken tag = true :=
  List.contains_iff_mem.mpr (List.mem_append_right _ (List.contains_iff_mem.mp isState))

mutual

theorem stateForms_quietNode :
    (node : Node) → stateForms (quietNode node) = stateFormsOfNode node
  | .element tag children => by
      by_cases isState : stateTags.contains tag.name = true
      · have isKept : (isSpoken tag || (tagsOf children).any isSpoken) = true := by
          simp [isSpoken_of_isState isState]
        rw [quietNode, if_pos isKept, stateForms, stateForms, List.append_nil, stateFormsOfNode,
          stateFormsOfNode, transitionItems_quiet, handlerForms_quiet, stateForms_quiet children]
        rfl
      · rw [stateFormsOfNode, if_neg isState, quietNode]
        split
        · rw [stateForms, stateForms, List.append_nil, stateFormsOfNode]
          exact if_neg isState
        · rfl
  | .text _ | .instruction _ | .reference _ => by
      simp [quietNode, stateForms, stateFormsOfNode]

/-- The forest of states is the same without noise. -/
theorem stateForms_quiet : (nodes : List Node) → stateForms (quiet nodes) = stateForms nodes
  | [] => by simp [quiet]
  | node :: rest => by
      rw [quiet, stateForms_eq, List.flatMap_append, ← stateForms_eq, ← stateForms_eq,
        stateForms_quietNode node, stateForms_quiet rest, stateForms]

end

/-! ## Groups -/

/-- The groups of nodes that stand beside each other. -/
inductive Group
  | datamodel
  | declaration
  | transition
  | handler
  | state
  | other
  deriving DecidableEq

/-- The group of an element. -/
def groupOfTag (tag : Tag) : Group :=
  if tag.name = datamodelTag then .datamodel
  else if (kindOf? declarationTag tag.name).isSome then .declaration
  else if tag.name = transitionTag then .transition
  else if (kindOf? handlerTag tag.name).isSome then .handler
  else if stateTags.contains tag.name then .state
  else .other

/-- The group of a node. -/
def groupOf : Node → Group
  | .element tag _ => groupOfTag tag
  | .text _ | .instruction _ | .reference _ => .other

/-- Nodes put in groups, each of which keeps its order. -/
def arranged (nodes : List Node) : List Node :=
  [Group.datamodel, .declaration, .transition, .handler, .state, .other].flatMap fun group =>
    nodes.filter (groupOf · = group)

mutual

/-- A node in which the nodes of each reached state are put in groups. -/
def groupedNode : Node → Node
  | .element tag children =>
      if stateTags.contains tag.name then
        .element tag (arranged (groupedNodes children))
      else
        .element tag children
  | .text content => .text content
  | .instruction target => .instruction target
  | .reference entity => .reference entity

/-- Nodes in which the nodes of each reached state are put in groups. -/
def groupedNodes : List Node → List Node
  | [] => []
  | node :: rest => groupedNode node :: groupedNodes rest

end

theorem mem_arranged {nodes : List Node} {node : Node} : node ∈ arranged nodes ↔ node ∈ nodes := by
  simp only [arranged, List.mem_flatMap, List.mem_filter, decide_eq_true_eq]
  constructor
  · rintro ⟨group, _, member, _⟩
    exact member
  · intro member
    refine ⟨groupOf node, ?_, member, rfl⟩
    cases groupOf node <;> simp

/-- What is read of one group is read of it where it stands among the others. -/
theorem flatMap_arranged
    {Seen : Type}
    {see : Node → List Seen}
    {group : Group}
    (ofGroup : ∀ node, groupOf node ≠ group → see node = [])
    (nodes : List Node) :
    (arranged nodes).flatMap see = nodes.flatMap see := by
  -- Of the part of another group nothing is seen.
  have ofPart : ∀ part, (nodes.filter (groupOf · = part)).flatMap see =
      if part = group then nodes.flatMap see else [] := by
    intro part
    induction nodes with
    | nil => simp
    | cons node rest restHypothesis =>
        rw [List.filter_cons]
        by_cases inPart : groupOf node = part
        · rw [if_pos (decide_eq_true inPart), List.flatMap_cons, restHypothesis]
          by_cases isGroup : part = group
          · simp [isGroup]
          · simp [isGroup, ofGroup node (inPart ▸ isGroup)]
        · rw [if_neg (by simpa using inPart), restHypothesis]
          by_cases isGroup : part = group
          · simp [isGroup, ofGroup node (isGroup ▸ inPart)]
          · simp [isGroup]
  cases group <;> simp [arranged, ofPart]

theorem groupOfTag_of_isState {tag : Tag} (isState : stateTags.contains tag.name = true) :
    groupOfTag tag = .state := by
  have names : tag.name = "state" ∨ tag.name = "parallel" ∨ tag.name = "final" := by
    simpa [stateTags] using isState
  unfold groupOfTag
  rcases names with isNamed | isNamed | isNamed <;> rw [isNamed] <;> rfl

/-- What is read of the elements of one group, states apart, is read of grouped nodes. -/
theorem flatMap_grouped
    {Seen : Type}
    {see : Tag × List Node → List Seen}
    (group : Group)
    (notStates : group ≠ .state)
    (ofGroup : ∀ tag children, groupOfTag tag ≠ group → see (tag, children) = [])
    (nodes : List Node) :
    (arranged (groupedNodes nodes)).flatMap (onElement see) = nodes.flatMap (onElement see) := by
  have ofNodeGroup : ∀ node, groupOf node ≠ group → onElement see node = [] := by
    intro node different
    cases node with
    | element tag children => exact ofGroup tag children different
    | text _ | instruction _ | reference _ => rfl
  rw [flatMap_arranged ofNodeGroup]
  induction nodes with
  | nil => rfl
  | cons node rest restHypothesis =>
      rw [groupedNodes, List.flatMap_cons, List.flatMap_cons, restHypothesis]
      congr 1
      cases node with
      | text _ | instruction _ | reference _ => rfl
      | element tag children =>
          rw [groupedNode]
          split
          · next isState =>
              have noneSeen : ∀ others, see (tag, others) = [] := fun others =>
                ofGroup tag others (groupOfTag_of_isState isState ▸ Ne.symm notStates)
              rw [onElement, onElement, noneSeen, noneSeen]
          · rfl

theorem dataItems_grouped (nodes : List Node) :
    dataItems (arranged (groupedNodes nodes)) = dataItems nodes := by
  rw [dataItems_eq, dataItems_eq]
  refine flatMap_grouped .datamodel (by decide) (fun tag children different => ?_) nodes
  exact if_neg fun isNamed => different (if_pos isNamed)

theorem groupOfTag_of_isDeclaration
    {tag : Tag}
    {kind : Interface.Kind}
    (isNamed : tag.name = declarationTag kind) :
    groupOfTag tag = .declaration := by
  unfold groupOfTag
  rw [isNamed]
  cases kind <;> rfl

theorem groupOfTag_of_isHandler
    {tag : Tag}
    {kind : Interface.Kind}
    (isNamed : tag.name = handlerTag kind) :
    groupOfTag tag = .handler := by
  unfold groupOfTag
  rw [isNamed]
  cases kind <;> rfl

theorem declarationItems_grouped (nodes : List Node) :
    declarationItems (arranged (groupedNodes nodes)) = declarationItems nodes := by
  rw [declarationItems_eq_flatMap, declarationItems_eq_flatMap]
  refine flatMap_grouped .declaration (by decide) (fun tag children different => ?_) nodes
  rw [DeclarationItem.ofTag?,
    kindOf?_eq_none fun kind isNamed => different (groupOfTag_of_isDeclaration isNamed)]
  rfl

theorem transitionItems_grouped (nodes : List Node) :
    transitionItems (arranged (groupedNodes nodes)) = transitionItems nodes := by
  rw [transitionItems_eq, transitionItems_eq]
  refine flatMap_grouped .transition (by decide) (fun tag children different => ?_) nodes
  refine if_neg fun isNamed => different ?_
  unfold groupOfTag
  rw [isNamed]
  rfl

theorem handlerForms_grouped (nodes : List Node) :
    handlerForms (arranged (groupedNodes nodes)) = handlerForms nodes := by
  rw [handlerForms_eq, handlerForms_eq]
  refine flatMap_grouped .handler (by decide) (fun tag children different => ?_) nodes
  dsimp only
  rw [HandlerItem.ofElement?,
    kindOf?_eq_none fun kind isNamed => different (groupOfTag_of_isHandler isNamed)]
  rfl

theorem stateFormsOfNode_of_group {node : Node} (different : groupOf node ≠ .state) :
    stateFormsOfNode node = [] := by
  cases node with
  | element tag children =>
      rw [stateFormsOfNode]
      exact if_neg fun isState => different (groupOfTag_of_isState isState)
  | text _ | instruction _ | reference _ => simp [stateFormsOfNode]

theorem stateForms_arranged (nodes : List Node) :
    stateForms (arranged nodes) = stateForms nodes := by
  rw [stateForms_eq, stateForms_eq, flatMap_arranged fun _ => stateFormsOfNode_of_group]

mutual

theorem stateFormsOfNode_grouped :
    (node : Node) → stateFormsOfNode (groupedNode node) = stateFormsOfNode node
  | .element tag children => by
      rw [groupedNode]
      split
      · next isState =>
          rw [stateFormsOfNode, stateFormsOfNode, if_pos isState, if_pos isState,
            transitionItems_grouped, handlerForms_grouped, stateForms_arranged,
            stateForms_grouped children]
      · rfl
  | .text _ | .instruction _ | .reference _ => by simp [groupedNode]

/-- The forest of states is the same where nodes are put in groups. -/
theorem stateForms_grouped :
    (nodes : List Node) → stateForms (groupedNodes nodes) = stateForms nodes
  | [] => by simp [groupedNodes]
  | node :: rest => by
      rw [groupedNodes, stateForms, stateForms, stateFormsOfNode_grouped node,
        stateForms_grouped rest]

end

theorem mem_tagsOf_arranged {nodes : List Node} {tag : Tag} :
    tag ∈ tagsOf (arranged nodes) ↔ tag ∈ tagsOf nodes := by
  simp only [mem_tagsOf_iff_exists, mem_arranged]

mutual

theorem mem_tags_grouped {tag : Tag} :
    (node : Node) → (tag ∈ (groupedNode node).tags ↔ tag ∈ node.tags)
  | .element outer children => by
      rw [groupedNode]
      split
      · rw [Node.tags, Node.tags, List.mem_cons, List.mem_cons, mem_tagsOf_arranged,
          mem_tagsOf_grouped children]
      · rfl
  | .text _ | .instruction _ | .reference _ => by simp [groupedNode]

/-- No element is lost or made where nodes are put in groups. -/
theorem mem_tagsOf_grouped {tag : Tag} :
    (nodes : List Node) → (tag ∈ tagsOf (groupedNodes nodes) ↔ tag ∈ tagsOf nodes)
  | [] => by simp [groupedNodes]
  | node :: rest => by
      rw [groupedNodes, tagsOf, tagsOf, List.mem_append, List.mem_append, mem_tags_grouped node,
        mem_tagsOf_grouped rest]

end

/-! ## Tidied documents -/

/-- A document without noise. -/
def quietDocument (document : Document) : Document := ⟨bare document.root, quiet document.children⟩

/-- A document in which the nodes of the root and of each state are put in groups. -/
def groupedDocument (document : Document) : Document :=
  ⟨document.root, arranged (groupedNodes document.children)⟩

/-- Noise is no part of the content. -/
theorem sameContent_quiet (document : Document) :
    SameContent document (quietDocument document) where
  root := rfl
  name := rfl
  initial := rfl
  data := congrArg _ (dataItems_quiet document.children).symm
  declarations := congrArg _ (declarationItems_quiet document.children).symm
  states := (stateForms_quiet document.children).symm
  requests name? := by
    change _ ↔ name? ∈ (requestItems (quiet document.children)).map RequestItem.name?
    rw [requestItems, requestItems, tagsNamed_quiet (by decide), List.map_map, List.map_map,
      List.map_map]
    rfl

/-- The order of the groups is no part of the content. -/
theorem sameContent_grouped (document : Document) :
    SameContent document (groupedDocument document) where
  root := rfl
  name := rfl
  initial := rfl
  data := congrArg _ (dataItems_grouped document.children).symm
  declarations := congrArg _ (declarationItems_grouped document.children).symm
  states := ((stateForms_arranged _).trans (stateForms_grouped document.children)).symm
  requests name? := by
    have sameTags : ∀ tag, tag ∈ tagsOf (arranged (groupedNodes document.children)) ↔
        tag ∈ tagsOf document.children := fun tag =>
      mem_tagsOf_arranged.trans (mem_tagsOf_grouped document.children)
    simp only [groupedDocument, requestItems, tagsNamed, List.map_map, List.mem_map,
      List.mem_filter, sameTags]

/-- A document without noise whose nodes stand in groups. -/
def tidied (document : Document) : Document := groupedDocument (quietDocument document)

/-- Documents of one source with the same content are read as the same model or are both
refused, and to tidy a document keeps its content. -/
theorem sameContent_readsSame :
    (∀ {source : Text} {first second : Document} {firstRun secondRun : Run RawModel},
      IsReading source first firstRun → IsReading source second secondRun →
        SameContent first second →
          (∃ model, firstRun.outcome = .ok model ∧ secondRun.outcome = .ok model) ∨
            ∃ error other, firstRun.outcome = .error (.statechart error) ∧
              secondRun.outcome = .error (.statechart other)) ∧
      ∀ document, SameContent document (tidied document) :=
  ⟨fun readsFirst readsSecond same => same.outcomes readsFirst readsSecond, fun document =>
    (sameContent_quiet document).trans (sameContent_grouped _)⟩

/-- A lamp that is told when to be lit. -/
def lampChart : Text :=
  "<scxml name='lamp'><ros_topic_subscriber topic='/l' type='l/L'/>" ++
    "<state id='a'><ros_topic_callback name='/l' target='a'/></state></scxml>"

/-- The same lamp with its groups in another order and some noise. -/
def noisyLampChart : Text :=
  "<scxml name='lamp'><!-- lit --><state id='a'>text<log/>" ++
    "<ros_topic_callback name='/l' target='a'/></state><?p?>" ++
    "<x:ros_topic_subscriber xmlns:x='u' topic='/l' type='l/L'/></scxml>"

/-- Both charts of the lamp are read as the same model. -/
theorem sameContent_readsSame_lamp :
    ∃ first second,
      Document.read (Text.utf8 lampChart) = .ok first ∧
        Document.read (Text.utf8 noisyLampChart) = .ok second ∧
          SameContent first second ∧
            ∃ model, (ofText "lamp.scxml" lampChart).outcome = .ok model ∧
              (ofText "lamp.scxml" noisyLampChart).outcome = .ok model := by
  have tested :
      (Document.read (Text.utf8 lampChart)).toOption.any (fun first =>
        (Document.read (Text.utf8 noisyLampChart)).toOption.any fun second =>
          decide (SameContent first second ∧ complaintsOf "lamp.scxml" first = [])) = true := by
    decide +kernel
  obtain ⟨first, foundFirst, testedFirst⟩ := (Option.any_eq_true _ _).mp tested
  obtain ⟨second, foundSecond, testedBoth⟩ := (Option.any_eq_true _ _).mp testedFirst
  obtain ⟨same, nothingWrong⟩ := of_decide_eq_true testedBoth
  have readsFirst := eq_ok_of_toOption foundFirst
  have readsSecond := eq_ok_of_toOption foundSecond
  refine ⟨first, second, readsFirst, readsSecond, same, ?_⟩
  have readingFirst : IsReading "lamp.scxml" first _ := .ofText readsFirst
  rcases sameContent_readsSame.1 readingFirst (.ofText readsSecond) same with
    accepted | ⟨_, _, refused, _⟩
  · exact accepted
  · rw [readingFirst.outcome_eq, nothingWrong] at refused
    cases refused

end Statechart
end SkillNode
