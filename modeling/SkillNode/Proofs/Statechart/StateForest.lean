import SkillNode.Proofs.Statechart.Acceptance
import SkillNode.Proofs.Statechart.KeyedWrites
import Mathlib.Logic.Relation
import Mathlib.Order.WellFoundedSet

/-!
# The forest of states

The states of a model are put under their ids, so that of several state elements with one id
the last one is left, in the place of the first. Each names the state directly around it.

The names lead up to a state without another around it exactly if the last elements form no
ring. There is none if no state stands in a state of its own id. A model without an initial
state starts with its first element at the top exactly if the last element of that id is at
the top as well.
-/

namespace SkillNode
namespace Statechart

open Markup (Tag Node Document elementsOf)

/-! ## Going up -/

section Climbing

variable {outerOf? : Text → Option Text}

/-- Going up from a name comes to an end. -/
inductive ReachesTop (outerOf? : Text → Option Text) : Text → Prop
  | top {name : Text} : outerOf? name = none → ReachesTop outerOf? name
  | up {name outer : Text} :
      outerOf? name = some outer → ReachesTop outerOf? outer → ReachesTop outerOf? name

/-- A name that leads up to the top is on no ring. -/
theorem ReachesTop.not_onRing
    {name : Text}
    (reaches : ReachesTop outerOf? name) :
    ¬ Relation.TransGen (outerOf? · = some ·) name name := by
  induction reaches with
  | top isTop =>
      intro ring
      obtain ⟨outer, isOuter, _⟩ := Relation.TransGen.head'_iff.mp ring
      rw [isTop] at isOuter
      cases isOuter
  | up isOuter _ outerHypothesis =>
      intro ring
      obtain ⟨other, isOther, back⟩ := Relation.TransGen.head'_iff.mp ring
      rw [isOuter] at isOther
      obtain rfl := Option.some.inj isOther
      exact outerHypothesis (Relation.TransGen.tail' back isOuter)

/-- Among finitely many names that lead to each other all lead to the top if none is on a
ring. -/
theorem reachesTop_of_noRing
    {names : List Text}
    (closed : ∀ name ∈ names, ∀ outer, outerOf? name = some outer → outer ∈ names)
    (noRing : ∀ name, ¬ Relation.TransGen (outerOf? · = some ·) name name)
    {name : Text}
    (member : name ∈ names) :
    ReachesTop outerOf? name := by
  let IsAbove : Text → Text → Prop := fun outer name =>
    Relation.TransGen (outerOf? · = some ·) name outer
  have isStrict : IsStrictOrder Text IsAbove :=
    { irrefl := noRing, trans := fun _ _ _ above further => further.trans above }
  have wellFounded : {name | name ∈ names}.WellFoundedOn IsAbove :=
    names.finite_toSet.wellFoundedOn
  refine wellFounded.induction member fun name member outerHypothesis => ?_
  cases isOuter : outerOf? name with
  | none => exact .top isOuter
  | some outer =>
      exact .up isOuter (outerHypothesis outer (closed name member outer isOuter)
        (Relation.TransGen.single isOuter))

end Climbing

/-! ## States under their ids -/

/-- The id of the state around the state with an id. -/
def outerIn? (states : List State) (id : Text) : Option Text :=
  (states.find? (·.id = id)).bind State.parent?

/-- The state that a state element makes. -/
def StateItem.made (item : StateItem) : State := item.state item.id

/-- The last state element of a document with an id. -/
def lastState? (document : Document) (id : Text) : Option StateItem :=
  ((Outline.ofDocument document).states.filter (·.id = id)).getLast?

/-- The id of the state element directly around the last one with an id. -/
def lastOuter? (document : Document) (id : Text) : Option Text :=
  (lastState? document id).bind StateItem.parent?

theorem putState_eq (new : State) (known : List State) :
    putState new known = putKeyed State.id new known := by
  induction known with
  | nil => rfl
  | cons state rest restHypothesis => rw [putState, putKeyed, restHypothesis]

theorem states_modelOf (source : Text) (document : Document) :
    (modelOf source document).states =
      putAllKeyed State.id [] ((Outline.ofDocument document).states.map StateItem.made) := by
  have taken := congrArg Prod.snd (Outline.surroundings_takeAll source
    ((nodeName? ((Outline.ofDocument document).skillName
      (FileTree.Path.ofText source).stem)).getD []) (Outline.ofDocument document))
  refine taken.trans ?_
  simp only [putAllKeyed, putState_eq]
  rfl

theorem outerIn?_putKeyed (new : State) (known : List State) (id : Text) :
    outerIn? (putKeyed State.id new known) id =
      if new.id = id then new.parent? else outerIn? known id := by
  unfold outerIn?
  rw [find?_putKeyed]
  split <;> rfl

/-- In a model a state stands where the last element of its id does. -/
theorem outerIn?_modelOf (source : Text) (document : Document) :
    outerIn? (modelOf source document).states = lastOuter? document := by
  funext id
  unfold outerIn? lastOuter? lastState?
  rw [states_modelOf, find?_putAllKeyed, List.find?_nil, Option.or_none, lastKeyed?,
    List.filter_map, List.getLast?_map, Option.bind_map]
  rfl

theorem ids_modelOf (source : Text) (document : Document) :
    (modelOf source document).states.map State.id =
      ((Outline.ofDocument document).states.map StateItem.id).eraseDups := by
  rw [states_modelOf, keys_putAllKeyed, List.map_map]
  rfl

/-! ## Parents -/

mutual

theorem parent_stateItemsOfNode {parent? : Option Text} {item : StateItem} :
    (node : Node) → item ∈ stateItemsOfNode parent? node →
      item.parent? = parent? ∨
        ∃ outer ∈ stateItemsOfNode parent? node, item.parent? = outer.id?.map Text.trim
  | .element tag children, member => by
      rw [stateItemsOfNode] at member ⊢
      split at member
      · next isState =>
          rw [if_pos isState]
          rcases List.mem_cons.mp member with rfl | inside
          · exact .inl rfl
          · refine .inr ?_
            rcases parent_stateItems children inside with around | ⟨outer, isOuter, isParent⟩
            · exact ⟨StateItem.ofElement parent? tag children, List.mem_cons_self .., around⟩
            · exact ⟨outer, List.mem_cons_of_mem _ isOuter, isParent⟩
      · cases member
  | .text _, member | .instruction _, member | .reference _, member => by
      simp [stateItemsOfNode] at member

/-- The state around a state that is made among nodes is the one around the nodes or is made
among them as well. -/
theorem parent_stateItems {parent? : Option Text} {item : StateItem} :
    (nodes : List Node) → item ∈ stateItems parent? nodes →
      item.parent? = parent? ∨
        ∃ outer ∈ stateItems parent? nodes, item.parent? = outer.id?.map Text.trim
  | [], member => by simp [stateItems] at member
  | node :: rest, member => by
      rw [stateItems, List.mem_append] at member
      rw [stateItems]
      rcases member with first | later
      · exact (parent_stateItemsOfNode node first).imp id fun ⟨outer, isOuter, isParent⟩ =>
          ⟨outer, List.mem_append_left _ isOuter, isParent⟩
      · exact (parent_stateItems rest later).imp id fun ⟨outer, isOuter, isParent⟩ =>
          ⟨outer, List.mem_append_right _ isOuter, isParent⟩

end

/-- The state around a state of a model is in the model. -/
theorem parent_mem_modelOf
    {source : Text}
    {document : Document}
    {state : State}
    (member : state ∈ (modelOf source document).states)
    {outer : Text}
    (isOuter : state.parent? = some outer) :
    outer ∈ (modelOf source document).states.map State.id := by
  rw [states_modelOf] at member
  obtain ⟨item, isItem, rfl⟩ := List.mem_map.mp (mem_of_mem_putAllKeyed State.id member)
  rw [ids_modelOf, List.mem_eraseDups]
  rcases parent_stateItems document.children isItem with atTop | ⟨around, isAround, isParent⟩
  · cases isOuter.symm.trans atTop
  · obtain ⟨value, isValue, rfl⟩ := Option.map_eq_some_iff.mp (isParent.symm.trans isOuter)
    refine List.mem_map.mpr ⟨around, isAround, ?_⟩
    rw [StateItem.id, isValue]
    rfl

/-! ## Unnested states -/

/-- Names lead to each other in turn, the last one to the top. -/
def IsWayUp (outerOf? : Text → Option Text) : List Text → Prop
  | [] => True
  | name :: rest => outerOf? name = rest.head? ∧ IsWayUp outerOf? rest

theorem IsWayUp.reachesTop
    {outerOf? : Text → Option Text}
    {way : List Text}
    (isWay : IsWayUp outerOf? way)
    {name : Text}
    (member : name ∈ way) :
    ReachesTop outerOf? name := by
  induction way generalizing name with
  | nil => cases member
  | cons first rest restHypothesis =>
      obtain ⟨isOuter, restWay⟩ := isWay
      rcases List.mem_cons.mp member with rfl | later
      · cases rest with
        | nil => exact .top isOuter
        | cons outer _ => exact .up isOuter (restHypothesis restWay (List.mem_cons_self ..))
      · exact restHypothesis restWay later

theorem IsWayUp.congr
    {outerOf? otherOf? : Text → Option Text}
    {way : List Text}
    (isWay : IsWayUp outerOf? way)
    (agree : ∀ name ∈ way, otherOf? name = outerOf? name) :
    IsWayUp otherOf? way := by
  induction way with
  | nil => trivial
  | cons name rest restHypothesis =>
      obtain ⟨isOuter, restWay⟩ := isWay
      exact ⟨(agree name (List.mem_cons_self ..)).trans isOuter,
        restHypothesis restWay fun other member => agree other (List.mem_cons_of_mem _ member)⟩

/-- If only one name is led elsewhere, and from there to the top, all names still lead to the
top. -/
theorem ReachesTop.redirect
    {outerOf? otherOf? : Text → Option Text}
    {changed name : Text}
    (reaches : ReachesTop outerOf? name)
    (agree : ∀ other, other ≠ changed → otherOf? other = outerOf? other)
    (changedReaches : ReachesTop otherOf? changed) :
    ReachesTop otherOf? name := by
  induction reaches with
  | @top name isTop =>
      by_cases isChanged : name = changed
      · exact isChanged ▸ changedReaches
      · exact .top ((agree name isChanged).trans isTop)
  | @up name outer isOuter _ outerHypothesis =>
      by_cases isChanged : name = changed
      · exact isChanged ▸ changedReaches
      · exact .up ((agree name isChanged).trans isOuter) outerHypothesis

/-- In the middle of a visit all states lead to the top, and the states around the place of
the visit do so in their order. -/
structure HasWay (known : List State) (way : List Text) : Prop where
  reaches : ∀ id, ReachesTop (outerIn? known) id
  way : IsWayUp (outerIn? known) way

/-- The visit of a state that is not around itself. -/
theorem HasWay.put
    {known : List State}
    {way : List Text}
    {new : State}
    (hasWay : HasWay known way)
    (isOuter : new.parent? = way.head?)
    (isNew : new.id ∉ way) :
    HasWay (putKeyed State.id new known) (new.id :: way) := by
  have agree : ∀ id, id ≠ new.id →
      outerIn? (putKeyed State.id new known) id = outerIn? known id := fun id differs => by
    rw [outerIn?_putKeyed, if_neg (Ne.symm differs)]
  have newWay : IsWayUp (outerIn? (putKeyed State.id new known)) (new.id :: way) := by
    refine ⟨?_, hasWay.way.congr fun id member => agree id fun same => isNew (same ▸ member)⟩
    rw [outerIn?_putKeyed, if_pos rfl, isOuter]
  exact ⟨fun id => (hasWay.reaches id).redirect agree
    (newWay.reachesTop (List.mem_cons_self ..)), newWay⟩

/-- State elements that are all named, none like a state around it. -/
structure AreUnnested (nodes : List Node) (way : List Text) : Prop where
  filled : ∀ tag children, Reached nodes tag children → IsFilled tag "id"
  apart : ∀ tag children, Reached nodes tag children → valueOf tag "id" ∉ way
  unnested : ∀ outer members inner children, Reached nodes outer members →
    Reached members inner children → valueOf inner "id" ≠ valueOf outer "id"

theorem AreUnnested.mono
    {nodes others : List Node}
    {way : List Text}
    (unnested : AreUnnested others way)
    (included : ∀ node ∈ nodes, node ∈ others) :
    AreUnnested nodes way where
  filled tag children reached := unnested.filled tag children (reached.mono included)
  apart tag children reached := unnested.apart tag children (reached.mono included)
  unnested outer members inner children reached inside :=
    unnested.unnested outer members inner children (reached.mono included) inside

theorem AreUnnested.inside
    {nodes children : List Node}
    {tag : Tag}
    {way : List Text}
    (unnested : AreUnnested nodes way)
    (isNode : .element tag children ∈ nodes)
    (isState : tag.name ∈ stateTags) :
    AreUnnested children (valueOf tag "id" :: way) where
  filled inner members reached := unnested.filled inner members (.deeper isNode isState reached)
  apart inner members reached := by
    rw [List.mem_cons, not_or]
    exact ⟨unnested.unnested tag children inner members (.here isNode isState) reached,
      unnested.apart inner members (.deeper isNode isState reached)⟩
  unnested outer members inner innerChildren reached inside :=
    unnested.unnested outer members inner innerChildren (.deeper isNode isState reached) inside

mutual

theorem hasWay_stateItemsOfNode {known : List State} {way : List Text} :
    (node : Node) → AreUnnested [node] way → HasWay known way →
      HasWay (putAllKeyed State.id known
        ((stateItemsOfNode way.head? node).map StateItem.made)) way
  | .element tag children, unnested, hasWay => by
      rw [stateItemsOfNode]
      split
      · next contained =>
          have isState : tag.name ∈ stateTags := List.contains_iff_mem.mp contained
          have isNode : Node.element tag children ∈ [.element tag children] :=
            List.mem_singleton.mpr rfl
          have reached : Reached [.element tag children] tag children := .here isNode isState
          obtain ⟨value, isValue, _⟩ := unnested.filled tag children reached
          have isId : (tag.attribute? "id").map Text.trim = some (valueOf tag "id") := by
            rw [valueOf, isValue]
            rfl
          -- The state is put first, and then the states inside it below its id.
          have putFirst : HasWay (putKeyed State.id
              (StateItem.ofElement way.head? tag children).made known)
              (valueOf tag "id" :: way) :=
            hasWay.put rfl (unnested.apart tag children reached)
          have inside := hasWay_stateItems children (unnested.inside isNode isState) putFirst
          rw [List.map_cons, isId]
          exact ⟨inside.reaches, inside.way.2⟩
      · exact hasWay
  | .text _, _, hasWay | .instruction _, _, hasWay | .reference _, _, hasWay => by
      simpa [stateItemsOfNode, putAllKeyed] using hasWay

/-- The visit of states of which none is named like one around it. -/
theorem hasWay_stateItems {known : List State} {way : List Text} :
    (nodes : List Node) → AreUnnested nodes way → HasWay known way →
      HasWay (putAllKeyed State.id known ((stateItems way.head? nodes).map StateItem.made)) way
  | [], _, hasWay => by simpa [stateItems, putAllKeyed] using hasWay
  | node :: rest, unnested, hasWay => by
      rw [stateItems, List.map_append, putAllKeyed_append]
      have first := hasWay_stateItemsOfNode node
        (unnested.mono fun _ member => List.mem_singleton.mp member ▸ List.mem_cons_self ..) hasWay
      exact hasWay_stateItems rest (unnested.mono fun _ => List.mem_cons_of_mem node) first

end

/-! ## The initial state -/

/-- The first state element among nodes with what is in it. -/
def firstStateAmong? (nodes : List Node) : Option (Tag × List Node) :=
  (elementsOf nodes).find? (stateTags.contains ·.1.name)

/-- The states among nodes start with the first state element. -/
theorem stateItems_of_first
    {parent? : Option Text}
    {nodes : List Node}
    {first : Tag}
    {children : List Node}
    (isFirst : firstStateAmong? nodes = some (first, children)) :
    ∃ later, stateItems parent? nodes = StateItem.ofElement parent? first children :: later := by
  induction nodes with
  | nil => cases isFirst
  | cons node rest restHypothesis =>
      rw [stateItems]
      cases node with
      | element tag members =>
          change ((tag, members) :: elementsOf rest).find? _ = _ at isFirst
          rw [List.find?_cons] at isFirst
          rw [stateItemsOfNode]
          by_cases isState : stateTags.contains tag.name = true
          · simp only [isState] at isFirst
            cases isFirst
            rw [if_pos isState]
            exact ⟨_, rfl⟩
          · simp only [isState] at isFirst
            rw [if_neg isState]
            exact restHypothesis isFirst
      | text | instruction | reference =>
          rw [stateItemsOfNode]
          exact restHypothesis isFirst

/-- The first state of distinct ones is the first at the top exactly if it is at the top. -/
theorem firstTopState?_eq_iff
    {first : State}
    {later : List State}
    (distinct : ((first :: later).map State.id).Nodup) :
    firstTopState? (first :: later) = some first.id ↔ first.parent? = none := by
  unfold firstTopState?
  cases isOuter : first.parent? with
  | none => simp [isOuter]
  | some outer =>
      rw [List.find?_cons_of_neg (by simp [isOuter])]
      refine iff_of_false (fun found => ?_) (Option.some_ne_none _)
      obtain ⟨state, isFound, sameId⟩ := Option.map_eq_some_iff.mp found
      rw [List.map_cons, List.nodup_cons] at distinct
      exact distinct.1 (sameId ▸ List.mem_map_of_mem (List.mem_of_find?_eq_some isFound))

section InitialState

variable {document : Document} {first : Tag} {children : List Node}
variable (isFirst : firstStateAmong? document.children = some (first, children))
include isFirst

/-- The states of a model start with that of the first state element at the top. -/
theorem exists_states_modelOf (source : Text) :
    ∃ state later, (modelOf source document).states = state :: later ∧
      state.id = valueOf first "id" := by
  obtain ⟨laterItems, items⟩ := stateItems_of_first isFirst
  have ids := ids_modelOf source document
  change _ = ((stateItems none document.children).map StateItem.id).eraseDups at ids
  rw [items, List.map_cons, List.eraseDups_cons] at ids
  obtain ⟨state, later, states, sameId, _⟩ := List.map_eq_cons_iff.mp ids
  exact ⟨state, later, states, sameId⟩

/-- A model without an initial state starts with the first element at the top exactly if the
last element of its id is at the top. -/
theorem initial_modelOf_iff
    {source : Text}
    (filled : valueOf first "id" ≠ [])
    (noInitial : (document.root.attribute? "initial").getD [] = []) :
    (modelOf source document).initial = valueOf first "id" ↔
      lastOuter? document (valueOf first "id") = none := by
  have distinct : ((modelOf source document).states.map State.id).Nodup :=
    ids_modelOf source document ▸ eraseDups_nodup _
  have isInitial : (modelOf source document).initial =
      (firstTopState? (modelOf source document).states).getD [] := by
    have noneGiven : (Outline.ofDocument document).initial?.getD [] = [] := noInitial
    unfold modelOf Outline.model Progress.finish
    rw [noneGiven]
    rfl
  obtain ⟨state, later, states, sameId⟩ := exists_states_modelOf isFirst source
  rw [states] at distinct
  have isOuter : lastOuter? document (valueOf first "id") = state.parent? := by
    rw [← outerIn?_modelOf source, states]
    simp [outerIn?, sameId]
  rw [isInitial, states, isOuter, ← firstTopState?_eq_iff distinct, sameId]
  cases firstTopState? (state :: later) with
  | none => exact iff_of_false (Ne.symm filled) (Option.some_ne_none _).symm
  | some top => exact Option.some_inj.symm

end InitialState

/-! ## The forest -/

/-- Every state of a model leads up to one at the top. -/
def StatesReachTop (model : RawModel) : Prop :=
  ∀ state ∈ model.states, ReachesTop (outerIn? model.states) state.id

/-- All states of a model lead to the top exactly if the last elements of the ids form no
ring. -/
theorem statesReachTop_modelOf_iff {source : Text} {document : Document} :
    StatesReachTop (modelOf source document) ↔
      ∀ id, ¬ Relation.TransGen (lastOuter? document · = some ·) id id := by
  rw [← outerIn?_modelOf source]
  have isState : ∀ id outer, outerIn? (modelOf source document).states id = some outer →
      ∃ state ∈ (modelOf source document).states, state.id = id ∧ state.parent? = some outer := by
    intro id outer isOuter
    obtain ⟨state, found, isParent⟩ := Option.bind_eq_some_iff.mp isOuter
    exact ⟨state, List.mem_of_find?_eq_some found, by simpa using List.find?_some found, isParent⟩
  constructor
  · intro reaches id ring
    obtain ⟨outer, isOuter, _⟩ := Relation.TransGen.head'_iff.mp ring
    obtain ⟨state, member, rfl, _⟩ := isState id outer isOuter
    exact (reaches state member).not_onRing ring
  · intro noRing state member
    refine reachesTop_of_noRing (fun id _ outer isOuter => ?_) noRing (List.mem_map_of_mem member)
    obtain ⟨inner, isInner, _, isParent⟩ := isState id outer isOuter
    exact parent_mem_modelOf isInner isParent

/-- In an accepted document the state around a state is in the model. All states lead up to
the top exactly if the last elements of the ids form no ring, so in particular if no state
stands in a state of its own id. And a document without an initial state starts with its
first element at the top exactly if the last element of that id is at the top as well. -/
theorem states_formForest_iff
    {source : Text}
    {document : Document}
    {run : Run RawModel}
    {model : RawModel}
    (reading : IsReading source document run)
    (accepts : run.outcome = .ok model) :
    (∀ state ∈ model.states, ∀ outer, state.parent? = some outer →
      outer ∈ model.states.map State.id) ∧
    (StatesReachTop model ↔
      ∀ id, ¬ Relation.TransGen (lastOuter? document · = some ·) id id) ∧
    ((∀ outer members inner children, Reached document.children outer members →
        Reached members inner children → valueOf inner "id" ≠ valueOf outer "id") →
      StatesReachTop model) ∧
    ∀ first children, firstStateAmong? document.children = some (first, children) →
      (document.root.attribute? "initial").getD [] = [] →
        (model.initial = valueOf first "id" ↔
          lastOuter? document (valueOf first "id") = none) := by
  obtain ⟨nothingWrong, rfl⟩ := reading.eq_modelOf accepts
  have skill := complaintsOf_eq_nil_iff.mp nothingWrong
  refine ⟨fun state member outer => parent_mem_modelOf member, statesReachTop_modelOf_iff,
    fun unnested state _ => ?_, fun first children isFirst noInitial => ?_⟩
  · have areUnnested : AreUnnested document.children [] :=
      ⟨skill.states, fun _ _ _ => List.not_mem_nil, unnested⟩
    have atStart : HasWay [] [] := ⟨fun _ => .top rfl, trivial⟩
    rw [states_modelOf]
    exact (hasWay_stateItems document.children areUnnested atStart).reaches state.id
  · have isState : first.name ∈ stateTags :=
      List.contains_iff_mem.mp (by simpa using List.find?_some isFirst)
    have isNode := mem_elementsOf.mp (List.mem_of_find?_eq_some isFirst)
    have filled := isFilled_iff.mp (skill.states first children (.here isNode isState))
    exact initial_modelOf_iff isFirst filled noInitial

/-- A skill with a state inside another one. -/
def nestChart (outer inner : Text) : Text :=
  "<scxml name='nest'><state id='" ++ outer ++ "'><state id='" ++ inner ++
    "'/></state></scxml>"

/-- What is read of the skill. -/
def nestModel (initial : Text) (states : List State) : RawModel where
  name := "nest"
  source := "nest.scxml"
  initial := initial
  datamodel := []
  states := states
  endpoints := []

/-- Two states of different ids lead to the top, and the skill starts with the outer one. -/
theorem states_formForest_nest :
    ∃ document model,
      Document.read (Text.utf8 (nestChart "a" "b")) = .ok document ∧
        (ofText "nest.scxml" (nestChart "a" "b")).outcome = .ok model ∧
        (∀ id, ¬ Relation.TransGen (lastOuter? document · = some ·) id id) ∧
        StatesReachTop model ∧
        ∃ first children, firstStateAmong? document.children = some (first, children) ∧
          lastOuter? document (valueOf first "id") = none ∧
            model.initial = valueOf first "id" := by
  have accepts : (ofText "nest.scxml" (nestChart "a" "b")).outcome =
      .ok (nestModel "a" [⟨"a", none, false, []⟩, ⟨"b", some "a", false, []⟩]) := by
    decide +kernel
  have looks : (Document.read (Text.utf8 (nestChart "a" "b"))).toOption.map (fun document =>
      ((firstStateAmong? document.children).map (valueOf ·.1 "id"),
        document.root.attribute? "initial")) = some (some ("a" : Text), none) := by
    decide +kernel
  obtain ⟨document, reads⟩ := exists_document_of_ofText accepts
  rw [reads] at looks
  obtain ⟨firstId, noInitial⟩ := Prod.mk.inj (Option.some.inj looks)
  obtain ⟨⟨first, children⟩, isFirst, isId⟩ := Option.map_eq_some_iff.mp firstId
  have isId : valueOf first "id" = "a" := isId
  have outers : lastOuter? document = outerIn? (putKeyed State.id ⟨"b", some "a", false, []⟩
      (putKeyed State.id ⟨"a", none, false, []⟩ [])) := by
    rw [← outerIn?_modelOf "nest.scxml", ← (IsReading.ofText reads).eq_modelOf accepts |>.2]
    rfl
  have atTop : lastOuter? document "a" = none := by
    rw [outers]
    rfl
  have onlyInner : ∀ id outer, lastOuter? document id = some outer → id = "b" ∧ outer = "a" := by
    intro id outer isOuter
    by_cases isA : ("a" : Text) = id
    · rw [← isA, atTop] at isOuter
      cases isOuter
    · by_cases isB : ("b" : Text) = id
      · rw [← isB, outers] at isOuter
        exact ⟨isB.symm, (Option.some.inj isOuter).symm⟩
      · rw [outers, outerIn?_putKeyed, if_neg isB, outerIn?_putKeyed, if_neg isA] at isOuter
        exact absurd isOuter (Option.some_ne_none _).symm
  have noRing : ∀ id, ¬ Relation.TransGen (lastOuter? document · = some ·) id id := by
    intro id ring
    obtain ⟨outer, isOuter, _⟩ := Relation.TransGen.head'_iff.mp ring
    obtain ⟨inner, _, isInner⟩ := Relation.TransGen.tail'_iff.mp ring
    -- Only the inner state has one around it, and only the outer one is around another.
    have isB := (onlyInner id outer isOuter).1
    rw [(onlyInner inner id isInner).2] at isB
    revert isB
    decide
  have forest := states_formForest_iff (.ofText reads) accepts
  have starts := forest.2.2.2 first children isFirst (by rw [noInitial]; rfl)
  exact ⟨document, _, reads, accepts, noRing, forest.2.1.mpr noRing, first, children, isFirst,
    isId ▸ atTop, starts.mpr (isId ▸ atTop)⟩

/-- A state inside a state of its own id takes its place, so that it is around itself and the
skill has no initial state. -/
theorem states_formRing_nest :
    ∃ document,
      Document.read (Text.utf8 (nestChart "a" "a")) = .ok document ∧
        (ofText "nest.scxml" (nestChart "a" "a")).outcome =
          .ok (nestModel [] [⟨"a", some "a", false, []⟩]) ∧
        ¬ StatesReachTop (nestModel [] [⟨"a", some "a", false, []⟩]) ∧
        ∃ first children, firstStateAmong? document.children = some (first, children) ∧
          (document.root.attribute? "initial").getD [] = [] ∧
            (nestModel [] [⟨"a", some "a", false, []⟩]).initial ≠ valueOf first "id" := by
  have accepts : (ofText "nest.scxml" (nestChart "a" "a")).outcome =
      .ok (nestModel [] [⟨"a", some "a", false, []⟩]) := by
    decide +kernel
  have looks : (Document.read (Text.utf8 (nestChart "a" "a"))).toOption.map (fun document =>
      ((firstStateAmong? document.children).map (valueOf ·.1 "id"),
        document.root.attribute? "initial")) = some (some ("a" : Text), none) := by
    decide +kernel
  obtain ⟨document, reads⟩ := exists_document_of_ofText accepts
  rw [reads] at looks
  obtain ⟨firstId, noInitial⟩ := Prod.mk.inj (Option.some.inj looks)
  obtain ⟨⟨first, children⟩, isFirst, isId⟩ := Option.map_eq_some_iff.mp firstId
  refine ⟨document, reads, accepts, fun reaches => ?_, first, children, isFirst, ?_, ?_⟩
  · exact (reaches _ (List.mem_singleton.mpr rfl)).not_onRing (Relation.TransGen.single rfl)
  · rw [noInitial]
    rfl
  · change [] ≠ valueOf first "id"
    rw [isId]
    decide

end Statechart
end SkillNode
