import SkillNode.Proofs.Statechart.SoundOutlines

/-!
# Alike outlines

Two outlines are alike if they have the same items in the same order, whatever lines these
stand on, and requests by the same names, however often each is made. Alike outlines are
both sound or both not, and have one model.
-/

namespace SkillNode
namespace Statechart

/-! ## Items without their lines -/

/-- A data element without its line. -/
def DataItem.unplaced (item : DataItem) : DataItem := { item with line := 0 }

/-- A declaration without its line. -/
def DeclarationItem.unplaced (item : DeclarationItem) : DeclarationItem := { item with line := 0 }

/-- An assignment without its line. -/
def AssignItem.unplaced (item : AssignItem) : AssignItem := { item with line := 0 }

/-- A handler without its line and those of its assignments. -/
def HandlerItem.unplaced (item : HandlerItem) : HandlerItem :=
  { item with line := 0, assigns := item.assigns.map AssignItem.unplaced }

/-- A state without its line and those of its handlers. -/
def StateItem.unplaced (item : StateItem) : StateItem :=
  { item with line := 0, handlers := item.handlers.map HandlerItem.unplaced }

@[simp] theorem HandlerItem.writes_unplaced (item : HandlerItem) :
    item.unplaced.writes = item.writes :=
  List.filterMap_map ..

/-- A property that does not look at lines holds of all items of a list if it holds of
those of a list with the same items. -/
theorem forall_mem_of_map_eq
    {Item : Type}
    {unplaced : Item → Item}
    {Holds : Item → Prop}
    {first second : List Item}
    (same : first.map unplaced = second.map unplaced)
    (overlooks : ∀ item, Holds (unplaced item) ↔ Holds item)
    (holds : ∀ item ∈ first, Holds item) :
    ∀ item ∈ second, Holds item := by
  intro item member
  have isImage : unplaced item ∈ first.map unplaced := same ▸ List.mem_map_of_mem member
  obtain ⟨other, isOther, sameItem⟩ := List.mem_map.mp isImage
  rw [← overlooks, ← sameItem, overlooks]
  exact holds other isOther

/-- What does not look at lines is the same for lists with the same items. -/
theorem map_eq_of_map_eq
    {Item Seen : Type}
    {unplaced : Item → Item}
    {see : Item → Seen}
    {first second : List Item}
    (same : first.map unplaced = second.map unplaced)
    (overlooks : ∀ item, see (unplaced item) = see item) :
    first.map see = second.map see := by
  have seen := congrArg (List.map see) same
  simpa [Function.comp_def, overlooks] using seen

namespace Outline

/-- Two outlines with the same items in the same order and requests by the same names. -/
structure Alike (first second : Outline) : Prop where
  rootName : first.rootName = second.rootName
  name : first.name? = second.name?
  initial : first.initial? = second.initial?
  data : first.data.map DataItem.unplaced = second.data.map DataItem.unplaced
  declarations : first.declarations.map DeclarationItem.unplaced =
    second.declarations.map DeclarationItem.unplaced
  states : first.states.map StateItem.unplaced = second.states.map StateItem.unplaced
  requests : ∀ name?, name? ∈ first.requests.map RequestItem.name? ↔
    name? ∈ second.requests.map RequestItem.name?

variable {first second : Outline}

theorem Alike.symm (alike : first.Alike second) : second.Alike first where
  rootName := alike.rootName.symm
  name := alike.name.symm
  initial := alike.initial.symm
  data := alike.data.symm
  declarations := alike.declarations.symm
  states := alike.states.symm
  requests name? := (alike.requests name?).symm

theorem Alike.handlers (alike : first.Alike second) :
    first.handlers.map HandlerItem.unplaced = second.handlers.map HandlerItem.unplaced := by
  have unplacedHandlers : ∀ outline : Outline, outline.handlers.map HandlerItem.unplaced =
      (outline.states.map StateItem.unplaced).flatMap StateItem.handlers := by
    intro outline
    rw [Outline.handlers, List.map_flatMap, List.flatMap_map]
    rfl
  rw [unplacedHandlers, unplacedHandlers, alike.states]

theorem Alike.kindOf? (alike : first.Alike second) : first.kindOf? = second.kindOf? := by
  funext name
  have unplacedKind : ∀ outline : Outline, outline.kindOf? name =
      ((outline.declarations.map DeclarationItem.unplaced).find? (·.clientName = name)).map
        DeclarationItem.kind := by
    intro outline
    rw [List.find?_map, Option.map_map]
    rfl
  rw [unplacedKind, unplacedKind, alike.declarations]

/-- Requests by the same names refer to the same clients. -/
theorem Alike.any_client (alike : first.Alike second) (client : Text) :
    first.requests.any (·.client = client) = second.requests.any (·.client = client) := by
  have named : ∀ outline : Outline, outline.requests.any (·.client = client) = true ↔
      ∃ name? ∈ outline.requests.map RequestItem.name?, trimmed name? = client := by
    intro outline
    simp only [List.any_eq_true, decide_eq_true_eq, List.mem_map, exists_exists_and_eq_and]
    rfl
  rw [Bool.eq_iff_iff, named, named]
  simp only [alike.requests]

/-- An outline that is alike to a sound one is sound. -/
theorem Alike.isSound (alike : first.Alike second) (sound : first.IsSound) : second.IsSound where
  data := forall_mem_of_map_eq alike.data (fun _ => Iff.rfl) sound.data
  declarations := forall_mem_of_map_eq alike.declarations (fun _ => Iff.rfl) sound.declarations
  clients := by
    have sameClients : first.declarations.map DeclarationItem.clientName =
        second.declarations.map DeclarationItem.clientName :=
      map_eq_of_map_eq alike.declarations fun _ => rfl
    exact sameClients ▸ sound.clients
  states := forall_mem_of_map_eq alike.states (fun _ => Iff.rfl) sound.states
  handlers := by
    rw [← alike.kindOf?]
    exact forall_mem_of_map_eq alike.handlers (fun _ => Iff.rfl) sound.handlers
  assigns := by
    refine forall_mem_of_map_eq alike.handlers (fun handler => ?_) sound.assigns
    exact List.forall_mem_map
  requests := by
    -- A request need not stand in both outlines, only one by its name.
    intro item member
    have isNamed : item.name? ∈ first.requests.map RequestItem.name? :=
      (alike.requests _).mpr (List.mem_map_of_mem member)
    obtain ⟨other, isOther, sameName⟩ := List.mem_map.mp isNamed
    have refers := sound.requests other isOther
    rwa [alike.kindOf?, RequestItem.client, sameName] at refers

theorem Alike.complaints_eq_nil_iff
    (alike : first.Alike second)
    (source fallbackName : Text) :
    first.complaints source fallbackName = [] ↔ second.complaints source fallbackName = [] := by
  have sameName : first.skillName fallbackName = second.skillName fallbackName := by
    rw [skillName, skillName, alike.name]
  rw [Outline.complaints_eq_nil_iff, Outline.complaints_eq_nil_iff, alike.rootName, sameName]
  exact and_congr_right fun _ => and_congr_right fun _ =>
    ⟨alike.isSound, alike.symm.isSound⟩

/-- Endpoints hear alike handlers in one way. -/
theorem Alike.hear (alike : first.Alike second) :
    Endpoint.hear first.handlers = Endpoint.hear second.handlers := by
  funext endpoint
  have unplacedHear : ∀ outline : Outline, endpoint.hear outline.handlers =
      endpoint.hear (outline.handlers.map HandlerItem.unplaced) := by
    intro outline
    have sameClients : (fun item : HandlerItem =>
        decide (item.unplaced.client = endpoint.clientName)) =
          fun item => decide (item.client = endpoint.clientName) := rfl
    simp only [Endpoint.hear, List.filter_map, List.flatMap_map, List.map_map, Function.comp_def,
      HandlerItem.writes_unplaced, sameClients]
    rfl
  rw [unplacedHear, unplacedHear, alike.handlers]

theorem Alike.endpoints (alike : first.Alike second) (source nodeName : Text) :
    (first.takeAll source nodeName).endpoints = (second.takeAll source nodeName).endpoints := by
  have sameDeclared : first.declarations.map (DeclarationItem.endpoint nodeName) =
      second.declarations.map (DeclarationItem.endpoint nodeName) :=
    map_eq_of_map_eq alike.declarations fun _ => rfl
  have sameHeed : Endpoint.heed first.requests = Endpoint.heed second.requests := by
    funext endpoint
    rw [Endpoint.heed, Endpoint.heed, alike.any_client]
  have split : ∀ outline : Outline, (outline.takeAll source nodeName).endpoints =
      ((outline.declarations.map (DeclarationItem.endpoint nodeName)).map
        (Endpoint.hear outline.handlers)).map (Endpoint.heed outline.requests) := by
    intro outline
    rw [endpoints_takeAll, List.map_map, List.map_map]
    rfl
  rw [split, split, sameDeclared, alike.hear, sameHeed]

theorem Alike.surroundings (alike : first.Alike second) (source nodeName : Text) :
    (first.takeAll source nodeName).surroundings =
      (second.takeAll source nodeName).surroundings := by
  have sameVariables : first.data.map DataItem.variable = second.data.map DataItem.variable :=
    map_eq_of_map_eq alike.data fun _ => rfl
  have sameStates : (first.states.map fun item => item.state item.id) =
      second.states.map fun item => item.state item.id :=
    map_eq_of_map_eq alike.states fun _ => rfl
  rw [surroundings_takeAll, surroundings_takeAll, sameVariables, sameStates]

/-- Alike outlines have one model. -/
theorem Alike.model (alike : first.Alike second) (source fallbackName : Text) :
    first.model source fallbackName = second.model source fallbackName := by
  have sameName : first.skillName fallbackName = second.skillName fallbackName := by
    rw [skillName, skillName, alike.name]
  unfold Outline.model Outline.taken
  rw [sameName, alike.initial]
  have sameEndpoints := alike.endpoints source
    ((nodeName? (second.skillName fallbackName)).getD [])
  obtain ⟨sameVariables, sameStates⟩ := Prod.mk.inj (alike.surroundings source
    ((nodeName? (second.skillName fallbackName)).getD []))
  unfold Progress.finish
  rw [sameEndpoints, sameVariables, sameStates]

end Outline

end Statechart
end SkillNode
