import SkillNode.Proofs.Statechart.TakenItems

/-!
# Sound outlines

Nothing is complained of in an outline exactly if all of its items are complete, its
clients are distinct, and its handlers and requests refer to declared clients of their
kind. Lines have no part in it.
-/

namespace SkillNode
namespace Statechart

/-! ## Items without complaints -/

theorem DataItem.faults_eq_nil_iff {item : DataItem} :
    item.faults = [] ↔ trimmed item.id? ≠ [] ∧ trimmed item.type? ≠ [] := by
  simp [faults]

theorem DeclarationItem.faults_eq_nil_iff {item : DeclarationItem} :
    item.faults = [] ↔
      trimmed item.rosName? ≠ [] ∧ trimmed item.type? ≠ [] ∧
        item.interface.1 ≠ [] ∧ item.interface.2 ≠ [] ∧
          Naming.rosSegments item.rosName ≠ [] := by
  simp [faults, not_or, and_assoc]

theorem AssignItem.faults_eq_nil_iff {item : AssignItem} :
    item.faults = [] ↔ trimmed item.location? ≠ [] ∧ trimmed item.expr? ≠ [] := by
  simp [faults]

theorem HandlerItem.faults_eq_nil_iff
    {kindOf? : Text → Option Interface.Kind}
    {item : HandlerItem} :
    item.faults kindOf? = [] ↔
      trimmed item.name? ≠ [] ∧ trimmed item.target? ≠ [] ∧
        kindOf? item.client = some item.kind := by
  simp [faults]

/-- Declarations without complaints are complete and declare clients that are new. -/
theorem declarationComplaints_eq_nil_iff
    {source : Text}
    {earlier : List Text}
    {items : List DeclarationItem} :
    declarationComplaints source earlier items = [] ↔
      (∀ item ∈ items, item.faults = []) ∧
        (items.map DeclarationItem.clientName).Nodup ∧
          ∀ item ∈ items, item.clientName ∉ earlier := by
  induction items generalizing earlier with
  | nil => simp [declarationComplaints]
  | cons item rest restHypothesis =>
      rw [declarationComplaints, List.append_eq_nil_iff, restHypothesis]
      simp only [DeclarationItem.complaints, List.map_eq_nil_iff, List.append_eq_nil_iff,
        ite_eq_right_iff, List.forall_mem_cons, List.map_cons, List.nodup_cons, List.mem_append,
        List.mem_singleton, not_or, List.mem_map, not_exists, not_and]
      constructor
      · rintro ⟨⟨complete, isNew⟩, restComplete, restDistinct, restNew⟩
        refine ⟨⟨complete, restComplete⟩, ⟨fun other member => (restNew other member).2,
          restDistinct⟩, fun known => ?_, fun other member => (restNew other member).1⟩
        cases isNew known
      · rintro ⟨⟨complete, restComplete⟩, ⟨notAgain, restDistinct⟩, isNew, restNew⟩
        exact ⟨⟨complete, fun known => absurd known isNew⟩, restComplete, restDistinct,
          fun other member => ⟨restNew other member, notAgain other member⟩⟩

/-- Declarations that come first have no complaints if they are complete and distinct. -/
theorem declarationComplaints_nil_eq_nil_iff {source : Text} {items : List DeclarationItem} :
    declarationComplaints source [] items = [] ↔
      (∀ item ∈ items, item.faults = []) ∧ (items.map DeclarationItem.clientName).Nodup := by
  simp [declarationComplaints_eq_nil_iff]

theorem HandlerItem.complaints_eq_nil_iff
    {source : Text}
    {kindOf? : Text → Option Interface.Kind}
    {item : HandlerItem} :
    item.complaints source kindOf? = [] ↔
      item.faults kindOf? = [] ∧ ∀ assign ∈ item.assigns, assign.faults = [] := by
  simp [complaints, AssignItem.complaints]

theorem StateItem.complaints_eq_nil_iff
    {source : Text}
    {kindOf? : Text → Option Interface.Kind}
    {item : StateItem} :
    item.complaints source kindOf? = [] ↔
      trimmed item.id? ≠ [] ∧
        ∀ handler ∈ item.handlers, handler.complaints source kindOf? = [] := by
  simp [complaints]

theorem RequestItem.complaints_eq_nil_iff
    {source : Text}
    {kindOf? : Text → Option Interface.Kind}
    {item : RequestItem} :
    item.complaints source kindOf? = [] ↔
      trimmed item.name? ≠ [] ∧ kindOf? item.client = some .service := by
  simp [complaints]

namespace Outline

/-- All items of an outline are complete, its clients are distinct, and its handlers and
requests refer to clients of their kind. -/
structure IsSound (outline : Outline) : Prop where
  data : ∀ item ∈ outline.data, item.faults = []
  declarations : ∀ item ∈ outline.declarations, item.faults = []
  clients : (outline.declarations.map DeclarationItem.clientName).Nodup
  states : ∀ item ∈ outline.states, trimmed item.id? ≠ []
  handlers : ∀ item ∈ outline.handlers, item.faults outline.kindOf? = []
  assigns : ∀ item ∈ outline.handlers, ∀ assign ∈ item.assigns, assign.faults = []
  requests : ∀ item ∈ outline.requests,
    trimmed item.name? ≠ [] ∧ outline.kindOf? item.client = some .service

theorem itemComplaints_eq_nil_iff {source : Text} {outline : Outline} :
    outline.itemComplaints source = [] ↔ outline.IsSound := by
  simp only [itemComplaints, List.append_eq_nil_iff, List.flatMap_eq_nil_iff,
    declarationComplaints_nil_eq_nil_iff, DataItem.complaints, List.map_eq_nil_iff,
    StateItem.complaints_eq_nil_iff, HandlerItem.complaints_eq_nil_iff,
    RequestItem.complaints_eq_nil_iff]
  constructor
  · rintro ⟨data, ⟨declarations, clients⟩, states, requests⟩
    refine ⟨data, declarations, clients, fun state member => (states state member).1, ?_, ?_,
      requests⟩
    all_goals
      intro handler member
      obtain ⟨state, isState, isHandler⟩ := List.mem_flatMap.mp member
      obtain ⟨complete, assigns⟩ := (states state isState).2 handler isHandler
      assumption
  · intro sound
    refine ⟨sound.data, ⟨sound.declarations, sound.clients⟩, fun state isState =>
      ⟨sound.states state isState, fun handler isHandler => ?_⟩, sound.requests⟩
    have member : handler ∈ outline.handlers := List.mem_flatMap.mpr ⟨state, isState, isHandler⟩
    exact ⟨sound.handlers handler member, sound.assigns handler member⟩

/-- Nothing is complained of if the root and the name are right and the items are sound. -/
theorem complaints_eq_nil_iff {source fallbackName : Text} {outline : Outline} :
    outline.complaints source fallbackName = [] ↔
      outline.rootName = rootTag ∧
        Naming.className? (outline.skillName fallbackName) ≠ none ∧ outline.IsSound := by
  simp [complaints, itemComplaints_eq_nil_iff]

end Outline

end Statechart
end SkillNode
