import Mathlib.Data.List.Forall2

/-!
# Mapping with failure

A transformation that can fail is applied to the items of a list in order, until it fails.
All results are those of items and all items have one, or the failure is that of some item.

Outcomes that are made in two stages are results just if both stages give one.
-/

namespace SkillNode

section Mapping

variable {Item Result Trouble : Type} {transform : Item → Except Trouble Result}

theorem mapM_cons_eq (item : Item) (items : List Item) :
    (item :: items).mapM transform =
      match transform item with
      | .error trouble => .error trouble
      | .ok result =>
          match items.mapM transform with
          | .error trouble => .error trouble
          | .ok results => .ok (result :: results) := by
  rw [List.mapM_cons]
  cases transform item with
  | error trouble => rfl
  | ok result => cases items.mapM transform <;> rfl

/-- A mapping succeeds exactly if it does for every item. -/
theorem mapM_eq_ok_iff {items : List Item} {results : List Result} :
    items.mapM transform = .ok results ↔
      List.Forall₂ (fun item result => transform item = .ok result) items results := by
  induction items generalizing results with
  | nil => cases results <;> simp [pure, Except.pure]
  | cons item items restHypothesis =>
      rw [mapM_cons_eq, List.forall₂_cons_left_iff]
      cases transform item with
      | error trouble => simp
      | ok result =>
          simp only [← restHypothesis]
          cases items.mapM transform <;> simp [eq_comm]

/-- A mapping fails with the trouble of some item. -/
theorem exists_of_mapM_error
    {items : List Item}
    {trouble : Trouble}
    (failed : items.mapM transform = .error trouble) :
    ∃ item ∈ items, transform item = .error trouble := by
  induction items with
  | nil => cases failed
  | cons item items restHypothesis =>
      rw [mapM_cons_eq] at failed
      cases first : transform item with
      | error earlier =>
          obtain rfl : earlier = trouble := by simpa [first] using failed
          exact ⟨item, List.mem_cons_self .., first⟩
      | ok result =>
          cases rest : items.mapM transform with
          | error later =>
              obtain rfl : later = trouble := by simpa [first, rest] using failed
              obtain ⟨culprit, member, fails⟩ := restHypothesis rest
              exact ⟨culprit, List.mem_cons_of_mem _ member, fails⟩
          | ok others => simp [first, rest] at failed

/-- Every item of a mapping has a result. -/
theorem exists_of_mapM_ok
    {items : List Item}
    {results : List Result}
    (mapped : items.mapM transform = .ok results)
    {item : Item}
    (member : item ∈ items) :
    ∃ result ∈ results, transform item = .ok result := by
  have related := mapM_eq_ok_iff.mp mapped
  clear mapped
  induction related with
  | nil => simp at member
  | cons first rest restHypothesis =>
      rcases List.mem_cons.mp member with rfl | later
      · exact ⟨_, List.mem_cons_self .., first⟩
      · obtain ⟨result, resultMember, transforms⟩ := restHypothesis later
        exact ⟨result, List.mem_cons_of_mem _ resultMember, transforms⟩

/-- Every result of a mapping is that of an item. -/
theorem exists_of_mem_mapM
    {items : List Item}
    {results : List Result}
    (mapped : items.mapM transform = .ok results)
    {result : Result}
    (member : result ∈ results) :
    ∃ item ∈ items, transform item = .ok result := by
  have related := mapM_eq_ok_iff.mp mapped
  clear mapped
  induction related with
  | nil => simp at member
  | cons first rest restHypothesis =>
      rcases List.mem_cons.mp member with rfl | later
      · exact ⟨_, List.mem_cons_self .., first⟩
      · obtain ⟨item, itemMember, transforms⟩ := restHypothesis later
        exact ⟨item, List.mem_cons_of_mem _ itemMember, transforms⟩

/-- Where results tell what they came from, the items can be had back. -/
theorem map_of_mapM_ok
    {items : List Item}
    {results : List Result}
    (mapped : items.mapM transform = .ok results)
    {back : Result → Item}
    (restores : ∀ item result, transform item = .ok result → back result = item) :
    results.map back = items := by
  have related := mapM_eq_ok_iff.mp mapped
  clear mapped
  induction related with
  | nil => rfl
  | cons first rest restHypothesis =>
      rw [List.map_cons, restores _ _ first, restHypothesis]

end Mapping

section Stages

variable {First Second Trouble : Type} {outcome : Except Trouble First} {result : Second}

theorem bind_eq_ok_iff {next : First → Except Trouble Second} :
    outcome.bind next = .ok result ↔ ∃ first, outcome = .ok first ∧ next first = .ok result := by
  cases outcome <;> simp [Except.bind]

theorem map_eq_ok_iff {change : First → Second} :
    outcome.map change = .ok result ↔ ∃ first, outcome = .ok first ∧ change first = result := by
  cases outcome <;> simp [Except.map]

end Stages

end SkillNode
