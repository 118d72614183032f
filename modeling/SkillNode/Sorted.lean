/-!
# Sorted lists

A list of distinct values in order, built by putting one value after the other at
its place. The main statements say that nothing is lost and nothing added, and that
the list is strictly increasing.
-/

namespace SkillNode
namespace Sorted

/-- Put a value at its place in a sorted list, unless it is there. -/
def insert {α : Type} [DecidableEq α] [LT α] [DecidableLT α] (new : α) : List α → List α
  | [] => [new]
  | value :: rest =>
      if new = value then value :: rest
      else if new < value then new :: value :: rest
      else value :: insert new rest

/-- The distinct values of a list in order. -/
def ofList {α : Type} [DecidableEq α] [LT α] [DecidableLT α] (values : List α) : List α :=
  values.foldr insert []

theorem mem_insert
    {α : Type} [DecidableEq α] [LT α] [DecidableLT α]
    {new other : α}
    {values : List α} :
    other ∈ insert new values ↔ other = new ∨ other ∈ values := by
  induction values with
  | nil => simp [insert]
  | cons value rest restHypothesis =>
      unfold insert
      split
      · next same => subst same; simp
      · split
        · simp
        · rw [List.mem_cons, restHypothesis, List.mem_cons]
          exact or_left_comm

/-- A sorted list has the members of the list it was built from. -/
@[simp] theorem mem_ofList
    {α : Type} [DecidableEq α] [LT α] [DecidableLT α]
    {value : α}
    {values : List α} :
    value ∈ ofList values ↔ value ∈ values := by
  induction values with
  | nil => simp [ofList]
  | cons first rest restHypothesis =>
      rw [ofList, List.foldr_cons, mem_insert, ← ofList, restHypothesis, List.mem_cons]

section Increasing

variable {α : Type} [DecidableEq α] [LT α] [DecidableLT α]
  [Trans (· < ·) (· < ·) ((· < ·) : α → α → Prop)] [Std.Trichotomous ((· < ·) : α → α → Prop)]

theorem pairwise_insert
    (new : α)
    {values : List α}
    (increasing : values.Pairwise (· < ·)) :
    (insert new values).Pairwise (· < ·) := by
  induction values with
  | nil => simp [insert]
  | cons value rest restHypothesis =>
      obtain ⟨valueFirst, restIncreasing⟩ := List.pairwise_cons.mp increasing
      unfold insert
      split
      · exact increasing
      · next different =>
          split
          · next newFirst =>
              refine List.pairwise_cons.mpr ⟨fun other member => ?_, increasing⟩
              rcases List.mem_cons.mp member with rfl | later
              · exact newFirst
              · exact Trans.trans newFirst (valueFirst other later)
          · next notFirst =>
              have valueLess : value < new :=
                (Std.Trichotomous.rel_or_eq_or_rel_swap.resolve_left notFirst).resolve_left
                  different
              refine List.pairwise_cons.mpr ⟨fun other member => ?_, restHypothesis restIncreasing⟩
              rcases mem_insert.mp member with rfl | later
              · exact valueLess
              · exact valueFirst other later

/-- A sorted list is strictly increasing. -/
theorem pairwise_ofList (values : List α) : (ofList values).Pairwise (· < ·) := by
  induction values with
  | nil => exact .nil
  | cons first rest restHypothesis => exact pairwise_insert first restHypothesis

end Increasing

end Sorted
end SkillNode
