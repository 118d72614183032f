import SkillNode.Proofs.Statechart.KeyedWrites
import SkillNode.Statechart.Model

/-!
# Last writes

Assignments are put one after the other into a list that holds one assignment for each
field. The main statement says what is left of them: each field stands where it came
first, with the location that came last.
-/

namespace SkillNode
namespace Statechart

/-- Put assignments one after the other. -/
def putAssignments (known writes : List Assignment) : List Assignment :=
  writes.foldl (fun known write => putAssignment write known) known

/-- The last of some assignments to a field. -/
def lastWrite? (field : Text) (writes : List Assignment) : Option Assignment :=
  (writes.filter (·.field = field)).getLast?

/-- The last assignment to each field, in the order in which the fields came first. -/
def lastWrites (writes : List Assignment) : List Assignment :=
  (writes.map Assignment.field).eraseDups.filterMap (lastWrite? · writes)

theorem putAssignment_eq (new : Assignment) (known : List Assignment) :
    putAssignment new known = putKeyed Assignment.field new known := by
  induction known with
  | nil => rfl
  | cons assignment rest restHypothesis => rw [putAssignment, putKeyed, restHypothesis]

/-- Assignments are put under their fields. -/
theorem putAssignments_eq (known writes : List Assignment) :
    putAssignments known writes = putAllKeyed Assignment.field known writes := by
  simp only [putAssignments, putAllKeyed, putAssignment_eq]

/-- A field is found as it was written last. -/
theorem find?_putAssignments (field : Text) (known writes : List Assignment) :
    (putAssignments known writes).find? (·.field = field) =
      (lastWrite? field writes).or (known.find? (·.field = field)) := by
  rw [putAssignments_eq, find?_putAllKeyed]
  rfl

/-- The fields stand in the order in which they came first. -/
theorem fields_putAssignments (writes : List Assignment) :
    (putAssignments [] writes).map Assignment.field =
      (writes.map Assignment.field).eraseDups := by
  rw [putAssignments_eq, keys_putAllKeyed]

/-- A list with one assignment for each field is told by its fields and what is found under
them. -/
theorem filterMap_find?_of_nodup
    {known : List Assignment}
    (distinct : (known.map Assignment.field).Nodup) :
    (known.map Assignment.field).filterMap (fun field => known.find? (·.field = field)) =
      known := by
  rw [List.filterMap_map]
  exact filterMap_find?_key distinct fun _ => id

/-- Of assignments put one after the other the last ones are left. -/
theorem putAssignments_eq_lastWrites (writes : List Assignment) :
    putAssignments [] writes = lastWrites writes := by
  have distinct : ((putAssignments [] writes).map Assignment.field).Nodup := by
    rw [fields_putAssignments]
    exact eraseDups_nodup _
  rw [← filterMap_find?_of_nodup distinct, fields_putAssignments]
  refine List.filterMap_congr fun field _ => ?_
  rw [find?_putAssignments, List.find?_nil, Option.or_none]

end Statechart
end SkillNode
