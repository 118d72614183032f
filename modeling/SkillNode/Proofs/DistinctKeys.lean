import SkillNode.Text.Basic
import Mathlib.Data.List.Nodup

/-!
# Items with distinct keys

In a list whose items have distinct keys, what is found under a key is what has it, wherever
it stands.
-/

namespace SkillNode

section DistinctKeys

variable {Item Key : Type} [DecidableEq Key] {key : Item → Key} {items : List Item}

/-- Where keys are distinct, what is found under a key is what has it. -/
theorem find?_key_eq_some_iff
    (distinct : (items.map key).Nodup)
    {name : Key}
    {item : Item} :
    items.find? (key · = name) = some item ↔ item ∈ items ∧ key item = name := by
  constructor
  · intro found
    exact ⟨List.mem_of_find?_eq_some found, by simpa using List.find?_some found⟩
  · rintro ⟨member, rfl⟩
    cases found : items.find? (key · = key item) with
    | none => simpa using List.find?_eq_none.mp found item member
    | some first =>
        have sameKey : key first = key item := by simpa using List.find?_some found
        rw [List.inj_on_of_nodup_map distinct (List.mem_of_find?_eq_some found) member sameKey]

/-- Where keys are distinct, some of the items are found again under their keys. -/
theorem filterMap_find?_key
    {chosen : List Item}
    (distinct : (items.map key).Nodup)
    (included : ∀ item ∈ chosen, item ∈ items) :
    chosen.filterMap (fun item => items.find? (key · = key item)) = chosen := by
  have isFound : ∀ item ∈ chosen, items.find? (key · = key item) = some item :=
    fun item member => (find?_key_eq_some_iff distinct).mpr ⟨included item member, rfl⟩
  exact (List.filterMap_congr isFound).trans List.filterMap_some

end DistinctKeys

end SkillNode
