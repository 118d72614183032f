import SkillNode.Proofs.DistinctKeys
import Mathlib.Data.List.Induction

/-!
# Writes under keys

Items are put one after the other into a list that holds one item for each key. A key is
found as it was written last, and stands where it was written first.
-/

namespace SkillNode
namespace Statechart

/-! ## Lists without repetitions -/

theorem eraseDups_concat (names : List Text) (name : Text) :
    (names ++ [name]).eraseDups =
      if name ∈ names then names.eraseDups else names.eraseDups ++ [name] := by
  rw [List.eraseDups_append]
  by_cases isKnown : name ∈ names <;> simp [List.removeAll, List.eraseDups_cons, isKnown]

/-- It does not matter whether names are left out before or after repetitions. -/
theorem filter_eraseDups (keeps : Text → Bool) (names : List Text) :
    names.eraseDups.filter keeps = (names.filter keeps).eraseDups := by
  induction names using List.reverseRecOn with
  | nil => rfl
  | append_singleton earlier name earlierHypothesis =>
      rw [eraseDups_concat, List.filter_append]
      by_cases isKept : keeps name = true
      · have sameTest : name ∈ earlier.filter keeps ↔ name ∈ earlier := by simp [isKept]
        rw [List.filter_singleton, isKept, Bool.cond_true, eraseDups_concat]
        by_cases isKnown : name ∈ earlier
        · rw [if_pos isKnown, if_pos (sameTest.mpr isKnown), earlierHypothesis]
        · rw [if_neg isKnown, if_neg (mt sameTest.mp isKnown), List.filter_append,
            earlierHypothesis, List.filter_singleton, isKept, Bool.cond_true]
      · split <;> simp [isKept, earlierHypothesis]

theorem eraseDups_nodup (names : List Text) : names.eraseDups.Nodup := by
  induction names using List.reverseRecOn with
  | nil => simp
  | append_singleton earlier name earlierHypothesis =>
      rw [eraseDups_concat]
      split
      · exact earlierHypothesis
      · next isNew =>
          rw [← List.mem_eraseDups] at isNew
          simpa using earlierHypothesis.concat isNew

/-! ## Items under keys -/

section Keyed

variable {Item : Type} (key : Item → Text)

/-- Put an item, in place if there is one with its key. -/
def putKeyed (new : Item) : List Item → List Item
  | [] => [new]
  | item :: rest => if key item = key new then new :: rest else item :: putKeyed new rest

/-- Put items one after the other. -/
def putAllKeyed (known writes : List Item) : List Item :=
  writes.foldl (fun known new => putKeyed key new known) known

/-- The last of some items with a key. -/
def lastKeyed? (name : Text) (writes : List Item) : Option Item :=
  (writes.filter (key · = name)).getLast?

theorem putAllKeyed_append (known first second : List Item) :
    putAllKeyed key known (first ++ second) =
      putAllKeyed key (putAllKeyed key known first) second :=
  List.foldl_append

theorem find?_putKeyed (name : Text) (new : Item) (known : List Item) :
    (putKeyed key new known).find? (key · = name) =
      if key new = name then some new else known.find? (key · = name) := by
  induction known with
  | nil => by_cases isNew : key new = name <;> simp [putKeyed, isNew]
  | cons item rest restHypothesis =>
      unfold putKeyed
      by_cases sameKey : key item = key new
      · rw [if_pos sameKey]
        by_cases isNew : key new = name <;> simp [sameKey, isNew]
      · rw [if_neg sameKey]
        by_cases isHere : key item = name
        · subst isHere
          simp [Ne.symm sameKey]
        · simpa [isHere] using restHypothesis

/-- A key is found as it was written last. -/
theorem find?_putAllKeyed (name : Text) (known writes : List Item) :
    (putAllKeyed key known writes).find? (key · = name) =
      (lastKeyed? key name writes).or (known.find? (key · = name)) := by
  induction writes generalizing known with
  | nil => rfl
  | cons write rest restHypothesis =>
      rw [putAllKeyed, List.foldl_cons, ← putAllKeyed, restHypothesis, find?_putKeyed]
      unfold lastKeyed?
      by_cases isNamed : key write = name
      · cases later : (rest.filter (key · = name)).getLast? <;>
          simp [isNamed, later, List.getLast?_cons]
      · simp [isNamed]

/-- The keys of a list are those known before and the new one after them. -/
theorem keys_putKeyed (new : Item) (known : List Item) :
    (putKeyed key new known).map key =
      if key new ∈ known.map key then known.map key else known.map key ++ [key new] := by
  induction known with
  | nil => simp [putKeyed]
  | cons item rest restHypothesis =>
      unfold putKeyed
      by_cases sameKey : key item = key new
      · simp [sameKey]
      · rw [if_neg sameKey, List.map_cons, restHypothesis]
        by_cases isLater : key new ∈ rest.map key
        · simp [isLater]
        · simp [isLater, Ne.symm sameKey]

/-- The keys stand in the order in which they came first. -/
theorem keys_putAllKeyed (writes : List Item) :
    (putAllKeyed key [] writes).map key = (writes.map key).eraseDups := by
  induction writes using List.reverseRecOn with
  | nil => rfl
  | append_singleton earlier write earlierHypothesis =>
      rw [putAllKeyed, List.foldl_concat, ← putAllKeyed, keys_putKeyed, earlierHypothesis,
        List.map_append, List.map_singleton, eraseDups_concat]
      simp only [List.mem_eraseDups]

/-- What is found among items put one after the other is one of them. -/
theorem mem_of_mem_putAllKeyed
    {writes : List Item}
    {item : Item}
    (member : item ∈ putAllKeyed key [] writes) :
    item ∈ writes := by
  have distinct : ((putAllKeyed key [] writes).map key).Nodup := by
    rw [keys_putAllKeyed]
    exact eraseDups_nodup _
  have found := (find?_key_eq_some_iff distinct).mpr ⟨member, rfl⟩
  rw [find?_putAllKeyed, List.find?_nil, Option.or_none] at found
  exact List.mem_of_mem_filter (List.mem_of_getLast? found)

end Keyed

end Statechart
end SkillNode
