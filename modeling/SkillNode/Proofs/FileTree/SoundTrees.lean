import SkillNode.Proofs.FileTree.Children
import Mathlib.Data.List.Induction

/-!
# Sound trees

In a sound tree every entry lies in a directory, under a name that is a component of a path
and not too long. So what lies below a directory is reached from it component by component,
and a path that leads to the directory can be followed further down to all of it.
-/

namespace SkillNode
namespace FileTree

instance (name : Text) : Decidable (IsPlainName name) :=
  decidable_of_iff (name ≠ [] ∧ '/' ∉ name ∧ name ≠ "." ∧ name ≠ "..")
    ⟨fun ⟨notEmpty, noSlash, notHere, notUp⟩ => ⟨notEmpty, noSlash, notHere, notUp⟩,
      fun plain => ⟨plain.notEmpty, plain.noSlash, plain.notHere, plain.notUp⟩⟩

namespace Tree

/-- What a file system sees to: every entry lies in a directory, under a plain name that is
not too long. -/
structure IsSound (tree : Tree) : Prop where
  names : ∀ entry ∈ tree.entries, ∀ name ∈ entry.1,
    IsPlainName name ∧ (Text.utf8 name).length ≤ maxNameBytes
  parents : ∀ entry ∈ tree.entries, tree.find? entry.1.dropLast = some .directory

instance (tree : Tree) : Decidable tree.IsSound :=
  decidable_of_iff
    ((∀ entry ∈ tree.entries, ∀ name ∈ entry.1,
        IsPlainName name ∧ (Text.utf8 name).length ≤ maxNameBytes) ∧
      ∀ entry ∈ tree.entries, tree.find? entry.1.dropLast = some .directory)
    ⟨fun ⟨names, parents⟩ => ⟨names, parents⟩, fun sound => ⟨sound.names, sound.parents⟩⟩

/-! ## Entries below a place -/

variable {tree : Tree} {place : Place} {parts : List Text}

theorem mem_entries_of_find?
    {entry : Entry}
    (notRoot : place ≠ [])
    (found : tree.find? place = some entry) :
    (place, entry) ∈ tree.entries := by
  rw [find?, if_neg notRoot] at found
  obtain ⟨⟨other, stands⟩, isFirst, rfl⟩ := Option.map_eq_some_iff.mp found
  have samePlace : other = place := by simpa using List.find?_some isFirst
  exact samePlace ▸ List.mem_of_find?_eq_some isFirst

theorem exists_mem_entries_iff
    (notRoot : place ≠ []) :
    (∃ entry, (place, entry) ∈ tree.entries) ↔ tree.find? place ≠ none := by
  constructor
  · rintro ⟨entry, member⟩
    rw [find?, if_neg notRoot, ne_eq, Option.map_eq_none_iff]
    exact fun nowhere => by simpa using List.find?_eq_none.mp nowhere _ member
  · intro stands
    obtain ⟨entry, found⟩ := Option.ne_none_iff_exists'.mp stands
    exact ⟨entry, mem_entries_of_find? notRoot found⟩

/-- The components that lead to something below a place. -/
theorem mem_below_iff :
    parts ∈ tree.below place ↔ parts ≠ [] ∧ tree.find? (place ++ parts) ≠ none := by
  rw [below, Sorted.mem_ofList, List.mem_filterMap]
  constructor
  · rintro ⟨⟨other, entry⟩, member, isBelow⟩
    obtain ⟨⟨isPrefix, isLonger⟩, rfl⟩ :
        (place.isPrefixOf other = true ∧ place.length < other.length) ∧
          other.drop place.length = parts := by
      simpa using isBelow
    obtain ⟨more, rfl⟩ := List.isPrefixOf_iff_prefix.mp isPrefix
    rw [List.drop_left]
    have notHere : more ≠ [] := by
      rintro rfl
      simp at isLonger
    exact ⟨notHere, (exists_mem_entries_iff (by simp [notHere])).mp ⟨entry, member⟩⟩
  · rintro ⟨notHere, stands⟩
    obtain ⟨entry, member⟩ := (exists_mem_entries_iff (by simp [notHere])).mpr stands
    refine ⟨_, member, ?_⟩
    simpa using notHere

namespace IsSound

theorem names_of_find?
    (sound : tree.IsSound)
    (stands : tree.find? place ≠ none)
    {name : Text}
    (member : name ∈ place) :
    IsPlainName name ∧ (Text.utf8 name).length ≤ maxNameBytes := by
  obtain ⟨entry, isEntry⟩ :=
    (exists_mem_entries_iff (List.ne_nil_of_mem member)).mpr stands
  exact sound.names _ isEntry name member

/-- Something lies below directories only. -/
theorem isDirectory_of_below
    (sound : tree.IsSound)
    (notHere : parts ≠ [])
    (stands : tree.find? (place ++ parts) ≠ none) :
    tree.find? place = some .directory := by
  induction parts using List.reverseRecOn with
  | nil => exact absurd rfl notHere
  | append_singleton earlier last earlierHypothesis =>
      rw [← List.append_assoc] at stands
      obtain ⟨entry, isEntry⟩ := (exists_mem_entries_iff (by simp)).mpr stands
      have isDirectory := sound.parents _ isEntry
      rw [List.dropLast_concat] at isDirectory
      by_cases isChild : earlier = []
      · simpa [isChild] using isDirectory
      · exact earlierHypothesis isChild (by rw [isDirectory]; exact Option.some_ne_none _)

/-- What lies below a place is walked to from there. -/
theorem walk_below
    (sound : tree.IsSound)
    (stands : tree.find? (place ++ parts) ≠ none) :
    tree.walk place parts = .ok (place ++ parts) := by
  induction parts generalizing place with
  | nil => rw [walk, List.append_nil]
  | cons part rest restHypothesis =>
      obtain ⟨isPlain, isShort⟩ := sound.names_of_find? stands
        (List.mem_append_right place List.mem_cons_self)
      rw [walk, sound.isDirectory_of_below (List.cons_ne_nil _ _) stands]
      dsimp only
      rw [if_neg (Nat.not_lt.mpr isShort), if_neg isPlain.notUp]
      rw [List.append_cons] at stands
      rw [restHypothesis stands, ← List.append_cons]

/-- A path to a directory goes on to what lies below it, if it does not get too long. -/
theorem locate_descend
    (sound : tree.IsSound)
    {folder : Path}
    (leads : tree.locate folder = .ok place)
    (stands : tree.find? (place ++ parts) ≠ none) :
    tree.locate (folder.descend parts) =
      if maxPathBytes < (Text.utf8 (folder.descend parts).text).length then .error .nameTooLong
      else .ok (place ++ parts) := by
  rw [locate] at leads
  split at leads
  · cases leads
  · rw [locate, Path.descend, walk_append, leads, Except.bind, sound.walk_below stands]

/-- Below a directory a file can be read if its path does not get too long. -/
theorem read_descend_eq_ok_iff
    (sound : tree.IsSound)
    {folder : Path}
    (leads : tree.locate folder = .ok place)
    (stands : tree.find? (place ++ parts) ≠ none)
    {content : Bytes} :
    tree.read (folder.descend parts) = .ok content ↔
      tree.find? (place ++ parts) = some (.file content) ∧
        (Text.utf8 (folder.descend parts).text).length ≤ maxPathBytes := by
  obtain ⟨entry, found⟩ := Option.ne_none_iff_exists'.mp stands
  rw [read, entryAt, sound.locate_descend leads stands]
  split_ifs with isLong
  · simp [Nat.not_le.mpr isLong]
  · dsimp only
    rw [found, and_iff_left (Nat.not_lt.mp isLong)]
    cases entry with
    | directory => simp
    | file stored => simp

end IsSound

end Tree

end FileTree
end SkillNode
