import SkillNode.Proofs.DistinctKeys
import SkillNode.Proofs.Interface.AcceptedDescriptions
import SkillNode.Proofs.Interface.SectionKinds
import Mathlib.Data.List.Pairwise

/-!
# Catalogs and their look-ups

A catalog is determined by what keys find in it, and what a key finds depends on nothing but
the descriptions with this key. So accepted descriptions with distinct keys make one catalog,
in whichever order they are added, and descriptions with other keys have no part in what is
said of a key.
-/

namespace SkillNode
namespace Interface
namespace Catalog

/-! ## What determines a catalog -/

theorem nodup_keys (catalog : Catalog) : catalog.keys.Nodup :=
  catalog.keys_pairwise.imp fun isBefore same => by
    rw [same, Key.not_before_self] at isBefore
    exact Bool.noConfusion isBefore

/-- A key finds the entry that has it. -/
theorem find?_eq_some_iff
    {catalog : Catalog}
    {key : Key}
    {entry : Entry} :
    catalog.find? key = some entry ↔ entry ∈ catalog.entries ∧ entry.key = key :=
  find?_key_eq_some_iff catalog.nodup_keys

theorem mem_entries_iff
    {catalog : Catalog}
    {entry : Entry} :
    entry ∈ catalog.entries ↔ catalog.find? entry.key = some entry := by
  rw [find?_eq_some_iff, and_iff_left rfl]

theorem mem_of_mem_ofEntries
    {entries : List Entry}
    {entry : Entry}
    (member : entry ∈ (ofEntries entries).entries) :
    entry ∈ entries := by
  rw [mem_entries_iff, find?_ofEntries] at member
  exact List.mem_reverse.mp (List.mem_of_find?_eq_some member)

/-- Catalogs in which all keys find the same are the same. -/
theorem eq_of_find?_eq
    {left right : Catalog}
    (findSame : ∀ key, left.find? key = right.find? key) :
    left = right := by
  have sameMembers : ∀ entry, entry ∈ left.entries ↔ entry ∈ right.entries := fun entry => by
    rw [mem_entries_iff, findSame, mem_entries_iff]
  have reordered : left.entries.Perm right.entries :=
    (List.perm_ext_iff_of_nodup left.nodup_keys.of_map right.nodup_keys.of_map).mpr sameMembers
  obtain ⟨leftEntries, leftInOrder⟩ := left
  obtain ⟨rightEntries, rightInOrder⟩ := right
  obtain rfl : leftEntries = rightEntries := by
    refine reordered.eq_of_pairwise (fun first second _ _ isBefore isAfter => ?_)
      leftInOrder rightInOrder
    have circular := Key.before_trans isBefore isAfter
    rw [Key.not_before_self] at circular
    exact Bool.noConfusion circular
  rfl

/-! ## The order of additions -/

/-- Entries with different keys go into a catalog in either order. -/
theorem insert_comm
    (catalog : Catalog)
    {first second : Entry}
    (different : first.key ≠ second.key) :
    (catalog.insert first).insert second = (catalog.insert second).insert first := by
  refine eq_of_find?_eq fun key => ?_
  rw [find?_insert, find?_insert, find?_insert, find?_insert]
  by_cases isSecond : second.key = key
  · rw [if_pos isSecond, if_pos isSecond, if_neg (isSecond ▸ different)]
  · rw [if_neg isSecond, if_neg isSecond]

/-- Descriptions with distinct keys that are added in one order are added in any other, and
make the same catalog. -/
theorem addDescriptions_of_perm
    {catalog extended : Catalog}
    {descriptions others : List Description}
    (distinct : (descriptions.map Description.key).Nodup)
    (reordered : descriptions.Perm others)
    (added : (catalog.addDescriptions descriptions).outcome = .ok extended) :
    (catalog.addDescriptions others).outcome = .ok extended := by
  obtain ⟨areAccepted, rfl⟩ := addDescriptions_eq_ok_iff.mp added
  refine addDescriptions_eq_ok_iff.mpr
    ⟨fun description member => areAccepted description (reordered.mem_iff.mpr member), ?_⟩
  have entriesDistinct : ((descriptions.filterMap Description.entry?).map Entry.key).Nodup := by
    refine List.pairwise_map.mpr (List.pairwise_filterMap.mpr
      ((List.pairwise_map.mp distinct).imp ?_))
    intro description other different first firstMakes second secondMakes
    rw [(Description.entry?_eq_some_iff.mp firstMakes).2.1,
      (Description.entry?_eq_some_iff.mp secondMakes).2.1]
    exact different
  refine ((reordered.filterMap _).foldl_eq' ?_ catalog).symm
  intro first firstMember second secondMember before
  by_cases same : first = second
  · rw [same]
  · exact before.insert_comm fun sameKey =>
      same (List.inj_on_of_nodup_map entriesDistinct firstMember secondMember sameKey)

/-! ## What is said of a key -/

/-- Two catalogs say the same of a key: whether they have it, and the fields of all its
sections. -/
structure AgreeAt (left right : Catalog) (key : Key) : Prop where
  contains : left.contains key = right.contains key
  fields : ∀ kind, left.fields key kind = right.fields key kind

/-- The fields of a key are those in the sections of its entry. -/
theorem fields_eq (catalog : Catalog) (key : Key) (kind : SectionKind) :
    catalog.fields key kind =
      (((catalog.find? key).map Entry.sections).map (·.fields kind)).getD [] := by
  unfold Catalog.fields
  cases catalog.find? key <;> rfl

/-- What is said of a key is what the sections of its entry say; the source of the entry has
no part in it. -/
theorem AgreeAt.of_sections
    {left right : Catalog}
    {key : Key}
    (sameSections : (left.find? key).map Entry.sections = (right.find? key).map Entry.sections) :
    left.AgreeAt right key where
  contains := by simpa [Catalog.contains] using congrArg Option.isSome sameSections
  fields kind := by rw [fields_eq, fields_eq, sameSections]

theorem AgreeAt.fieldType?
    {left right : Catalog}
    {key : Key}
    (agree : left.AgreeAt right key)
    (name : Text)
    (kind : SectionKind) :
    left.fieldType? key name kind = right.fieldType? key name kind :=
  fieldType?_congr (agree.fields kind) name

/-- The entries with chosen keys are made by the descriptions with these keys. -/
theorem filterMap_entry?_filter (chosen : Key → Bool) (descriptions : List Description) :
    (descriptions.filterMap Description.entry?).filter (chosen ·.key) =
      (descriptions.filter (chosen ·.key)).filterMap Description.entry? := by
  rw [List.filter_filterMap, List.filterMap_filter]
  refine List.filterMap_congr fun description _ => ?_
  cases makes : description.entry? with
  | none => simp
  | some entry =>
      rw [Option.filter_some, (Description.entry?_eq_some_iff.mp makes).2.1]

/-- What descriptions say of a key is said by those of them that have it, among others. -/
theorem agreeAt_of_filter
    {catalog left right : Catalog}
    {first second : List Description}
    (chosen : Key → Bool)
    (sameChosen : first.filter (chosen ·.key) = second.filter (chosen ·.key))
    (addedFirst : (catalog.addDescriptions first).outcome = .ok left)
    (addedSecond : (catalog.addDescriptions second).outcome = .ok right)
    {key : Key}
    (isChosen : chosen key) :
    left.AgreeAt right key := by
  -- A look-up skips the entries with other keys, so they can as well be left out before.
  have skips : ∀ entries : List Entry, entries.reverse.find? (·.key = key) =
      (entries.filter (chosen ·.key)).reverse.find? (·.key = key) := by
    intro entries
    rw [← List.filter_reverse, List.find?_filter]
    refine congrArg (entries.reverse.find? ·) (funext fun entry => ?_)
    by_cases same : entry.key = key <;> simp [same, isChosen]
  obtain ⟨_, rfl⟩ := addDescriptions_eq_ok_iff.mp addedFirst
  obtain ⟨_, rfl⟩ := addDescriptions_eq_ok_iff.mp addedSecond
  refine AgreeAt.of_sections (congrArg (Option.map Entry.sections) ?_)
  rw [find?_foldl_insert, find?_foldl_insert, skips, skips (second.filterMap _),
    filterMap_entry?_filter, filterMap_entry?_filter, sameChosen]

end Catalog
end Interface
end SkillNode
