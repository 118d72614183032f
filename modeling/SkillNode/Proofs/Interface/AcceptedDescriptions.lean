import SkillNode.Interface.Loading
import Mathlib.Data.List.Induction

/-!
# Accepted descriptions

Whether a description is accepted depends on its text alone. An accepted one makes an
entry, which takes the place of the entry of its key, so that a catalog made from
descriptions is the catalog of the entries of those that are accepted.

The main statement about look-up says that a key finds the last entry made for it.
-/

namespace SkillNode
namespace Interface

namespace Description

/-- A description whose text has the form that its sort asks for. -/
def isAccepted (description : Description) : Bool := description.sections.isOk

/-- The entry that an accepted description makes. -/
def entry? (description : Description) : Option Entry :=
  match description.sections with
  | .ok sections => some ⟨description.key, sections, description.sourceName⟩
  | .error _ => none

theorem isAccepted_iff {description : Description} :
    description.isAccepted ↔ ∃ sections, description.sections = .ok sections := by
  unfold isAccepted
  cases description.sections <;> simp [Except.isOk, Except.toBool]

theorem entry?_of_sections
    {description : Description}
    {sections : Sections}
    (declares : description.sections = .ok sections) :
    description.entry? = some ⟨description.key, sections, description.sourceName⟩ := by
  simp [Description.entry?, declares]

theorem entry?_eq_none_iff {description : Description} :
    description.entry? = none ↔ description.isAccepted = false := by
  unfold entry? isAccepted
  cases description.sections <;> simp [Except.isOk, Except.toBool]

theorem entry?_eq_some_iff
    {description : Description}
    {entry : Entry} :
    description.entry? = some entry ↔
      description.sections = .ok entry.sections ∧
        entry.key = description.key ∧ entry.source = description.sourceName := by
  obtain ⟨key, sections, source⟩ := entry
  unfold entry?
  cases description.sections with
  | error error => simp
  | ok declared =>
      simp only [Option.some.injEq, Entry.mk.injEq, Except.ok.injEq]
      constructor
      · rintro ⟨rfl, rfl, rfl⟩
        exact ⟨rfl, rfl, rfl⟩
      · rintro ⟨rfl, rfl, rfl⟩
        exact ⟨rfl, rfl, rfl⟩

end Description

namespace Catalog

/-! ## Catalogs of entries -/

/-- The catalog of some entries, of which later ones take the places of earlier ones. -/
def ofEntries (entries : List Entry) : Catalog := entries.foldl insert empty

@[simp] theorem ofEntries_nil : ofEntries [] = empty := rfl

@[simp] theorem ofEntries_concat (entries : List Entry) (entry : Entry) :
    ofEntries (entries ++ [entry]) = (ofEntries entries).insert entry := by
  simp [ofEntries]

/-- After entries are put into a catalog a key finds the last one made for it, or else what
it found before. -/
theorem find?_foldl_insert (catalog : Catalog) (entries : List Entry) (key : Key) :
    (entries.foldl insert catalog).find? key =
      (entries.reverse.find? (·.key = key)).or (catalog.find? key) := by
  induction entries using List.reverseRecOn with
  | nil => rfl
  | append_singleton entries entry entriesHypothesis =>
      rw [List.foldl_append, List.foldl_cons, List.foldl_nil, find?_insert, entriesHypothesis,
        List.reverse_concat, List.find?_cons]
      by_cases same : entry.key = key <;> simp [same]

/-- A key finds the last entry made for it. -/
theorem find?_ofEntries (entries : List Entry) (key : Key) :
    (ofEntries entries).find? key = entries.reverse.find? (·.key = key) :=
  (find?_foldl_insert empty entries key).trans Option.or_none

theorem contains_iff_mem_keys
    (catalog : Catalog)
    (key : Key) :
    catalog.contains key ↔ key ∈ catalog.keys := by
  simp [contains, find?, keys]

theorem mem_keys_ofEntries_iff
    (entries : List Entry)
    (key : Key) :
    key ∈ (ofEntries entries).keys ↔ ∃ entry ∈ entries, entry.key = key := by
  rw [← contains_iff_mem_keys, contains, find?_ofEntries]
  simp

/-- The keys of a catalog made from descriptions are those of the accepted ones. -/
theorem mem_keys_ofDescriptions_iff
    (descriptions : List Description)
    (key : Key) :
    key ∈ (ofEntries (descriptions.filterMap Description.entry?)).keys ↔
      ∃ description ∈ descriptions, description.isAccepted ∧ description.key = key := by
  rw [mem_keys_ofEntries_iff]
  constructor
  · rintro ⟨entry, member, sameKey⟩
    obtain ⟨description, isDescription, makes⟩ := List.mem_filterMap.mp member
    obtain ⟨declares, entryKey, _⟩ := Description.entry?_eq_some_iff.mp makes
    exact ⟨description, isDescription, Description.isAccepted_iff.mpr ⟨_, declares⟩,
      entryKey.symm.trans sameKey⟩
  · rintro ⟨description, member, isAccepted, sameKey⟩
    obtain ⟨sections, declares⟩ := Description.isAccepted_iff.mp isAccepted
    exact ⟨_, List.mem_filterMap.mpr ⟨description, member,
      Description.entry?_of_sections declares⟩, sameKey⟩

/-- The keys of a catalog stand in strict order. -/
theorem keys_pairwise (catalog : Catalog) :
    catalog.keys.Pairwise fun left right => left.before right :=
  List.pairwise_map.mpr catalog.inOrder

/-! ## Adding descriptions -/

theorem addDescription_of_entry
    (catalog : Catalog)
    {description : Description}
    {entry : Entry}
    (makes : description.entry? = some entry) :
    catalog.addDescription description =
      ⟨.ok (catalog.insert entry), catalog.additionLog entry⟩ := by
  obtain ⟨declares, sameKey, sameSource⟩ := Description.entry?_eq_some_iff.mp makes
  obtain ⟨key, sections, source⟩ := entry
  obtain rfl : key = description.key := sameKey
  obtain rfl : source = description.sourceName := sameSource
  simp only [addDescription, add, declares]

/-- A refused description is refused by every catalog, for the same reason. -/
theorem addDescription_of_refused
    {description : Description}
    (isRefused : description.isAccepted = false) :
    ∃ error, ∀ catalog : Catalog,
      catalog.addDescription description = .fail (.interface error) := by
  cases declares : description.sections with
  | ok sections => simp [Description.isAccepted, declares, Except.isOk, Except.toBool] at isRefused
  | error error => exact ⟨error, fun catalog => by simp only [addDescription, add, declares]⟩

/-- Accepted descriptions make the catalog of their entries. -/
theorem outcome_addDescriptions
    {descriptions : List Description}
    (areAccepted : ∀ description ∈ descriptions, description.isAccepted)
    (catalog : Catalog) :
    (catalog.addDescriptions descriptions).outcome =
      .ok ((descriptions.filterMap Description.entry?).foldl insert catalog) := by
  induction descriptions generalizing catalog with
  | nil => rfl
  | cons description rest restHypothesis =>
      obtain ⟨isAccepted, restAccepted⟩ := List.forall_mem_cons.mp areAccepted
      obtain ⟨sections, declares⟩ := Description.isAccepted_iff.mp isAccepted
      have makes := Description.entry?_of_sections declares
      rw [addDescriptions, Run.outcome_bind, addDescription_of_entry catalog makes,
        List.filterMap_cons_some makes, List.foldl_cons]
      exact restHypothesis restAccepted _

/-- Descriptions are added just if all are accepted, and then make the catalog of their
entries. -/
theorem addDescriptions_eq_ok_iff
    {descriptions : List Description}
    {catalog extended : Catalog} :
    (catalog.addDescriptions descriptions).outcome = .ok extended ↔
      (∀ description ∈ descriptions, description.isAccepted) ∧
        (descriptions.filterMap Description.entry?).foldl insert catalog = extended := by
  refine ⟨fun added => ?_, fun ⟨areAccepted, same⟩ =>
    same ▸ outcome_addDescriptions areAccepted catalog⟩
  suffices areAccepted : ∀ description ∈ descriptions, description.isAccepted by
    refine ⟨areAccepted, ?_⟩
    rw [outcome_addDescriptions areAccepted] at added
    exact Except.ok.inj added
  induction descriptions generalizing catalog with
  | nil => simp
  | cons description rest restHypothesis =>
      rw [addDescriptions, Run.outcome_bind] at added
      cases first : (catalog.addDescription description).outcome with
      | error failure => rw [first] at added; cases added
      | ok extendedOnce =>
          rw [first] at added
          refine List.forall_mem_cons.mpr ⟨?_, restHypothesis added⟩
          by_contra isRefused
          obtain ⟨error, refuses⟩ := addDescription_of_refused (Bool.not_eq_true _ ▸ isRefused)
          rw [refuses] at first
          cases first

end Catalog
end Interface
end SkillNode
