import SkillNode.Interface.Catalog
import Mathlib.Control.Monad.Basic

/-!
# Sections of services and of messages

A description of a service declares a request and a response, one of a message
declares a message section. Both can be given for one key, but the catalog keeps one
entry per key: adding a description takes away the sections of the other sort.

The main statement says that nothing is lost exactly if there was nothing to lose.
-/

namespace SkillNode
namespace Interface

/-- Whether it is services that have a section. -/
def SectionKind.isOfService : SectionKind → Bool
  | .request | .response => true
  | .message => false

/-- A described service has no message section, and a described message none of a
service. -/
theorem Description.fields_of_otherSort
    {description : Description}
    {sections : Sections}
    (declares : description.sections = .ok sections)
    {kind : SectionKind}
    (otherSort : kind.isOfService ≠ description.isService) :
    sections.fields kind = [] := by
  unfold Description.sections at declares
  split at declares
  · next isService =>
      have isMessage : kind = .message := by
        cases kind <;> simp [SectionKind.isOfService, isService] at otherSort ⊢
      unfold Description.serviceSections at declares
      split at declares
      · dsimp only at declares
        split at declares
        · cases declares
        · split at declares
          · cases declares
          · cases declares
            subst isMessage
            rfl
      · cases declares
  · next isMessage =>
      cases reading : readFields description.text description.sourceName 1 with
      | error error => simp [reading, Except.map] at declares
      | ok fields =>
          obtain rfl : Sections.message fields = sections := by
            simpa [reading, Except.map] using declares
          cases kind with
          | request | response => rfl
          | message => simp [SectionKind.isOfService, isMessage] at otherSort

namespace Catalog

theorem fields_insert
    (catalog : Catalog)
    (entry : Entry)
    (key : Key)
    (kind : SectionKind) :
    (catalog.insert entry).fields key kind =
      if entry.key = key then entry.sections.fields kind else catalog.fields key kind := by
  by_cases sameKey : entry.key = key <;> simp [fields, find?_insert, sameKey]

/-- After a description is added, its key has the sections that it declares, and other
keys have what they had. -/
theorem fields_add
    {catalog after : Catalog}
    {description : Description}
    {log : Log}
    (added : catalog.add description = .ok (after, log)) :
    ∃ sections, description.sections = .ok sections ∧
      ∀ key kind, after.fields key kind =
        if description.key = key then sections.fields kind else catalog.fields key kind := by
  unfold add at added
  split at added
  · cases added
  · next sections declares =>
      cases added
      exact ⟨sections, declares, fun key kind => fields_insert catalog _ key kind⟩

/-- A look-up reads nothing but the fields of the section. -/
theorem fieldType?_congr
    {left right : Catalog}
    {key : Key}
    {kind : SectionKind}
    (sameFields : left.fields key kind = right.fields key kind)
    (name : Text) :
    left.fieldType? key name kind = right.fieldType? key name kind := by
  unfold fieldType?
  rw [sameFields]

/-- What was known of a key of the other sort is gone after a description is added. -/
theorem fields_add_of_otherSort
    {catalog after : Catalog}
    {description : Description}
    {log : Log}
    (added : catalog.add description = .ok (after, log))
    {kind : SectionKind}
    (otherSort : kind.isOfService ≠ description.isService) :
    after.fields description.key kind = [] := by
  obtain ⟨sections, declares, fields⟩ := fields_add added
  rw [fields, if_pos rfl]
  exact Description.fields_of_otherSort declares otherSort

/-- Adding a description keeps the sections of the other sort, and all look-ups in them,
exactly if its key had no fields there. So of a service and a message with one key the
sections of the first stay known exactly if they are empty, in either order. -/
theorem add_keepsOtherSort_iff
    (catalog after : Catalog)
    (description : Description)
    (log : Log)
    (added : catalog.add description = .ok (after, log)) :
    ((∀ key kind, kind.isOfService ≠ description.isService →
        after.fields key kind = catalog.fields key kind ∧
          ∀ name, after.fieldType? key name kind = catalog.fieldType? key name kind) ↔
      ∀ kind, kind.isOfService ≠ description.isService →
        catalog.fields description.key kind = []) ∧
    (∀ key, key ≠ description.key → ∀ kind,
      after.fields key kind = catalog.fields key kind) ∧
    ∀ (other : Description) (both : Catalog) (otherLog : Log),
      other.key = description.key → other.isService ≠ description.isService →
      after.add other = .ok (both, otherLog) →
      ((∀ kind, kind.isOfService = description.isService →
          both.fields description.key kind = after.fields description.key kind) ↔
        ∀ kind, kind.isOfService = description.isService →
          after.fields description.key kind = []) := by
  obtain ⟨sections, declares, fields⟩ := fields_add added
  refine ⟨⟨fun kept kind otherSort => ?_, fun empty key kind otherSort => ?_⟩, ?_, ?_⟩
  · rw [← (kept description.key kind otherSort).1]
    exact fields_add_of_otherSort added otherSort
  · have sameFields : after.fields key kind = catalog.fields key kind := by
      by_cases sameKey : description.key = key
      · subst sameKey
        rw [empty kind otherSort, fields_add_of_otherSort added otherSort]
      · rw [fields, if_neg sameKey]
    exact ⟨sameFields, fieldType?_congr sameFields⟩
  · intro key different kind
    rw [fields, if_neg different.symm]
  · intro other both otherLog sameKey otherSort addedOther
    have gone : ∀ kind, kind.isOfService = description.isService →
        both.fields description.key kind = [] := by
      intro kind sameSort
      rw [← sameKey]
      exact fields_add_of_otherSort addedOther (sameSort ▸ otherSort.symm)
    constructor
    · intro kept kind sameSort
      rw [← kept kind sameSort, gone kind sameSort]
    · intro empty kind sameSort
      rw [empty kind sameSort, gone kind sameSort]

/-- A message described under a key without entry leaves every service alone. -/
theorem add_message_keepsServices :
    let key : Key := ⟨"p", "T"⟩
    let description : Description := ⟨key, "bool ok\n", false, "T.msg"⟩
    ∃ after log,
      empty.add description = .ok (after, log) ∧
      after.fieldType? key "ok" .message = some .bool ∧
      ∀ other kind, kind.isOfService ≠ description.isService →
        after.fields other kind = empty.fields other kind ∧
          ∀ name, after.fieldType? other name kind = empty.fieldType? other name kind := by
  intro key description
  have added : empty.add description = .ok
      (empty.insert ⟨key, .message [⟨"ok", "bool"⟩], "T.msg"⟩,
        empty.additionLog ⟨key, .message [⟨"ok", "bool"⟩], "T.msg"⟩) := by
    have declares : description.sections = .ok (.message [⟨"ok", "bool"⟩]) := by
      decide +kernel
    simp only [add, declares]
    rfl
  exact ⟨_, _, added, by decide +kernel,
    (add_keepsOtherSort_iff empty _ description _ added).1.mpr fun _ _ => rfl⟩

/-- A message described under the key of a service takes the response away. -/
theorem add_message_losesService :
    let key : Key := ⟨"p", "T"⟩
    let service : Description := ⟨key, "---\nint32 v\n", true, ""⟩
    let message : Description := ⟨key, "bool ok\n", false, ""⟩
    ∃ before after serviceLog messageLog,
      empty.add service = .ok (before, serviceLog) ∧
      before.add message = .ok (after, messageLog) ∧
      before.fields key .response = [⟨"v", "int32"⟩] ∧
      before.fieldType? key "v" .response = some .int32 ∧
      after.fields key .response = [] ∧
      after.fieldType? key "v" .response = none := by
  intro key service message
  have declaresService : service.sections = .ok (.service [] [⟨"v", "int32"⟩]) := by
    decide +kernel
  have declaresMessage : message.sections = .ok (.message [⟨"ok", "bool"⟩]) := by
    decide +kernel
  simp only [add, declaresService, declaresMessage]
  exact ⟨_, _, _, _, rfl, rfl, by decide +kernel, by decide +kernel, by decide +kernel,
    by decide +kernel⟩

end Catalog
end Interface
end SkillNode
