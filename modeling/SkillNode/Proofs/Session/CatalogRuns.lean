import SkillNode.Proofs.Session.Steps

/-!
# The catalog of a session

Whatever was added to a session, its catalog holds one entry for every key of an accepted
description, made from the last one for that key. A refused description leaves no trace,
at whichever line it is refused.

The main statement gathers what can be asked of the catalog after any additions, and what
the next addition answers.
-/

namespace SkillNode
namespace Session

open Interface (Catalog Description Entry Key)

/-- The session after additions to a new one. -/
def afterAdditions (additions : List Description) : Session :=
  start.reached (additions.map .addText)

theorem afterAdditions_concat (additions : List Description) (addition : Description) :
    afterAdditions (additions ++ [addition]) =
      ((afterAdditions additions).step (.addText addition)).1 := by
  simp [afterAdditions]

/-- The catalog is made of the entries of the accepted descriptions. -/
theorem catalog_afterAdditions (additions : List Description) :
    (afterAdditions additions).catalog =
      Catalog.ofEntries (additions.filterMap Description.entry?) := by
  induction additions using List.reverseRecOn with
  | nil => rfl
  | append_singleton additions addition additionsHypothesis =>
      rw [afterAdditions_concat, List.filterMap_append]
      cases makes : addition.entry? with
      | none =>
          obtain ⟨error, refuses⟩ :=
            step_addText_of_refused (Description.entry?_eq_none_iff.mp makes)
          rw [refuses, additionsHypothesis, List.filterMap_cons_none makes, List.filterMap_nil,
            List.append_nil]
      | some entry =>
          rw [step_addText_of_entry _ makes, additionsHypothesis,
            List.filterMap_cons_some makes, List.filterMap_nil, Catalog.ofEntries_concat]

/-- The last accepted one of some descriptions for its key. -/
structure IsLatest (additions : List Description) (latest : Description) : Prop where
  isAccepted : latest.isAccepted
  isLast : ∃ earlier later, additions = earlier ++ latest :: later ∧
    ∀ other ∈ later, other.isAccepted → other.key ≠ latest.key

/-- Either no description for a key was accepted, or one of them is the last. -/
theorem exists_isLatest
    {additions : List Description}
    {key : Key}
    (exists_accepted : ∃ addition ∈ additions, addition.isAccepted ∧ addition.key = key) :
    ∃ latest, IsLatest additions latest ∧ latest.key = key := by
  induction additions with
  | nil => simp at exists_accepted
  | cons first rest restHypothesis =>
      by_cases inRest : ∃ addition ∈ rest, addition.isAccepted ∧ addition.key = key
      · obtain ⟨latest, ⟨isAccepted, earlier, later, rfl, isLast⟩, sameKey⟩ :=
          restHypothesis inRest
        exact ⟨latest, ⟨isAccepted, first :: earlier, later, rfl, isLast⟩, sameKey⟩
      · obtain ⟨addition, member, isAccepted, sameKey⟩ := exists_accepted
        rcases List.mem_cons.mp member with rfl | later
        · refine ⟨addition, ⟨isAccepted, [], rest, rfl, fun other otherMember accepted same => ?_⟩,
            sameKey⟩
          exact inRest ⟨other, otherMember, accepted, same.trans sameKey⟩
        · exact absurd ⟨addition, later, isAccepted, sameKey⟩ inRest

/-- A key finds the entry of the last description accepted for it. -/
theorem find?_of_isLatest
    {additions : List Description}
    {latest : Description}
    (isLatest : IsLatest additions latest) :
    (afterAdditions additions).catalog.find? latest.key = latest.entry? := by
  obtain ⟨isAccepted, earlier, later, rfl, isLast⟩ := isLatest
  obtain ⟨sections, declares⟩ := Description.isAccepted_iff.mp isAccepted
  have makes := Description.entry?_of_sections declares
  -- No entry made after that of the last description has its key.
  have noneLater :
      (later.filterMap Description.entry?).reverse.find? (·.key = latest.key) = none := by
    rw [List.find?_eq_none]
    intro entry member
    obtain ⟨other, otherMember, otherMakes⟩ := List.mem_filterMap.mp (List.mem_reverse.mp member)
    obtain ⟨otherDeclares, sameKey, _⟩ := Description.entry?_eq_some_iff.mp otherMakes
    have otherKey := isLast other otherMember (Description.isAccepted_iff.mpr ⟨_, otherDeclares⟩)
    simpa [sameKey] using otherKey
  rw [catalog_afterAdditions, Catalog.find?_ofEntries, List.filterMap_append,
    List.filterMap_cons_some makes, List.reverse_append, List.reverse_cons, List.find?_append,
    List.find?_append, noneLater, makes]
  simp

/-- The keys of the catalog are those of the accepted descriptions. -/
theorem mem_keys_afterAdditions_iff
    (additions : List Description)
    (key : Key) :
    key ∈ (afterAdditions additions).catalog.keys ↔
      ∃ addition ∈ additions, addition.isAccepted ∧ addition.key = key := by
  rw [catalog_afterAdditions, Catalog.mem_keys_ofDescriptions_iff]

/-- What the catalog looks up for a key is what the last description accepted for it
declares. -/
theorem fields_of_isLatest
    {additions : List Description}
    {latest : Description}
    {sections : Interface.Sections}
    (isLatest : IsLatest additions latest)
    (declares : latest.sections = .ok sections)
    (kind : Interface.SectionKind) :
    (afterAdditions additions).catalog.fields latest.key kind = sections.fields kind := by
  have found := find?_of_isLatest isLatest
  rw [Description.entry?_of_sections declares] at found
  simp only [Catalog.fields, found]

/-! ## Answers -/

/-- The note that a description was added. -/
def loadedNote (addition : Description) : LogRecord :=
  .debug ("Loaded interface " ++ addition.key.text ++ " from " ++ addition.sourceName)

/-- The warning that a description takes the place of an earlier one. -/
def redefinitionWarning (addition previous : Description) : LogRecord :=
  .warning ("Interface " ++ addition.key.text ++ " redefined by " ++ addition.sourceName ++
    " (was " ++ previous.sourceName ++ ")")

/-- The records of an accepted description: a warning with the source of the last one for
its key if there is one, and a note. -/
theorem log_addText
    (additions : List Description)
    {addition : Description}
    (isAccepted : addition.isAccepted) :
    (∀ previous, IsLatest additions previous → previous.key = addition.key →
        ((afterAdditions additions).step (.addText addition)).2.log =
          [redefinitionWarning addition previous, loadedNote addition]) ∧
      (addition.key ∉ (afterAdditions additions).catalog.keys →
        ((afterAdditions additions).step (.addText addition)).2.log = [loadedNote addition]) := by
  obtain ⟨sections, declares⟩ := Description.isAccepted_iff.mp isAccepted
  rw [step_addText_of_entry _ (Description.entry?_of_sections declares)]
  dsimp only [Catalog.additionLog]
  refine ⟨fun previous isLatest sameKey => ?_, fun isNew => ?_⟩
  · obtain ⟨earlier, earlierDeclares⟩ := Description.isAccepted_iff.mp isLatest.isAccepted
    have found := find?_of_isLatest isLatest
    rw [Description.entry?_of_sections earlierDeclares, sameKey] at found
    rw [found]
    rfl
  · have notFound : (afterAdditions additions).catalog.find? addition.key = none := by
      rw [← Catalog.contains_iff_mem_keys] at isNew
      simpa [Catalog.contains] using isNew
    rw [notFound]
    rfl

/-- After any additions to a new session: a refused description changes nothing; the keys
are those of the accepted ones, in strict order and each once; the fields of a key, and the
source kept for it, are those of the last description accepted for it; and the next accepted
description warns exactly if its key is there, naming that source. -/
theorem catalog_reflects_additions (additions : List Description) :
    let session := afterAdditions additions
    let catalog := session.catalog
    (∀ refused : Description, refused.isAccepted = false →
        (session.step (.addText refused)).1 = session ∧
          ∃ error, (session.step (.addText refused)).2 = .fail (.interface error)) ∧
      catalog.keys.Pairwise (fun left right => left.before right) ∧
      (∀ key, key ∈ catalog.keys ↔
        ∃ addition ∈ additions, addition.isAccepted ∧ addition.key = key) ∧
      catalog.size = catalog.keys.length ∧
      (∀ key, catalog.contains key ↔ key ∈ catalog.keys) ∧
      (∀ key ∈ catalog.keys, ∃ latest, IsLatest additions latest ∧ latest.key = key) ∧
      (∀ latest sections, IsLatest additions latest → latest.sections = .ok sections →
        (catalog.find? latest.key).map Entry.source = some latest.sourceName ∧
          ∀ kind, catalog.fields latest.key kind = sections.fields kind ∧
            ∀ name, catalog.fieldType? latest.key name kind =
              ((sections.fields kind).find? (·.name = name)).bind Interface.Field.fieldType?) ∧
      ∀ next : Description, next.isAccepted →
        (∃ size, (session.step (.addText next)).2.outcome = .ok (.added next.key size)) ∧
          (∀ previous, IsLatest additions previous → previous.key = next.key →
            (session.step (.addText next)).2.log =
              [redefinitionWarning next previous, loadedNote next]) ∧
          (next.key ∉ catalog.keys →
            (session.step (.addText next)).2.log = [loadedNote next]) := by
  intro session catalog
  refine ⟨fun refused isRefused => ?_, catalog.keys_pairwise,
    mem_keys_afterAdditions_iff additions, by simp [Catalog.size, Catalog.keys],
    catalog.contains_iff_mem_keys, fun key isKey => ?_,
    fun latest sections isLatest declares => ⟨?_, fun kind => ⟨?_, fun name => ?_⟩⟩,
    fun next isAccepted => ⟨?_, log_addText additions isAccepted⟩⟩
  · obtain ⟨error, refuses⟩ := step_addText_of_refused isRefused
    exact ⟨by rw [refuses], error, by rw [refuses]⟩
  · exact exists_isLatest ((mem_keys_afterAdditions_iff additions key).mp isKey)
  · rw [find?_of_isLatest isLatest, Description.entry?_of_sections declares]
    rfl
  · exact fields_of_isLatest isLatest declares kind
  · unfold Catalog.fieldType?
    rw [fields_of_isLatest isLatest declares kind]
    cases (sections.fields kind).find? (·.name = name) <;> rfl
  · obtain ⟨sections, declares⟩ := Description.isAccepted_iff.mp isAccepted
    exact ⟨_, by rw [step_addText_of_entry session (Description.entry?_of_sections declares)]⟩

end Session
end SkillNode
