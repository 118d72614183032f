import SkillNode.Proofs.Generation.BundledGeneration
import SkillNode.Proofs.Generation.ClassNames
import SkillNode.Proofs.Generation.SuccessfulWriting

/-!
# Names of generated files

As the class of a skill is an identifier, the names of the generated files are visible
names, and they differ from each other.
-/

namespace SkillNode
namespace Generation

/-- An identifier with an ending is a visible name. -/
theorem isVisibleName_append
    {className ending : Text}
    (isName : Text.isCIdentifier className = true)
    (noSlash : '/' ∉ ending) :
    IsVisibleName (className ++ ending) := by
  have words := Text.isAsciiWord_of_isCIdentifier isName
  cases className with
  | nil => cases isName
  | cons first rest =>
      refine ⟨by simp, fun member => ?_, fun isDot => ?_⟩
      · rcases List.mem_append.mp member with inName | inEnding
        · exact absurd (words '/' inName) (by decide)
        · exact noSlash inEnding
      · obtain rfl : first = '.' := by simpa using isDot
        exact absurd (words '.' List.mem_cons_self) (by decide)

/-- What is generated with the bundled templates is laid out from a blueprint. -/
theorem exists_blueprint_of_generate
    {options : Options}
    {model : Statechart.TypedModel}
    {sources : Sources}
    (generates : generate bundledFolder [] options model = .ok sources) :
    options.fault? = none ∧ ∃ blueprint, Blueprint.ofModel options model = .ok blueprint ∧
      sources = layoutSources blueprint := by
  rw [generate_bundledFolder] at generates
  cases holds : options.fault? with
  | some fault => simp [holds] at generates
  | none =>
      refine ⟨rfl, ?_⟩
      simp only [holds] at generates
      cases gathers : Blueprint.ofModel options model with
      | error error =>
          rw [gathers] at generates
          cases generates
      | ok blueprint =>
          rw [gathers, Template.ok_bind, headerOutcome_bind_eq_ok_iff, unmarked_bind_eq_ok_iff]
            at generates
          exact ⟨blueprint, rfl, (Except.ok.inj generates.2.2.2).symm⟩

/-- Both generated files are called after the class, by visible names that differ. -/
theorem fileNames_of_generate
    {options : Options}
    {model : Statechart.TypedModel}
    {sources : Sources}
    (generates : generate bundledFolder [] options model = .ok sources) :
    sources.headerName = sources.className ++ ".h" ∧
      sources.sourceName = sources.className ++ ".cpp" ∧
        (∀ file ∈ sources.files, IsVisibleName file.1) ∧
          (sources.files.map Prod.fst).Nodup := by
  obtain ⟨holds, blueprint, gathers, rfl⟩ := exists_blueprint_of_generate generates
  obtain ⟨className, derived, all, chosen, _, _, _, rfl⟩ :=
    Blueprint.ofModel_eq_ok_iff.mp gathers
  have isName := isCIdentifier_of_chooseClassName holds chosen
  refine ⟨rfl, rfl, ?_, ?_⟩
  · simp only [Sources.files, List.forall_mem_cons, List.not_mem_nil, false_implies, implies_true,
      and_true]
    exact ⟨isVisibleName_append isName (by decide), isVisibleName_append isName (by decide)⟩
  · have differ : className ++ ".h".toList ≠ className ++ ".cpp".toList := by
      rw [Ne, List.append_cancel_left_eq]
      decide
    exact List.nodup_cons.mpr ⟨List.mem_singleton.not.mpr differ, List.nodup_singleton _⟩

end Generation
end SkillNode
