import SkillNode.CommandLine.Program
import SkillNode.Proofs.Generation.Outcomes

/-!
# Failures that are answered

The program has an answer to every failure of loading and reading, and of generation with the
bundled templates: the failures without an answer come from operations in a template, and no
operation of a bundled template meets a value that it does not fit.
-/

namespace SkillNode

open FileTree (Path Tree)
open Markup (Converters)

/-- A run fails only with failures that are answered. -/
def Run.IsAnswered {Result : Type} (run : Run Result) : Prop :=
  ∀ failure, run.outcome = .error failure → failure.isAnswered = true

namespace Run.IsAnswered

variable {First Second : Type}

theorem ofResult (result : First) : (Run.ofResult result).IsAnswered := nofun

theorem fail
    {failure : Failure}
    (isAnswered : failure.isAnswered = true) :
    (Run.fail failure : Run First).IsAnswered := by
  rintro other ⟨⟩
  exact isAnswered

/-- Two runs one after the other answer their failures if each of them does. -/
theorem bind
    {first : Run First}
    {next : First → Run Second}
    (answersFirst : first.IsAnswered)
    (answersNext : ∀ result, (next result).IsAnswered) :
    (first >>= next).IsAnswered := by
  intro failure fails
  rw [Run.outcome_bind] at fails
  cases outcome : first.outcome with
  | error earlier =>
      rw [outcome] at fails
      obtain rfl := Except.error.inj fails
      exact answersFirst _ outcome
  | ok result =>
      rw [outcome] at fails
      exact answersNext result failure fails

end Run.IsAnswered

/-! ## Loading and reading -/

namespace Interface

theorem isAnswered_of_describe
    {tree : Tree}
    {path : Path}
    {package : Text}
    {failure : Failure}
    (fails : describe tree path package = .error failure) :
    failure.isAnswered = true := by
  unfold describe at fails
  split at fails
  · split at fails
    · obtain rfl := Except.error.inj fails
      rfl
    · split at fails
      · obtain rfl := Except.error.inj fails
        rfl
      · cases fails
  · obtain rfl := Except.error.inj fails
    rfl

namespace Catalog

variable (tree : Tree)

theorem isAnswered_addDescription (catalog : Catalog) (description : Description) :
    (catalog.addDescription description).IsAnswered := by
  unfold addDescription
  split
  · exact .fail rfl
  · exact nofun

theorem isAnswered_addFile (catalog : Catalog) (path : Path) (package : Text) :
    (catalog.addFile tree path package).IsAnswered := by
  unfold addFile
  split
  · next failure fails => exact .fail (isAnswered_of_describe fails)
  · exact isAnswered_addDescription _ _

theorem isAnswered_addFiles (catalog : Catalog) (paths : List Path) :
    (catalog.addFiles tree paths).IsAnswered := by
  induction paths generalizing catalog with
  | nil => exact .ofResult _
  | cons path rest restHypothesis =>
      exact .bind (isAnswered_addFile tree catalog path []) restHypothesis

theorem isAnswered_addPath (catalog : Catalog) (path : Path) :
    (catalog.addPath tree path).IsAnswered := by
  unfold addPath
  split
  · split
    · exact .fail rfl
    · exact nofun
    · exact isAnswered_addFiles tree catalog _
  · exact isAnswered_addFile tree catalog path []
  · exact .fail rfl
  · exact .fail rfl

theorem isAnswered_addPaths (catalog : Catalog) (paths : List Path) :
    (catalog.addPaths tree paths).IsAnswered := by
  induction paths generalizing catalog with
  | nil => exact .ofResult _
  | cons path rest restHypothesis =>
      exact .bind (isAnswered_addPath tree catalog path) restHypothesis

end Catalog

end Interface

theorem Statechart.isAnswered_ofFile (tree : Tree) (path : Path) (converters : Converters) :
    (Statechart.ofFile tree path converters).IsAnswered := by
  intro failure fails
  unfold ofFile runOf at fails
  split at fails
  · dsimp only at fails
    split at fails
    · cases fails
    · obtain rfl := Except.error.inj fails
      rfl
  · obtain rfl := Except.error.inj fails
    rfl

/-! ## The program -/

/-- Generation with the bundled templates fails only with errors that are answered. -/
theorem Generation.isAnswered_of_generate
    {options : Options}
    {model : Statechart.TypedModel}
    {error : Error}
    (isTyped : Statechart.IsTyped model)
    (fails : generate bundledFolder [] options model = .error error) :
    (Failure.generation error).isAnswered = true := by
  rcases generate_error_cases isTyped fails with
    ⟨fault, _, rfl⟩ | ⟨_, gathering | marked | ⟨_, _, rfl⟩⟩
  · rfl
  · cases error <;> first | rfl | cases gathering
  · unfold Error.IsMarkerLeft at marked
    split at marked
    · rfl
    · cases marked
  · rfl

namespace CommandLine

/-- Loading the interfaces and reading the description fails only with failures that are
answered. -/
theorem isAnswered_load (tree : Tree) (arguments : Arguments) (converters : Converters) :
    (load tree arguments converters).IsAnswered :=
  .bind (Interface.Catalog.isAnswered_addPaths tree _ _) fun _ =>
    .bind (Statechart.isAnswered_ofFile tree _ converters) fun _ => .ofResult _

end CommandLine
end SkillNode
