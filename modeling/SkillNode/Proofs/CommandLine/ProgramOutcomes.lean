import SkillNode.Proofs.CommandLine.AnsweredFailures
import SkillNode.Proofs.Generation.FileNames

/-!
# How the program ends

With the bundled templates the program does what the pipeline does in memory and then
writes. It ends with exit code 0 exactly if nothing fails, and up to the writing it leaves
every file and directory as it is. Only a description whose path is too long to be looked for
breaks it off without an exit code.

One case distinction carries this: the program comes to the writing of what is built, or
it ends before with exit code 1.
-/

namespace SkillNode
namespace CommandLine

open FileTree (Path Tree)
open Generation (Sources bundledFolder HoldsWritten)
open Interface (Catalog)
open Markup (Converters)

/-! ## What is built -/

/-- The sources that are made in memory of what arguments name: of the interfaces that are
loaded and the behaviour description that is read. -/
def Builds (converters : Converters) (tree : Tree) (arguments : Arguments) (sources : Sources) :
    Prop :=
  ∃ catalog model,
    (Catalog.load tree (arguments.interfaces.map Path.ofText)).outcome = .ok catalog ∧
      (Statechart.ofFile tree (Path.ofText arguments.description) converters).outcome =
          .ok model ∧
        Generation.generate bundledFolder [] arguments.options
          (Statechart.resolve model catalog) = .ok sources

section

variable {converters : Converters} {tree : Tree} {arguments : Arguments}

/-- At most one pair of sources is built. -/
theorem Builds.unique
    {sources others : Sources}
    (builds : Builds converters tree arguments sources)
    (buildsToo : Builds converters tree arguments others) :
    sources = others := by
  obtain ⟨catalog, model, loads, reads, generates⟩ := builds
  obtain ⟨otherCatalog, otherModel, loadsToo, readsToo, generatesToo⟩ := buildsToo
  obtain rfl : catalog = otherCatalog := Except.ok.inj (loads.symm.trans loadsToo)
  obtain rfl : model = otherModel := Except.ok.inj (reads.symm.trans readsToo)
  exact Except.ok.inj (generates.symm.trans generatesToo)

theorem load_eq_ok_iff {loaded : Loaded} :
    (load tree arguments converters).outcome = .ok loaded ↔
      (Catalog.load tree (arguments.interfaces.map Path.ofText)).outcome = .ok loaded.catalog ∧
        (Statechart.ofFile tree (Path.ofText arguments.description) converters).outcome =
          .ok loaded.model := by
  obtain ⟨catalog, model⟩ := loaded
  simp only [load, Run.outcome_bind]
  cases (Catalog.load tree (arguments.interfaces.map Path.ofText)).outcome with
  | error failure => simp [Except.bind]
  | ok loadedCatalog =>
      cases (Statechart.ofFile tree (Path.ofText arguments.description) converters).outcome with
      | error failure => simp [Except.bind]
      | ok readModel => simp [Except.bind]

theorem outcome_sources
    (loaded : Loaded)
    (folder : Template.Folder)
    (options : Generation.Options) :
    (loaded.sources folder options).outcome =
      (Generation.generate folder [] options
        (Statechart.resolve loaded.model loaded.catalog)).mapError .generation := by
  simp only [Loaded.sources, Run.outcome_bind, Run.tell, Statechart.typed, Except.bind]
  cases Generation.generate folder [] options
    (Statechart.resolve loaded.model loaded.catalog) <;> rfl

/-! ## The way to the writing -/

/-- The program ends before the writing, with a message. -/
def EndsEarly (tree : Tree) (outcome : Except Failure Result) : Prop :=
  ∃ result, outcome = .ok result ∧ result.exitCode = 1 ∧ result.tree = tree

theorem endsEarly_answer
    {failure : Failure}
    (isAnswered : failure.isAnswered = true)
    (output errors : List Text) :
    EndsEarly tree (answer tree arguments output errors failure) := by
  rw [answer, if_pos isAnswered]
  exact ⟨_, rfl, rfl, rfl⟩

variable (converters tree arguments) in
/-- The program comes to the writing of sources: the description is there, the settings
hold, and the sources are built. -/
structure ComesToWrite (sources : Sources) : Prop where
  isThere : tree.isThere (Path.ofText arguments.description) = .ok true
  holds : arguments.options.fault? = none
  builds : Builds converters tree arguments sources

variable (converters) (draws : List Text) (noTemplates : arguments.templateDir? = none)
include noTemplates

/-- The program comes to the writing of what is built, or it ends before. -/
theorem generateCode_cases :
    (∃ sources output errors, Builds converters tree arguments sources ∧
        generateCode draws tree arguments converters =
          .ok (writeSources draws tree arguments sources output errors)) ∨
      (∀ sources, ¬ Builds converters tree arguments sources) ∧
        EndsEarly tree (generateCode draws tree arguments converters) := by
  have bundled : arguments.folder tree = bundledFolder := by
    simp [Arguments.folder, noTemplates]
  cases loads : (load tree arguments converters).outcome with
  | error failure =>
      simp only [generateCode, loads]
      refine .inr ⟨fun sources builds => ?_,
        endsEarly_answer (isAnswered_load tree arguments converters failure loads) _ _⟩
      obtain ⟨catalog, model, loadsCatalog, reads, _⟩ := builds
      have succeeds : (load tree arguments converters).outcome = .ok ⟨catalog, model⟩ :=
        load_eq_ok_iff.mpr ⟨loadsCatalog, reads⟩
      simp [loads] at succeeds
  | ok loaded =>
      obtain ⟨loadsCatalog, reads⟩ := load_eq_ok_iff.mp loads
      have generation := outcome_sources loaded bundledFolder arguments.options
      cases generates : Generation.generate bundledFolder [] arguments.options
          (Statechart.resolve loaded.model loaded.catalog) with
      | error error =>
          have isTyped :
              Statechart.IsTyped (Statechart.resolve loaded.model loaded.catalog) :=
            ⟨_, _, .inr ⟨tree, _, converters, reads⟩, rfl⟩
          rw [generates, Except.mapError] at generation
          simp only [generateCode, loads, bundled, generation]
          refine .inr ⟨fun sources builds => ?_,
            endsEarly_answer (Generation.isAnswered_of_generate isTyped generates) _ _⟩
          obtain ⟨catalog, model, loadsToo, readsToo, generatesToo⟩ := builds
          obtain rfl := Except.ok.inj (loadsCatalog.symm.trans loadsToo)
          obtain rfl := Except.ok.inj (reads.symm.trans readsToo)
          simp [generates] at generatesToo
      | ok sources =>
          rw [generates, Except.mapError] at generation
          simp only [generateCode, loads, bundled, generation]
          exact .inl ⟨sources, _, _, ⟨_, _, loadsCatalog, reads, generates⟩, rfl⟩

/-- So it does if it can tell whether the description is there. -/
theorem runArguments_cases
    {isThere : Bool}
    (looked : tree.isThere (Path.ofText arguments.description) = .ok isThere) :
    (∃ sources output errors, ComesToWrite converters tree arguments sources ∧
        runArguments draws tree arguments converters =
          .ok (writeSources draws tree arguments sources output errors)) ∨
      (∀ sources, ¬ ComesToWrite converters tree arguments sources) ∧
        EndsEarly tree (runArguments draws tree arguments converters) := by
  unfold runArguments
  rw [looked]
  cases isThere with
  | false =>
      refine .inr ⟨fun sources comes => ?_, _, rfl, rfl, rfl⟩
      have isThere := comes.isThere
      rw [looked] at isThere
      cases isThere
  | true =>
      dsimp only
      split
      · next fault refused =>
          refine .inr ⟨fun sources comes => ?_, _, rfl, rfl, rfl⟩
          simp [comes.holds] at refused
      · next holds =>
          rcases generateCode_cases converters draws noTemplates with
            ⟨sources, output, errors, builds, writes⟩ | ⟨noneBuilt, endsEarly⟩
          · exact .inl ⟨sources, output, errors, ⟨looked, holds, builds⟩, writes⟩
          · exact .inr ⟨fun sources comes => noneBuilt sources comes.builds, endsEarly⟩

end

/-! ## The writing -/

section Writing

variable (draws : List Text) (tree : Tree) (arguments : Arguments) (sources : Sources)
  (output errors : List Text)

theorem tree_writeSources :
    (writeSources draws tree arguments sources output errors).tree =
      (sources.write draws tree (Path.ofText arguments.outputDir)).tree := by
  unfold writeSources
  cases written : (sources.write draws tree (Path.ofText arguments.outputDir)).outcome <;>
    simp [written]

theorem exitCode_writeSources :
    (writeSources draws tree arguments sources output errors).exitCode = 0 ∨
      (writeSources draws tree arguments sources output errors).exitCode = 1 := by
  unfold writeSources
  cases written : (sources.write draws tree (Path.ofText arguments.outputDir)).outcome <;>
    simp [written]

theorem exitCode_writeSources_eq_zero_iff :
    (writeSources draws tree arguments sources output errors).exitCode = 0 ↔
      ∃ paths, (sources.write draws tree (Path.ofText arguments.outputDir)).outcome =
        .ok paths := by
  unfold writeSources
  cases written : (sources.write draws tree (Path.ofText arguments.outputDir)).outcome <;>
    simp [written]

end Writing

/-! ## All outcomes -/

/-- Whether a description is there cannot be told exactly if its path, or a name in it, is too
long. -/
theorem isThere_eq_error_iff {tree : Tree} {path : Path} {error : FileTree.Error} :
    tree.isThere path = .error error ↔
      path.holdsNull = false ∧ tree.entryAt path = .error .nameTooLong ∧
        error = ⟨.nameTooLong, path⟩ := by
  unfold Tree.isThere
  cases path.holdsNull with
  | true => simp
  | false =>
      cases tree.entryAt path with
      | ok entry => simp
      | error fault => cases fault <;> simp [eq_comm]

section Runs

variable {draws : List Text} (tree : Tree) {arguments : Arguments} (converters : Converters)

variable (draws) in
/-- The program breaks off exactly if it cannot tell whether the description is there. -/
theorem runArguments_eq_error_iff
    (noTemplates : arguments.templateDir? = none)
    {failure : Failure} :
    runArguments draws tree arguments converters = .error failure ↔
      (Path.ofText arguments.description).holdsNull = false ∧
        tree.entryAt (Path.ofText arguments.description) = .error .nameTooLong ∧
          failure = .file ⟨.nameTooLong, Path.ofText arguments.description⟩ := by
  cases looked : tree.isThere (Path.ofText arguments.description) with
  | error error =>
      obtain ⟨noNull, tooLong, rfl⟩ := isThere_eq_error_iff.mp looked
      rw [runArguments, looked]
      simp [noNull, tooLong, eq_comm]
  | ok isThere =>
      refine iff_of_false (fun fails => ?_) ?_
      · rcases runArguments_cases converters draws noTemplates looked with
          ⟨sources, output, errors, _, writes⟩ | ⟨_, result, endsEarly, _⟩
        · rw [writes] at fails
          cases fails
        · rw [endsEarly] at fails
          cases fails
      · rintro ⟨noNull, tooLong, _⟩
        have unknown := isThere_eq_error_iff.mpr ⟨noNull, tooLong, rfl⟩
        rw [looked] at unknown
        cases unknown

/-- Else it leaves what its steps leave: the files of what was built if all succeed, and every
file and directory as it was if it does not come to the writing. -/
theorem runArguments_finishes
    (noSlash : ∀ draw ∈ draws, '/' ∉ draw)
    (noTemplates : arguments.templateDir? = none)
    {isThere : Bool}
    (looked : tree.isThere (Path.ofText arguments.description) = .ok isThere) :
    ∃ result, runArguments draws tree arguments converters = .ok result ∧
      (result.exitCode = 0 ↔
        tree.isThere (Path.ofText arguments.description) = .ok true ∧
          arguments.options.fault? = none ∧
            ∃ sources, Builds converters tree arguments sources ∧
              ∃ paths, (sources.write draws tree (Path.ofText arguments.outputDir)).outcome =
                .ok paths) ∧
        (result.exitCode = 0 ∨ result.exitCode = 1) ∧
          (result.exitCode = 0 → ∀ sources, Builds converters tree arguments sources →
            sources.headerName = sources.className ++ ".h" ∧
              sources.sourceName = sources.className ++ ".cpp" ∧
                HoldsWritten (Path.ofText arguments.outputDir) sources.files tree result.tree) ∧
            ((∀ sources, ¬ ComesToWrite converters tree arguments sources) →
              result.tree = tree) := by
  rcases runArguments_cases converters draws noTemplates looked with
    ⟨sources, output, errors, comes, writes⟩ |
      ⟨neverComes, result, endsEarly, exitCode, sameTree⟩
  · refine ⟨_, writes, ?_⟩
    have succeeds_iff :=
      exitCode_writeSources_eq_zero_iff draws tree arguments sources output errors
    have endsAnyway := exitCode_writeSources draws tree arguments sources output errors
    rw [succeeds_iff] at endsAnyway
    rw [tree_writeSources, succeeds_iff]
    refine ⟨⟨?_, ?_⟩, endsAnyway, ?_, fun neverComes => absurd comes (neverComes _)⟩
    · exact fun succeeds => ⟨comes.isThere, comes.holds, sources, comes.builds, succeeds⟩
    · rintro ⟨_, _, others, builds, succeeds⟩
      exact comes.builds.unique builds ▸ succeeds
    · rintro ⟨paths, succeeds⟩ others builds
      obtain rfl := comes.builds.unique builds
      obtain ⟨catalog, model, _, _, generates⟩ := builds
      obtain ⟨headerName, sourceName, areVisible, distinctNames⟩ :=
        Generation.fileNames_of_generate generates
      exact ⟨headerName, sourceName, (Generation.holdsWritten_writeAll areVisible distinctNames
        noSlash succeeds).1⟩
  · refine ⟨result, endsEarly, ?_⟩
    rw [exitCode, sameTree]
    refine ⟨iff_of_false (by decide) ?_, .inr rfl, fun isZero => absurd isZero (by decide),
      fun _ => rfl⟩
    rintro ⟨isThere, holds, sources, builds, _⟩
    exact neverComes sources ⟨isThere, holds, builds⟩

section Accepted

variable {tree} {converters} {texts : List Text}
  (accepted : Arguments.ofTexts texts = .ok arguments)

include accepted

theorem run_eq_finished_iff {result : Result} :
    run draws tree texts converters = .finished result ↔
      runArguments draws tree arguments converters = .ok result := by
  simp only [run, accepted]
  cases runArguments draws tree arguments converters <;> simp

theorem run_eq_failed_iff {failure : Failure} :
    run draws tree texts converters = .failed failure ↔
      runArguments draws tree arguments converters = .error failure := by
  simp only [run, accepted]
  cases runArguments draws tree arguments converters <;> simp

end Accepted

/-- A command line that is accepted and names no folder of templates runs to its end unless
the path of the description is too long to be looked for: then it breaks off. The exit code
is 0 exactly if the description is there, the settings hold, and loading, reading,
resolving, generating and writing all succeed; else it is 1. After success both files of the
class hold what was built in memory, and nothing else has changed but for directories on
the way to them. If the run fails before the writing, the files and directories are as they
were. -/
theorem run_outcomes
    {texts : List Text}
    (noSlash : ∀ draw ∈ draws, '/' ∉ draw)
    (accepted : Arguments.ofTexts texts = .ok arguments)
    (noTemplates : arguments.templateDir? = none) :
    (∀ failure, run draws tree texts converters = .failed failure ↔
      (Path.ofText arguments.description).holdsNull = false ∧
        tree.entryAt (Path.ofText arguments.description) = .error .nameTooLong ∧
          failure = .file ⟨.nameTooLong, Path.ofText arguments.description⟩) ∧
      ((∀ failure, run draws tree texts converters ≠ .failed failure) →
        ∃ result, run draws tree texts converters = .finished result ∧
          (result.exitCode = 0 ↔
            tree.isThere (Path.ofText arguments.description) = .ok true ∧
              arguments.options.fault? = none ∧
                ∃ sources, Builds converters tree arguments sources ∧
                  ∃ paths,
                    (sources.write draws tree (Path.ofText arguments.outputDir)).outcome =
                      .ok paths) ∧
            (result.exitCode = 0 ∨ result.exitCode = 1) ∧
              (result.exitCode = 0 → ∀ sources, Builds converters tree arguments sources →
                sources.headerName = sources.className ++ ".h" ∧
                  sources.sourceName = sources.className ++ ".cpp" ∧
                    HoldsWritten (Path.ofText arguments.outputDir) sources.files tree
                      result.tree) ∧
                ((∀ sources, ¬ ComesToWrite converters tree arguments sources) →
                  result.tree = tree)) := by
  constructor
  · intro failure
    rw [run_eq_failed_iff accepted]
    exact runArguments_eq_error_iff draws tree converters noTemplates
  · intro never
    cases looked : tree.isThere (Path.ofText arguments.description) with
    | error error =>
        refine absurd ((run_eq_failed_iff accepted).mpr ?_) (never (.file error))
        rw [runArguments, looked]
    | ok isThere =>
        obtain ⟨result, finishes, leaves⟩ :=
          runArguments_finishes tree converters noSlash noTemplates looked
        rw [looked] at leaves
        exact ⟨result, (run_eq_finished_iff accepted).mpr finishes, leaves⟩

end Runs

/-- A working directory with nothing but the chart of a skill that listens to a door. -/
def doorTree : Tree :=
  (Tree.empty ["work"]).plant ["door.scxml"] (.file (Text.utf8 Generation.doorChart))

/-- The program writes both files of the door skill. -/
theorem run_outcomes_door :
    let arguments : Arguments := { description := "door.scxml", outputDir := "out" }
    (∀ draw ∈ ([("draw" : Text)] : List Text), '/' ∉ draw) ∧
      Arguments.ofTexts ["door.scxml", "-o", "out"] = .ok arguments ∧
        arguments.templateDir? = none ∧
          ∃ result sources, run ["draw"] doorTree ["door.scxml", "-o", "out"] = .finished result ∧
            result.exitCode = 0 ∧
              Builds .none doorTree arguments sources ∧
                HoldsWritten (Path.ofText "out") sources.files doorTree result.tree := by
  intro arguments
  have noSlash : ∀ draw ∈ ([("draw" : Text)] : List Text), '/' ∉ draw := by decide
  have accepted : Arguments.ofTexts ["door.scxml", "-o", "out"] = .ok arguments := by
    decide +kernel
  have found : doorTree.entryAt (Path.ofText arguments.description) ≠ .error .nameTooLong := by
    decide +kernel
  -- The texts of the files are not looked at by the writing, nor here.
  have written : (Generation.Blueprint.ofModel {}
      (Statechart.resolve Generation.doorModel Catalog.empty)).toOption.bind (fun blueprint =>
        ((Generation.layoutSources blueprint).write ["draw"] doorTree
          (Path.ofText "out")).outcome.toOption) =
      some [Path.ofText "out/DoorSkill.h", Path.ofText "out/DoorSkill.cpp"] := by
    decide +kernel
  obtain ⟨blueprint, gathers, writes⟩ := Option.bind_eq_some_iff.mp written
  have builds : Builds .none doorTree arguments (Generation.layoutSources blueprint) :=
    ⟨Catalog.empty, Generation.doorModel, rfl, by decide +kernel,
      Generation.generate_of_isPlain Generation.isPlain_doorModel rfl
        Generation.Options.isPrintable_default (eq_ok_of_toOption gathers)⟩
  obtain ⟨failsIff, ends⟩ := run_outcomes doorTree .none noSlash accepted rfl
  obtain ⟨result, finishes, succeeds_iff, _, holds, _⟩ :=
    ends fun failure fails => found ((failsIff failure).mp fails).2.1
  have succeeds : result.exitCode = 0 :=
    succeeds_iff.mpr ⟨by decide +kernel, rfl, _, builds, _, eq_ok_of_toOption writes⟩
  exact ⟨noSlash, accepted, rfl, result, _, finishes, succeeds, builds,
    (holds succeeds _ builds).2.2⟩

/-- A description by a name of 256 letters is not there, but the program does not say so: it
breaks off without an exit code. -/
theorem run_longDescription :
    let name : Text := List.replicate 256 'a'
    Arguments.ofTexts [name] = .ok { description := name } ∧
      (∀ content, doorTree.read (Path.ofText name) ≠ .ok content) ∧
        run ["draw"] doorTree [name] = .failed (.file ⟨.nameTooLong, Path.ofText name⟩) := by
  intro name
  have accepted : Arguments.ofTexts [name] = .ok { description := name } := by decide +kernel
  have tooLong : doorTree.entryAt (Path.ofText name) = .error .nameTooLong := by decide +kernel
  have looked : doorTree.isThere (Path.ofText name) = .error ⟨.nameTooLong, Path.ofText name⟩ :=
    isThere_eq_error_iff.mpr ⟨by decide +kernel, tooLong, rfl⟩
  refine ⟨accepted, fun content found => ?_, (run_eq_failed_iff accepted).mpr ?_⟩
  · rw [Tree.read, tooLong] at found
    cases found
  · rw [runArguments, looked]

end CommandLine
end SkillNode
