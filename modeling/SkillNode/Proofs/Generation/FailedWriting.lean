import SkillNode.Generation.Writing
import SkillNode.Proofs.FileTree.Growth
import Mathlib.Data.List.Nodup

/-!
# Writing that fails

A file that is staged stands at a place that was free, and erasing all staged files
gives back what every place held before. So a failure up to the last staged file
leaves nothing but directories behind.

Once all files are staged, moving them to their targets is not undone. The main
statement says that a failed writing keeps the files of the tree exactly if it fails
before that.
-/

namespace SkillNode
namespace Generation

open FileTree (Path Place Tree)
open FileTree.Tree (GrowsTowards SameFiles)

/-! ## Staged files -/

/-- What a tree is while files are staged: every staged file stands at a place of its
own that was free before, and other places hold what they held. -/
structure HoldsStaged (before now : Tree) (staged : List Staged) : Prop where
  sameWorkingDirectory : now.workingDirectory = before.workingDirectory
  wasFree : ∀ file ∈ staged, before.find? file.place = none
  isFile : ∀ file ∈ staged, ∃ content, now.find? file.place = some (.file content)
  elsewhere : ∀ place, (∀ file ∈ staged, file.place ≠ place) →
    now.find? place = before.find? place
  distinct : (staged.map Staged.place).Nodup

theorem HoldsStaged.nil (tree : Tree) : HoldsStaged tree tree [] where
  sameWorkingDirectory := rfl
  wasFree := by simp
  isFile := by simp
  elsewhere _ _ := rfl
  distinct := by simp

/-- A place that is free now is none of a staged file. -/
theorem HoldsStaged.ne_of_isFree
    {before now : Tree}
    {staged : List Staged}
    (holds : HoldsStaged before now staged)
    {place : Place}
    (isFree : now.find? place = none) :
    ∀ file ∈ staged, file.place ≠ place := by
  rintro file member rfl
  obtain ⟨content, isFile⟩ := holds.isFile file member
  simp [isFile] at isFree

/-- Staging one more file at a free place. -/
theorem HoldsStaged.append
    {before now : Tree}
    {staged : List Staged}
    (holds : HoldsStaged before now staged)
    {new : Staged}
    (isFree : now.find? new.place = none)
    (content : Bytes) :
    HoldsStaged before (now.put new.place (.file content)) (staged ++ [new]) := by
  have others := holds.ne_of_isFree isFree
  have put := Tree.find?_put now (Tree.ne_nil_of_find?_eq_none isFree) (.file content)
  refine ⟨holds.sameWorkingDirectory, ?_, ?_, ?_, ?_⟩
  · intro file member
    rcases List.mem_append.mp member with earlier | last
    · exact holds.wasFree file earlier
    · obtain rfl := List.mem_singleton.mp last
      exact (holds.elsewhere _ others).symm.trans isFree
  · intro file member
    by_cases same : new.place = file.place
    · exact ⟨content, by rw [put, if_pos same]⟩
    · rcases List.mem_append.mp member with earlier | last
      · simpa [put, same] using holds.isFile file earlier
      · exact absurd (congrArg Staged.place (List.mem_singleton.mp last).symm) same
  · intro place different
    have notNew : new.place ≠ place := different new (by simp)
    simp only [put, notNew, if_false]
    exact holds.elsewhere place fun file member =>
      different file (List.mem_append_left _ member)
  · rw [List.map_append, List.map_singleton, List.nodup_append]
    refine ⟨holds.distinct, List.nodup_singleton _, ?_⟩
    rintro place member last isLast rfl
    obtain ⟨file, fileMember, rfl⟩ := List.mem_map.mp member
    exact others file fileMember (List.mem_singleton.mp isLast)

/-- Writing into a staged file. -/
theorem HoldsStaged.write
    {before now : Tree}
    {staged : List Staged}
    (holds : HoldsStaged before now staged)
    {file : Staged}
    (member : file ∈ staged)
    (content : Bytes) :
    HoldsStaged before (now.put file.place (.file content)) staged := by
  have notRoot := Tree.ne_nil_of_find?_eq_none (holds.wasFree file member)
  have put := Tree.find?_put now notRoot (.file content)
  refine ⟨holds.sameWorkingDirectory, holds.wasFree, ?_, ?_, holds.distinct⟩
  · intro other otherMember
    rw [put]
    split
    · exact ⟨content, rfl⟩
    · exact holds.isFile other otherMember
  · intro place different
    simp only [put, different file member, if_false]
    exact holds.elsewhere place different

/-! ## Staging -/

/-- Making a file puts it at a free place. -/
theorem createFile_eq_ok
    {tree made : Tree}
    {path : Path}
    {content : Bytes}
    {place : Place}
    (succeeds : tree.createFile path content = .ok (made, place)) :
    tree.find? place = none ∧ made = tree.put place (.file content) := by
  unfold Tree.createFile at succeeds
  split at succeeds
  · cases succeeds
  · split at succeeds
    · cases succeeds
    · next isFree =>
        cases succeeds
        exact ⟨isFree, rfl⟩

/-- Whatever draw is taken, an empty file is put at a free place. -/
theorem stage_eq_ok
    {tree made : Tree}
    {directory : Path}
    {name : Text}
    {draws : List Text}
    {new : Staged}
    (succeeds : stage tree directory name draws = .ok (made, new)) :
    tree.find? new.place = none ∧ made = tree.put new.place (.file []) := by
  induction draws with
  | nil => cases succeeds
  | cons draw rest restHypothesis =>
      unfold stage at succeeds
      split at succeeds
      · next created =>
          cases succeeds
          exact createFile_eq_ok created
      · exact restHypothesis succeeds
      · cases succeeds

/-- Staging stops with all files staged so far, the refused one among them. -/
theorem holdsStaged_stageAll
    (draws : List Text)
    (refusals : Refusals)
    (directory : Path)
    (files : List (Text × Text))
    {before now : Tree}
    {staged : List Staged}
    (holds : HoldsStaged before now staged) :
    HoldsStaged before (stageAll draws refusals now directory staged files).1
      (stageAll draws refusals now directory staged files).2.1 := by
  induction files generalizing now staged with
  | nil => exact holds
  | cons file rest restHypothesis =>
      unfold stageAll
      split
      · exact holds
      · next made new staging =>
          -- A refused file is staged, but nothing is written into it.
          obtain ⟨isFree, rfl⟩ := stage_eq_ok staging
          have holdsNew := holds.append isFree []
          split
          · exact holdsNew
          · exact restHypothesis (holdsNew.write (List.mem_append_right _ (by simp)) _)

/-- Erasing staged files leaves the other places as they are. -/
theorem find?_unstage
    {staged : List Staged}
    {tree : Tree}
    (notRoot : ∀ file ∈ staged, file.place ≠ [])
    (place : Place) :
    (unstage tree staged).find? place =
      if ∃ file ∈ staged, file.place = place then none else tree.find? place := by
  induction staged generalizing tree with
  | nil => simp [unstage]
  | cons file rest restHypothesis =>
      have fileErased := Tree.find?_erase tree (notRoot file (by simp)) place
      have restErased : (unstage (tree.erase file.place) rest).find? place =
          if ∃ other ∈ rest, other.place = place then none
          else (tree.erase file.place).find? place :=
        restHypothesis fun other member => notRoot other (List.mem_cons_of_mem _ member)
      rw [fileErased] at restErased
      change (unstage (tree.erase file.place) rest).find? place = _
      rw [restErased]
      by_cases same : file.place = place <;> simp [same]

theorem workingDirectory_unstage (tree : Tree) (staged : List Staged) :
    (unstage tree staged).workingDirectory = tree.workingDirectory := by
  induction staged generalizing tree with
  | nil => rfl
  | cons file rest restHypothesis => exact restHypothesis (tree.erase file.place)

/-- Erasing all staged files gives back what every place held. -/
theorem HoldsStaged.find?_unstage
    {before now : Tree}
    {staged : List Staged}
    (holds : HoldsStaged before now staged)
    (place : Place) :
    (unstage now staged).find? place = before.find? place := by
  rw [Generation.find?_unstage fun file member =>
    Tree.ne_nil_of_find?_eq_none (holds.wasFree file member)]
  split
  · next isStaged =>
      obtain ⟨file, member, rfl⟩ := isStaged
      exact (holds.wasFree file member).symm
  · next notStaged =>
      exact holds.elsewhere place fun file member same => notStaged ⟨file, member, same⟩

/-! ## Moving -/

/-- Moving a file puts a file somewhere and keeps the files at all other places. -/
theorem isFile_moveFile
    {tree moved : Tree}
    {source place : Place}
    {target : Path}
    (succeeds : tree.moveFile source target = .ok moved)
    (different : source ≠ place)
    (isFile : ∃ content, tree.find? place = some (.file content)) :
    ∃ content, moved.find? place = some (.file content) := by
  unfold Tree.moveFile at succeeds
  split at succeeds
  · cases succeeds
  · next targetPlace leads =>
      split at succeeds
      · cases succeeds
      · cases succeeds
      · cases succeeds
      · next content sourceHolds targetHolds =>
          cases succeeds
          have sourceNotRoot : source ≠ [] := by
            rintro rfl
            simp [Tree.find?] at sourceHolds
          have targetNotRoot : targetPlace ≠ [] := by
            rintro rfl
            simp [Tree.find?] at targetHolds
          rw [Tree.find?_put _ targetNotRoot]
          split
          · exact ⟨content, rfl⟩
          · rw [Tree.find?_erase _ sourceNotRoot, if_neg different]
            exact isFile

/-- When a move fails, the file to be moved still stands where it was staged. -/
theorem isFile_moveAll
    {tree moved : Tree}
    {staged : List Staged}
    {error : FileTree.Error}
    (fails : moveAll tree staged = (moved, some error))
    (distinct : (staged.map Staged.place).Nodup)
    (areFiles : ∀ file ∈ staged, ∃ content, tree.find? file.place = some (.file content)) :
    ∃ file ∈ staged, ∃ content, moved.find? file.place = some (.file content) := by
  -- A move keeps the files that are staged at other places, so that the next one starts
  -- with files at all places that are left.
  induction staged generalizing tree with
  | nil => simp [moveAll] at fails
  | cons file rest restHypothesis =>
      obtain ⟨firstNew, restDistinct⟩ := List.nodup_cons.mp distinct
      unfold moveAll at fails
      split at fails
      · next next move =>
          have restFiles : ∀ other ∈ rest,
              ∃ content, next.find? other.place = some (.file content) := by
            intro other member
            have different : file.place ≠ other.place := fun same =>
              firstNew (same ▸ List.mem_map_of_mem member)
            exact isFile_moveFile move different (areFiles other (List.mem_cons_of_mem _ member))
          obtain ⟨other, member, isFile⟩ := restHypothesis fails restDistinct restFiles
          exact ⟨other, List.mem_cons_of_mem _ member, isFile⟩
      · obtain rfl := congrArg Prod.fst fails
        exact ⟨file, List.mem_cons_self, areFiles file List.mem_cons_self⟩

/-! ## Preparing -/

/-- A preparation that fails leaves directories at most. -/
theorem growsTowards_prepare_of_error
    {draws : List Text}
    {refusals : Refusals}
    {tree : Tree}
    {directory : Path}
    {files : List (Text × Text)}
    {error : FileTree.Error}
    (fails : (prepare draws refusals tree directory files).outcome = .error error) :
    GrowsTowards directory tree (prepare draws refusals tree directory files).tree := by
  have grows := Tree.growsTowards_makeAll tree directory
  unfold prepare at fails ⊢
  split
  · next made _ making => rwa [making] at grows
  · next made making =>
      rw [making] at grows
      have holds := holdsStaged_stageAll draws refusals directory files (HoldsStaged.nil made)
      split
      · next staging staged _ stagingFails =>
          rw [stagingFails] at holds
          have sameWorkingDirectory :
              (unstage staging staged).workingDirectory = made.workingDirectory :=
            (workingDirectory_unstage staging staged).trans holds.sameWorkingDirectory
          exact grows.congr sameWorkingDirectory holds.find?_unstage
      · next staging staged stagingSucceeds =>
          simp [making, stagingSucceeds] at fails

/-- After a preparation every file is staged at a place that was free. -/
theorem holdsStaged_prepare
    {draws : List Text}
    {refusals : Refusals}
    {tree : Tree}
    {directory : Path}
    {files : List (Text × Text)}
    {staged : List Staged}
    (succeeds : (prepare draws refusals tree directory files).outcome = .ok staged) :
    ∃ made, GrowsTowards directory tree made ∧
      HoldsStaged made (prepare draws refusals tree directory files).tree staged := by
  have grows := Tree.growsTowards_makeAll tree directory
  unfold prepare at succeeds ⊢
  split
  · next making => simp [making] at succeeds
  · next made making =>
      rw [making] at grows
      have holds := holdsStaged_stageAll draws refusals directory files (HoldsStaged.nil made)
      split
      · next stagingFails => simp [making, stagingFails] at succeeds
      · next staging all stagingSucceeds =>
          simp only [making, stagingSucceeds, Except.ok.injEq] at succeeds
          subst succeeds
          rw [stagingSucceeds] at holds
          exact ⟨made, grows, holds⟩

/-- A staged file that is left is a file that was not there. -/
theorem not_sameFiles_of_moveAll_error
    {tree made prepared moved : Tree}
    {directory : Path}
    {staged : List Staged}
    {error : FileTree.Error}
    (grows : GrowsTowards directory tree made)
    (holds : HoldsStaged made prepared staged)
    (fails : moveAll prepared staged = (moved, some error)) :
    ¬ SameFiles tree moved := by
  intro same
  obtain ⟨file, member, content, isFile⟩ := isFile_moveAll fails holds.distinct holds.isFile
  have wasFree := grows.isFree (holds.wasFree file member)
  simp [(same file.place content).mp isFile] at wasFree

/-! ## Writing -/

/-- All files can be staged. -/
def IsPrepared (draws : List Text) (refusals : Refusals) (tree : Tree) (directory : Path)
    (files : List (Text × Text)) : Prop :=
  ∃ staged, (prepare draws refusals tree directory files).outcome = .ok staged

/-- A writing fails in its preparation, whose tree is the result, or while the staged
files are moved. -/
theorem writeAll_error_cases
    {draws : List Text}
    {refusals : Refusals}
    {tree : Tree}
    {directory : Path}
    {files : List (Text × Text)}
    {error : FileTree.Error}
    (fails : (writeAll draws tree directory files refusals).outcome = .error error) :
    (prepare draws refusals tree directory files).outcome = .error error ∧
        (writeAll draws tree directory files refusals).tree =
          (prepare draws refusals tree directory files).tree ∨
      ∃ staged, (prepare draws refusals tree directory files).outcome = .ok staged ∧
        moveAll (prepare draws refusals tree directory files).tree staged =
          ((writeAll draws tree directory files refusals).tree, some error) := by
  unfold writeAll at fails ⊢
  generalize prepare draws refusals tree directory files = preparation at fails ⊢
  obtain ⟨prepared, outcome⟩ := preparation
  cases outcome with
  | error preparationError => exact .inl ⟨by simpa using fails, rfl⟩
  | ok staged =>
      refine .inr ⟨staged, rfl, ?_⟩
      rcases moves : moveAll prepared staged with ⟨moved, none | moveError⟩
      · simp [moves] at fails
      · simpa [moves] using fails

/-- A writing that fails keeps the files of the tree, and adds nothing but directories
on the way to the output directory, exactly if it fails before all files are staged.
If it fails later, a file is left or changed. -/
theorem write_keepsFiles_iff
    (sources : Sources)
    (draws : List Text)
    (refusals : Refusals)
    (tree : Tree)
    (directory : Path)
    (error : FileTree.Error)
    (fails : (sources.write draws tree directory refusals).outcome = .error error) :
    (GrowsTowards directory tree (sources.write draws tree directory refusals).tree ↔
        ¬ IsPrepared draws refusals tree directory sources.files) ∧
      (IsPrepared draws refusals tree directory sources.files →
        ¬ SameFiles tree (sources.write draws tree directory refusals).tree) := by
  have lost : IsPrepared draws refusals tree directory sources.files →
      ¬ SameFiles tree (sources.write draws tree directory refusals).tree := by
    rintro ⟨staged, prepared⟩
    rcases writeAll_error_cases fails with ⟨notPrepared, _⟩ | ⟨moving, nowPrepared, moves⟩
    · simp [prepared] at notPrepared
    · obtain ⟨made, grows, holds⟩ := holdsStaged_prepare nowPrepared
      exact not_sameFiles_of_moveAll_error grows holds moves
  refine ⟨⟨fun grows isPrepared => lost isPrepared grows.sameFiles, fun notPrepared => ?_⟩, lost⟩
  rcases writeAll_error_cases fails with ⟨unprepared, sameTree⟩ | ⟨staged, prepared, _⟩
  · have grows := growsTowards_prepare_of_error unprepared
    rwa [← sameTree] at grows
  · exact absurd ⟨staged, prepared⟩ notPrepared

/-- A disk that has no room for the second file keeps the old header. -/
theorem write_refused_keepsFiles :
    let sources : Sources := ⟨"D", "D.h", "header", "D.cpp", "source"⟩
    let full : FileTree.Error := ⟨.notFound, .ofText "out"⟩
    let refusals : Refusals := fun index => if index = 1 then some full else none
    let tree := (Tree.empty ["work"]).plant ["out", "D.h"] (.file (Text.utf8 "old"))
    (sources.write ["draw"] tree (.ofText "out") refusals).outcome = .error full ∧
      ¬ IsPrepared ["draw"] refusals tree (.ofText "out") sources.files ∧
      GrowsTowards (.ofText "out") tree
        (sources.write ["draw"] tree (.ofText "out") refusals).tree := by
  intro sources full refusals tree
  have fails : (sources.write ["draw"] tree (.ofText "out") refusals).outcome = .error full := by
    decide +kernel
  have preparation :
      (prepare ["draw"] refusals tree (.ofText "out") sources.files).outcome = .error full := by
    decide +kernel
  have notPrepared : ¬ IsPrepared ["draw"] refusals tree (.ofText "out") sources.files := by
    rintro ⟨staged, prepared⟩
    exact nomatch preparation.symm.trans prepared
  exact ⟨fails, notPrepared, (write_keepsFiles_iff sources ["draw"] refusals tree (.ofText "out")
    full fails).1.mpr notPrepared⟩

/-- A source that cannot be moved to its target, a directory, leaves the new header in
place of the old one. -/
theorem write_overDirectory_losesHeader :
    let sources : Sources := ⟨"H", "H.h", "new", "/../../", "source"⟩
    let tree := (Tree.empty ["work"]).plant ["out", "H.h"] (.file (Text.utf8 "old"))
    let written := sources.write ["draw"] tree (.ofText "out")
    written.outcome = .error ⟨.isDirectory, .ofText "/../.."⟩ ∧
      tree.find? ["work", "out", "H.h"] = some (.file (Text.utf8 "old")) ∧
      written.tree.find? ["work", "out", "H.h"] = some (.file (Text.utf8 "new")) ∧
      ¬ SameFiles tree written.tree := by
  intro sources tree written
  have before : tree.find? ["work", "out", "H.h"] = some (.file (Text.utf8 "old")) := by
    decide +kernel
  have after : written.tree.find? ["work", "out", "H.h"] = some (.file (Text.utf8 "new")) := by
    decide +kernel
  refine ⟨by decide +kernel, before, after, fun same => ?_⟩
  have kept := (same _ _).mpr before
  rw [after] at kept
  revert kept
  decide +kernel

end Generation
end SkillNode
