import SkillNode.Proofs.FileTree.Children
import SkillNode.Proofs.Generation.FailedWriting
import Mathlib.Data.List.Forall2

/-!
# Writing that succeeds

After all files are staged, each stands complete at a place of its own. Moving a file
changes two places, the one it leaves and its target, and no directory. As staging names
start with a dot and targets do not, no move is in the way of another.

The main statement says that a writing which succeeds leaves the files at their targets,
and everything else as it was but for directories on the way.
-/

namespace SkillNode
namespace Generation

open FileTree (IsPlainName Path Place Tree)
open FileTree.Tree (GrowsTowards SameDirectories)

/-! ## Names -/

/-- A name of one component that does not start with a dot. -/
structure IsVisibleName (name : Text) : Prop where
  notEmpty : name ≠ []
  noSlash : '/' ∉ name
  noDot : name.head? ≠ some '.'

theorem IsVisibleName.isPlain {name : Text} (isVisible : IsVisibleName name) :
    IsPlainName name where
  notEmpty := isVisible.notEmpty
  noSlash := isVisible.noSlash
  notHere := fun isDot => isVisible.noDot (by rw [isDot]; rfl)
  notUp := fun isDots => isVisible.noDot (by rw [isDots]; rfl)

theorem stagingName_eq (name draw : Text) :
    stagingName name draw = '.' :: (name ++ '.' :: draw) := by
  simp [stagingName]

/-- A staging name names an entry as well. -/
theorem isPlain_stagingName
    {name draw : Text}
    (isVisible : IsVisibleName name)
    (noSlash : '/' ∉ draw) :
    IsPlainName (stagingName name draw) := by
  obtain ⟨c, rest, rfl⟩ := List.exists_cons_of_ne_nil isVisible.notEmpty
  have nameFree := isVisible.noSlash
  refine ⟨?_, ?_, ?_, ?_⟩ <;> rw [stagingName_eq]
  · simp
  · simpa [noSlash] using nameFree
  · simp
  · simp

/-- No file is called like a staged one. -/
theorem ne_stagingName
    {name : Text}
    (isVisible : IsVisibleName name)
    (other draw : Text) :
    name ≠ stagingName other draw := by
  intro same
  exact isVisible.noDot (by rw [same, stagingName_eq]; rfl)

/-! ## Staging -/

/-- A file is staged for a directory: its text stands at a place that one of its staging
names leads to. -/
structure IsStaged (tree : Tree) (directory : Path) (draws : List Text) (staged : Staged)
    (file : Text × Text) : Prop where
  target : staged.target = directory.append file.1
  place : ∃ draw ∈ draws,
    tree.locate (directory.append (stagingName file.1 draw)) = .ok staged.place
  content : tree.find? staged.place = some (.file (Text.utf8 file.2))

theorem locate_of_createFile
    {tree made : Tree}
    {path : Path}
    {content : Bytes}
    {place : Place}
    (succeeds : tree.createFile path content = .ok (made, place)) :
    tree.locate path = .ok place := by
  unfold Tree.createFile at succeeds
  split at succeeds
  · cases succeeds
  · next leads =>
      split at succeeds
      · cases succeeds
      · cases succeeds
        exact leads

/-- A file is staged under one of its staging names for its target. -/
theorem staged_of_stage
    {tree made : Tree}
    {directory : Path}
    {name : Text}
    {draws : List Text}
    {new : Staged}
    (succeeds : stage tree directory name draws = .ok (made, new)) :
    new.target = directory.append name ∧
      ∃ draw ∈ draws, tree.locate (directory.append (stagingName name draw)) = .ok new.place := by
  induction draws with
  | nil => cases succeeds
  | cons draw rest restHypothesis =>
      unfold stage at succeeds
      split at succeeds
      · next created =>
          cases succeeds
          exact ⟨rfl, draw, List.mem_cons_self, locate_of_createFile created⟩
      · obtain ⟨target, other, isDraw, leads⟩ := restHypothesis succeeds
        exact ⟨target, other, List.mem_cons_of_mem _ isDraw, leads⟩
      · cases succeeds

/-- A staged file stays staged where nothing is taken away. -/
theorem IsStaged.mono
    {earlier later : Tree}
    {directory : Path}
    {draws : List Text}
    {staged : Staged}
    {file : Text × Text}
    (isStaged : IsStaged earlier directory draws staged file)
    (sameWorkingDirectory : later.workingDirectory = earlier.workingDirectory)
    (keeps : ∀ place entry, earlier.find? place = some entry → later.find? place = some entry) :
    IsStaged later directory draws staged file := by
  obtain ⟨draw, isDraw, leads⟩ := isStaged.place
  have leadsStill := Tree.locate_mono sameWorkingDirectory (fun place => keeps place _) leads
  exact ⟨isStaged.target, ⟨draw, isDraw, leadsStill⟩, keeps _ _ isStaged.content⟩

/-- Where no file is refused, all are staged in order after those that were. -/
theorem areStaged_stageAll
    {draws : List Text}
    {directory : Path}
    {files done : List (Text × Text)}
    {now after : Tree}
    {staged all : List Staged}
    (areStaged : List.Forall₂ (IsStaged now directory draws) staged done)
    (succeeds : stageAll draws .none now directory staged files = (after, all, none)) :
    List.Forall₂ (IsStaged after directory draws) all (done ++ files) := by
  induction files generalizing now staged done with
  | nil =>
      cases succeeds
      simpa using areStaged
  | cons file rest restHypothesis =>
      unfold stageAll at succeeds
      split at succeeds
      · cases succeeds
      · next made new staging =>
          obtain ⟨isFree, rfl⟩ := stage_eq_ok staging
          obtain ⟨target, draw, isDraw, leads⟩ := staged_of_stage staging
          have notRoot := Tree.ne_nil_of_find?_eq_none isFree
          -- An empty file is made first, and then the text is written into it.
          let next := (now.put new.place (.file [])).put new.place (.file (Text.utf8 file.2))
          have nextHolds : ∀ place, next.find? place =
              if new.place = place then some (.file (Text.utf8 file.2)) else now.find? place := by
            intro place
            rw [Tree.find?_put _ notRoot, Tree.find?_put _ notRoot]
            split_ifs <;> rfl
          have keeps : ∀ place entry, now.find? place = some entry →
              next.find? place = some entry := by
            intro place entry isFound
            have differs : new.place ≠ place := by
              rintro rfl
              simp [isFree] at isFound
            rw [nextHolds, if_neg differs, isFound]
          have sameWorkingDirectory : next.workingDirectory = now.workingDirectory := rfl
          have leadsStill :=
            Tree.locate_mono sameWorkingDirectory (fun place => keeps place _) leads
          have newStaged : IsStaged next directory draws new file :=
            ⟨target, ⟨draw, isDraw, leadsStill⟩, by rw [nextHolds, if_pos rfl]⟩
          have nextStaged := List.rel_append
            (areStaged.imp fun _ _ isStaged => isStaged.mono rfl keeps) (.cons newStaged .nil)
          simpa using restHypothesis nextStaged succeeds

/-- After a preparation every file is staged. -/
theorem areStaged_prepare
    {draws : List Text}
    {tree : Tree}
    {directory : Path}
    {files : List (Text × Text)}
    {staged : List Staged}
    (succeeds : (prepare draws .none tree directory files).outcome = .ok staged) :
    List.Forall₂ (IsStaged (prepare draws .none tree directory files).tree directory draws)
      staged files := by
  unfold prepare at succeeds ⊢
  split
  · next making => simp [making] at succeeds
  · next made making =>
      split
      · next stagingFails => simp [making, stagingFails] at succeeds
      · next staging all stagingSucceeds =>
          simp only [making, stagingSucceeds, Except.ok.injEq] at succeeds
          subst succeeds
          exact areStaged_stageAll .nil stagingSucceeds

/-! ## Moving -/

/-- A move takes a file from where it stands to where its target leads. -/
theorem moveFile_eq_ok
    {tree moved : Tree}
    {source : Place}
    {target : Path}
    (succeeds : tree.moveFile source target = .ok moved) :
    ∃ place content, tree.locate target = .ok place ∧
      tree.find? source = some (.file content) ∧ tree.find? place ≠ some .directory ∧
        moved = (tree.erase source).put place (.file content) := by
  unfold Tree.moveFile at succeeds
  split at succeeds
  · cases succeeds
  · next place leads =>
      split at succeeds
      · cases succeeds
      · cases succeeds
      · cases succeeds
      · next content sourceHolds noDirectory =>
          cases succeeds
          exact ⟨place, content, leads, sourceHolds, noDirectory, rfl⟩

/-- What places hold after a move: the target the file, the place it left nothing, and
others what they held. -/
theorem find?_moved
    {tree : Tree}
    {source place : Place}
    {content : Bytes}
    (isFile : tree.find? source = some (.file content))
    (noDirectory : tree.find? place ≠ some .directory)
    (other : Place) :
    ((tree.erase source).put place (.file content)).find? other =
      if place = other then some (.file content)
      else if source = other then none else tree.find? other := by
  have sourceNotRoot : source ≠ [] := by
    rintro rfl
    simp [Tree.find?] at isFile
  have placeNotRoot : place ≠ [] := by
    rintro rfl
    simp [Tree.find?] at noDirectory
  rw [Tree.find?_put _ placeNotRoot, Tree.find?_erase _ sourceNotRoot]

theorem sameDirectories_moved
    {tree : Tree}
    {source place : Place}
    {content : Bytes}
    (isFile : tree.find? source = some (.file content))
    (noDirectory : tree.find? place ≠ some .directory) :
    SameDirectories tree ((tree.erase source).put place (.file content)) where
  sameWorkingDirectory := rfl
  same other := by
    rw [find?_moved isFile noDirectory]
    split_ifs with atTarget atSource
    · simp [← atTarget, noDirectory]
    · simp [← atSource, isFile]
    · rfl

/-- Staged files of which no move is in the way of another: no two stand at one place, no
target is the place of a staged file, and no two targets are one place. -/
structure AreApart (tree : Tree) (staged : List Staged) : Prop where
  distinct : (staged.map Staged.place).Nodup
  notStaged : ∀ file ∈ staged, ∀ other ∈ staged, tree.locate file.target ≠ .ok other.place
  targets : staged.Pairwise fun file other => ∀ place,
    tree.locate file.target = .ok place → tree.locate other.target ≠ .ok place

/-- Files that are apart are apart in a tree with the same directories. -/
theorem AreApart.tail
    {tree next : Tree}
    {file : Staged}
    {rest : List Staged}
    (areApart : AreApart tree (file :: rest))
    (sameDirectories : SameDirectories tree next) :
    AreApart next rest where
  distinct := (List.nodup_cons.mp areApart.distinct).2
  notStaged := fun other member another anotherMember leads =>
    areApart.notStaged other (List.mem_cons_of_mem _ member) another
      (List.mem_cons_of_mem _ anotherMember) (sameDirectories.locate_eq_ok_iff.mp leads)
  targets := (List.pairwise_cons.mp areApart.targets).2.imp fun differ place leads otherLeads =>
    differ place (sameDirectories.locate_eq_ok_iff.mp leads)
      (sameDirectories.locate_eq_ok_iff.mp otherLeads)

/-- What a tree is after staged files were moved. -/
structure HoldsMoved (before after : Tree) (staged : List Staged) : Prop where
  sameDirectories : SameDirectories before after
  atTargets : ∀ file ∈ staged, ∃ place, after.locate file.target = .ok place ∧
    after.find? place = before.find? file.place
  vacated : ∀ file ∈ staged, after.find? file.place = none
  elsewhere : ∀ place, (∀ file ∈ staged, file.place ≠ place) →
    (∀ file ∈ staged, after.locate file.target ≠ .ok place) →
      after.find? place = before.find? place

/-- A move before others that pass over what it changed. -/
theorem HoldsMoved.cons
    {tree moved : Tree}
    {file : Staged}
    {rest : List Staged}
    {target : Place}
    {content : Bytes}
    (areApart : AreApart tree (file :: rest))
    (leads : tree.locate file.target = .ok target)
    (isFile : tree.find? file.place = some (.file content))
    (noDirectory : tree.find? target ≠ some .directory)
    (restMoved : HoldsMoved ((tree.erase file.place).put target (.file content)) moved rest) :
    HoldsMoved tree moved (file :: rest) := by
  have holds := find?_moved isFile noDirectory
  have allSame := (sameDirectories_moved isFile noDirectory).trans restMoved.sameDirectories
  have firstNew := (List.nodup_cons.mp areApart.distinct).1
  have notFirst : ∀ other ∈ rest, other.place ≠ file.place := fun other member same =>
    firstNew (same ▸ List.mem_map_of_mem member)
  have notTarget : ∀ other ∈ file :: rest, other.place ≠ target := by
    rintro other member rfl
    exact areApart.notStaged file List.mem_cons_self other member leads
  -- The later moves pass over the target of the first and the place it left.
  have targetStays : moved.find? target = some (.file content) := by
    have stays := restMoved.elsewhere target
      (fun other member => notTarget other (List.mem_cons_of_mem _ member))
      fun other member otherLeads => (List.pairwise_cons.mp areApart.targets).1 other member
        target leads (allSame.locate_eq_ok_iff.mp otherLeads)
    rw [stays, holds, if_pos rfl]
  have sourceStays : moved.find? file.place = none := by
    have stays := restMoved.elsewhere file.place notFirst
      fun other member otherLeads => areApart.notStaged other
        (List.mem_cons_of_mem _ member) file List.mem_cons_self
        (allSame.locate_eq_ok_iff.mp otherLeads)
    rw [stays, holds, if_neg (notTarget file List.mem_cons_self).symm, if_pos rfl]
  refine ⟨allSame, ?atTargets, ?vacated, ?elsewhere⟩
  case atTargets =>
    rw [List.forall_mem_cons]
    refine ⟨⟨target, allSame.locate_eq_ok_iff.mpr leads, targetStays.trans isFile.symm⟩, ?_⟩
    intro other member
    obtain ⟨place, otherLeads, same⟩ := restMoved.atTargets other member
    refine ⟨place, otherLeads, same.trans ?_⟩
    rw [holds, if_neg (notTarget other (List.mem_cons_of_mem _ member)).symm,
      if_neg (notFirst other member).symm]
  case vacated => exact List.forall_mem_cons.mpr ⟨sourceStays, restMoved.vacated⟩
  case elsewhere =>
    intro place notPlace notLed
    rw [List.forall_mem_cons] at notPlace notLed
    have differs : target ≠ place := fun same =>
      notLed.1 (allSame.locate_eq_ok_iff.mpr (same ▸ leads))
    rw [restMoved.elsewhere place notPlace.2 notLed.2, holds, if_neg differs,
      if_neg notPlace.1]

/-- Moves that all succeed bring every staged file to its target. -/
theorem holdsMoved_moveAll
    {tree moved : Tree}
    {staged : List Staged}
    (succeeds : moveAll tree staged = (moved, none))
    (areApart : AreApart tree staged) :
    HoldsMoved tree moved staged := by
  induction staged generalizing tree with
  | nil =>
      cases succeeds
      exact ⟨.refl _, by simp, by simp, fun _ _ _ => rfl⟩
  | cons file rest restHypothesis =>
      unfold moveAll at succeeds
      split at succeeds
      · next next move =>
          obtain ⟨target, content, leads, isFile, noDirectory, rfl⟩ := moveFile_eq_ok move
          have sameDirectories := sameDirectories_moved isFile noDirectory
          have restMoved := restHypothesis succeeds (areApart.tail sameDirectories)
          exact restMoved.cons areApart leads isFile noDirectory
      · cases succeeds

/-! ## Writing -/

/-- A writing that succeeds prepares the files and moves all of them. -/
theorem writeAll_eq_ok
    {draws : List Text}
    {refusals : Refusals}
    {tree : Tree}
    {directory : Path}
    {files : List (Text × Text)}
    {paths : List Path}
    (succeeds : (writeAll draws tree directory files refusals).outcome = .ok paths) :
    ∃ staged, (prepare draws refusals tree directory files).outcome = .ok staged ∧
      moveAll (prepare draws refusals tree directory files).tree staged =
          ((writeAll draws tree directory files refusals).tree, none) ∧
        paths = staged.map Staged.target := by
  unfold writeAll at succeeds ⊢
  generalize prepare draws refusals tree directory files = preparation at succeeds ⊢
  obtain ⟨prepared, outcome⟩ := preparation
  cases outcome with
  | error error => cases succeeds
  | ok staged =>
      refine ⟨staged, rfl, ?_⟩
      rcases moves : moveAll prepared staged with ⟨moved, none | moveError⟩
      · simpa [moves, eq_comm] using succeeds
      · simp [moves] at succeeds

/-- Every member of a list has its counterpart in a list related to it. -/
theorem exists_of_forall₂_left
    {Left Right : Type}
    {related : Left → Right → Prop}
    {lefts : List Left}
    {rights : List Right}
    (areRelated : List.Forall₂ related lefts rights) :
    ∀ left ∈ lefts, ∃ right ∈ rights, related left right := by
  induction areRelated with
  | nil => simp
  | cons isRelated _ restHypothesis =>
      rw [List.forall_mem_cons]
      refine ⟨⟨_, List.mem_cons_self, isRelated⟩, fun left member => ?_⟩
      obtain ⟨right, rightMember, related⟩ := restHypothesis left member
      exact ⟨right, List.mem_cons_of_mem _ rightMember, related⟩

theorem targets_of_areStaged
    {tree : Tree}
    {directory : Path}
    {draws : List Text}
    {staged : List Staged}
    {files : List (Text × Text)}
    (areStaged : List.Forall₂ (IsStaged tree directory draws) staged files) :
    staged.map Staged.target = files.map (directory.append ·.1) := by
  induction areStaged with
  | nil => rfl
  | cons isStaged _ restHypothesis =>
      rw [List.map_cons, List.map_cons, isStaged.target, restHypothesis]

/-- Different visible names are of different paths. -/
theorem nodup_targets
    {files : List (Text × Text)}
    (directory : Path)
    (areVisible : ∀ file ∈ files, IsVisibleName file.1)
    (distinctNames : (files.map Prod.fst).Nodup) :
    (files.map (directory.append ·.1)).Nodup := by
  have namesVisible : ∀ name ∈ files.map Prod.fst, IsVisibleName name := by
    simpa using areVisible
  rw [← Function.comp_def directory.append, ← List.map_map]
  refine distinctNames.map_on fun name member other otherMember same => ?_
  rw [(namesVisible name member).isPlain.append_eq_child,
    (namesVisible other otherMember).isPlain.append_eq_child] at same
  exact List.singleton_inj.mp (List.append_cancel_left (congrArg Path.parts same))

/-- Files with different visible names are staged apart. -/
theorem areApart_of_areStaged
    {draws : List Text}
    {tree : Tree}
    {directory : Path}
    {files : List (Text × Text)}
    {staged : List Staged}
    (distinctPlaces : (staged.map Staged.place).Nodup)
    (areStaged : List.Forall₂ (IsStaged tree directory draws) staged files)
    (areVisible : ∀ file ∈ files, IsVisibleName file.1)
    (distinctNames : (files.map Prod.fst).Nodup)
    (noSlash : ∀ draw ∈ draws, '/' ∉ draw) :
    AreApart tree staged := by
  have areNamed := exists_of_forall₂_left areStaged
  have distinctTargets : (staged.map Staged.target).Nodup := by
    rw [targets_of_areStaged areStaged]
    exact nodup_targets directory areVisible distinctNames
  refine ⟨distinctPlaces, fun file member other otherMember leads => ?_, ?_⟩
  · obtain ⟨named, namedMember, isStaged⟩ := areNamed file member
    obtain ⟨otherNamed, otherNamedMember, otherStaged⟩ := areNamed other otherMember
    obtain ⟨draw, isDraw, otherLeads⟩ := otherStaged.place
    have isVisible := areVisible named namedMember
    have stagingPlain :=
      isPlain_stagingName (areVisible otherNamed otherNamedMember) (noSlash draw isDraw)
    rw [isStaged.target, isVisible.isPlain.append_eq_child] at leads
    rw [stagingPlain.append_eq_child] at otherLeads
    exact ne_stagingName isVisible _ _ (Tree.eq_of_locate_child_eq isVisible.isPlain.notUp
      stagingPlain.notUp leads otherLeads)
  · refine (List.pairwise_map.mp distinctTargets).imp_of_mem
      fun {file other} member otherMember differ place leads otherLeads => differ ?_
    obtain ⟨named, namedMember, isStaged⟩ := areNamed file member
    obtain ⟨otherNamed, otherNamedMember, otherStaged⟩ := areNamed other otherMember
    have isPlain := (areVisible _ namedMember).isPlain
    have otherPlain := (areVisible _ otherNamedMember).isPlain
    rw [isStaged.target, isPlain.append_eq_child] at leads
    rw [otherStaged.target, otherPlain.append_eq_child] at otherLeads
    rw [isStaged.target, otherStaged.target,
      Tree.eq_of_locate_child_eq isPlain.notUp otherPlain.notUp leads otherLeads]

/-- What a tree is after files were written in a directory: it holds them, and elsewhere
what it held but for new directories on the way. -/
structure HoldsWritten (directory : Path) (files : List (Text × Text)) (before after : Tree) :
    Prop where
  sameWorkingDirectory : after.workingDirectory = before.workingDirectory
  written : ∀ file ∈ files, ∃ place, after.locate (directory.append file.1) = .ok place ∧
    after.find? place = some (.file (Text.utf8 file.2))
  elsewhere : ∀ place, (∀ file ∈ files, after.locate (directory.append file.1) ≠ .ok place) →
    after.find? place = before.find? place ∨
      before.find? place = none ∧ after.find? place = some .directory ∧
        ∃ way, way <+: directory.parts ∧
          after.locate { directory with parts := way } = .ok place

/-- Files with different visible names that are written without an error stand in their
directory, and nothing else has changed but for directories on the way to it. -/
theorem holdsWritten_writeAll
    {draws : List Text}
    {tree : Tree}
    {directory : Path}
    {files : List (Text × Text)}
    {paths : List Path}
    (areVisible : ∀ file ∈ files, IsVisibleName file.1)
    (distinctNames : (files.map Prod.fst).Nodup)
    (noSlash : ∀ draw ∈ draws, '/' ∉ draw)
    (succeeds : (writeAll draws tree directory files).outcome = .ok paths) :
    HoldsWritten directory files tree (writeAll draws tree directory files).tree ∧
      paths = files.map (directory.append ·.1) := by
  obtain ⟨staged, prepared, moves, rfl⟩ := writeAll_eq_ok succeeds
  obtain ⟨made, grows, holds⟩ := holdsStaged_prepare prepared
  have areStaged := areStaged_prepare prepared
  have areApart := areApart_of_areStaged holds.distinct areStaged areVisible distinctNames noSlash
  have moved := holdsMoved_moveAll moves areApart
  have fromMade : (writeAll draws tree directory files).tree.workingDirectory =
      made.workingDirectory :=
    moved.sameDirectories.sameWorkingDirectory.trans holds.sameWorkingDirectory
  refine ⟨⟨fromMade.trans grows.sameWorkingDirectory, fun file member => ?_,
    fun place notWritten => ?_⟩, targets_of_areStaged areStaged⟩
  · obtain ⟨new, isNew, isStaged⟩ := exists_of_forall₂_left areStaged.flip file member
    obtain ⟨place, leads, same⟩ := moved.atTargets new isNew
    exact ⟨place, isStaged.target ▸ leads, same.trans isStaged.content⟩
  · have same : (writeAll draws tree directory files).tree.find? place = made.find? place := by
      by_cases wasStaged : ∃ new ∈ staged, new.place = place
      · obtain ⟨new, isNew, rfl⟩ := wasStaged
        rw [moved.vacated new isNew, holds.wasFree new isNew]
      · have notStaged : ∀ new ∈ staged, new.place ≠ place :=
          fun new isNew isPlace => wasStaged ⟨new, isNew, isPlace⟩
        rw [moved.elsewhere place notStaged, holds.elsewhere place notStaged]
        intro new isNew
        obtain ⟨file, member, isStaged⟩ := exists_of_forall₂_left areStaged new isNew
        rw [isStaged.target]
        exact notWritten file member
    rw [same]
    by_cases unchanged : made.find? place = tree.find? place
    · exact .inl unchanged
    · obtain ⟨isFree, isDirectory, way, isPrefix, leads⟩ := grows.added place unchanged
      have keepsDirectories : ∀ other, made.find? other = some .directory →
          (writeAll draws tree directory files).tree.find? other = some .directory := by
        intro other isDirectory
        refine (moved.sameDirectories.same other).mpr ?_
        rw [holds.elsewhere other, isDirectory]
        rintro new isNew rfl
        simp [holds.wasFree new isNew] at isDirectory
      exact .inr ⟨isFree, isDirectory, way, isPrefix,
        Tree.locate_mono fromMade keepsDirectories leads⟩

end Generation
end SkillNode
