import SkillNode.FileTree.Tree
import Mathlib.Tactic.ByContra
import Mathlib.Tactic.SplitIfs

/-!
# Trees that grow towards a path

Making a directory with all that are missing around it adds directories and
nothing else, whether it succeeds or stops half way. Every directory that it adds
lies on the way to the path.

The proofs rest on one fact about walking: a walk that leads somewhere leads
there still after directories were added.
-/

namespace SkillNode
namespace FileTree

namespace Tree

/-- Two trees have the same files with the same contents. -/
def SameFiles (earlier later : Tree) : Prop :=
  ∀ place content,
    later.find? place = some (.file content) ↔ earlier.find? place = some (.file content)

/-- A later tree has everything that an earlier one has. What it has besides are
directories on the way to a path. -/
structure GrowsTowards (path : Path) (earlier later : Tree) : Prop where
  sameWorkingDirectory : later.workingDirectory = earlier.workingDirectory
  added : ∀ place, later.find? place ≠ earlier.find? place →
    earlier.find? place = none ∧ later.find? place = some .directory ∧
      ∃ way, way <+: path.parts ∧ later.locate { path with parts := way } = .ok place

/-! ## Walking after a change -/

/-- A walk meets the same directories after more were added. -/
theorem walk_mono
    {earlier later : Tree}
    (keepsDirectories : ∀ place,
      earlier.find? place = some .directory → later.find? place = some .directory)
    {here place : Place}
    {parts : List Text}
    (leads : earlier.walk here parts = .ok place) :
    later.walk here parts = .ok place := by
  induction parts generalizing here with
  | nil => simpa [walk] using leads
  | cons part rest restHypothesis =>
      unfold walk at leads ⊢
      cases found : earlier.find? here with
      | none => simp [found] at leads
      | some entry =>
          cases entry with
          | file content => simp [found] at leads
          | directory =>
              simp only [found] at leads
              simp only [keepsDirectories here found]
              split_ifs at leads ⊢ with tooLong isUp
              · exact restHypothesis leads
              · exact restHypothesis leads

theorem locate_mono
    {earlier later : Tree}
    (sameWorkingDirectory : later.workingDirectory = earlier.workingDirectory)
    (keepsDirectories : ∀ place,
      earlier.find? place = some .directory → later.find? place = some .directory)
    {path : Path}
    {place : Place}
    (leads : earlier.locate path = .ok place) :
    later.locate path = .ok place := by
  unfold locate at leads ⊢
  split_ifs at leads ⊢ with tooLong isRelative
  · rw [sameWorkingDirectory]
    exact walk_mono keepsDirectories leads
  · exact walk_mono keepsDirectories leads

/-! ## Growth -/

/-- The root always holds a directory, so nothing is put where nothing stands but
elsewhere. -/
theorem ne_nil_of_find?_eq_none
    {tree : Tree}
    {place : Place}
    (isFree : tree.find? place = none) :
    place ≠ [] := by
  rintro rfl
  simp [find?] at isFree

theorem GrowsTowards.refl (path : Path) (tree : Tree) : GrowsTowards path tree tree where
  sameWorkingDirectory := rfl
  added _ differs := absurd rfl differs

theorem GrowsTowards.keepsDirectories
    {path : Path}
    {earlier later : Tree}
    (grows : GrowsTowards path earlier later)
    {place : Place}
    (isDirectory : earlier.find? place = some .directory) :
    later.find? place = some .directory := by
  by_contra differs
  obtain ⟨isFree, _⟩ := grows.added place (by rw [isDirectory]; exact differs)
  simp [isDirectory] at isFree

/-- What is free after growth was free before. -/
theorem GrowsTowards.isFree
    {path : Path}
    {earlier later : Tree}
    (grows : GrowsTowards path earlier later)
    {place : Place}
    (isFree : later.find? place = none) :
    earlier.find? place = none := by
  by_contra taken
  obtain ⟨freeBefore, _⟩ := grows.added place (by rw [isFree]; exact Ne.symm taken)
  exact taken freeBefore

theorem GrowsTowards.sameFiles
    {path : Path}
    {earlier later : Tree}
    (grows : GrowsTowards path earlier later) :
    SameFiles earlier later := by
  intro place content
  by_cases same : later.find? place = earlier.find? place
  · rw [same]
  · obtain ⟨isFree, isDirectory, _⟩ := grows.added place same
    simp [isFree, isDirectory]

/-- Growth towards a path on the way to another is growth towards the other. -/
theorem GrowsTowards.widen
    {root : Text}
    {way parts : List Text}
    {earlier later : Tree}
    (grows : GrowsTowards ⟨root, way⟩ earlier later)
    (onWay : way <+: parts) :
    GrowsTowards ⟨root, parts⟩ earlier later where
  sameWorkingDirectory := grows.sameWorkingDirectory
  added := by
    intro place differs
    obtain ⟨isFree, isDirectory, shorter, isPrefix, leads⟩ := grows.added place differs
    exact ⟨isFree, isDirectory, shorter, isPrefix.trans onWay, leads⟩

theorem GrowsTowards.trans
    {path : Path}
    {first second third : Tree}
    (firstGrows : GrowsTowards path first second)
    (secondGrows : GrowsTowards path second third) :
    GrowsTowards path first third where
  sameWorkingDirectory :=
    secondGrows.sameWorkingDirectory.trans firstGrows.sameWorkingDirectory
  added := by
    intro place differs
    by_cases sameSecond : second.find? place = first.find? place
    · obtain ⟨isFree, isDirectory, leads⟩ :=
        secondGrows.added place (by rw [sameSecond]; exact differs)
      exact ⟨sameSecond ▸ isFree, isDirectory, leads⟩
    · obtain ⟨isFree, isDirectory, way, isPrefix, leads⟩ := firstGrows.added place sameSecond
      have leadsStill := locate_mono secondGrows.sameWorkingDirectory
        (fun _ => secondGrows.keepsDirectories) leads
      exact ⟨isFree, secondGrows.keepsDirectories isDirectory, way, isPrefix, leadsStill⟩

/-- Trees that hold the same everywhere grow alike. -/
theorem GrowsTowards.congr
    {path : Path}
    {earlier later other : Tree}
    (grows : GrowsTowards path earlier later)
    (sameWorkingDirectory : other.workingDirectory = later.workingDirectory)
    (same : ∀ place, other.find? place = later.find? place) :
    GrowsTowards path earlier other where
  sameWorkingDirectory := sameWorkingDirectory.trans grows.sameWorkingDirectory
  added := by
    intro place differs
    rw [same] at differs ⊢
    obtain ⟨isFree, isDirectory, way, isPrefix, leads⟩ := grows.added place differs
    have leadsStill := locate_mono sameWorkingDirectory
      (fun place isDirectory => (same place).trans isDirectory) leads
    exact ⟨isFree, isDirectory, way, isPrefix, leadsStill⟩

/-! ## Making directories -/

/-- Making a directory puts one at a free place that the path leads to. -/
theorem makeDirectory_eq_ok
    {tree made : Tree}
    {path : Path}
    (succeeds : tree.makeDirectory path = .ok made) :
    ∃ place, tree.locate path = .ok place ∧ tree.find? place = none ∧
      made = tree.put place .directory := by
  unfold makeDirectory at succeeds
  split at succeeds
  · cases succeeds
  · next place leads =>
      split at succeeds
      · cases succeeds
      · next isFree => exact ⟨place, leads, isFree, (Except.ok.inj succeeds).symm⟩

theorem growsTowards_makeDirectory
    {tree made : Tree}
    {path : Path}
    (succeeds : tree.makeDirectory path = .ok made) :
    GrowsTowards path tree made := by
  obtain ⟨place, leads, isFree, rfl⟩ := makeDirectory_eq_ok succeeds
  have holds := find?_put tree (ne_nil_of_find?_eq_none isFree) .directory
  have leadsStill : (tree.put place .directory).locate path = .ok place := by
    have sameWorkingDirectory :
        (tree.put place .directory).workingDirectory = tree.workingDirectory := rfl
    refine locate_mono sameWorkingDirectory (fun other isDirectory => ?_) leads
    rw [holds]
    split_ifs
    · rfl
    · exact isDirectory
  refine ⟨rfl, fun other differs => ?_⟩
  by_cases same : place = other
  · subst same
    exact ⟨isFree, by simp [holds], path.parts, List.prefix_rfl, leadsStill⟩
  · simp [holds, same] at differs

theorem growsTowards_ensureDirectory (tree : Tree) (path : Path) :
    GrowsTowards path tree (tree.ensureDirectory path).1 := by
  unfold ensureDirectory
  split
  · next made succeeds => exact growsTowards_makeDirectory succeeds
  · split <;> exact GrowsTowards.refl path tree

/-- Directories are made from the outside in, each on the way to the next. -/
theorem growsTowards_makeAllFor (tree : Tree) (root : Text) (reversed : List Text) :
    GrowsTowards ⟨root, reversed.reverse⟩ tree (tree.makeAllFor root reversed).1 := by
  induction reversed with
  | nil => exact growsTowards_ensureDirectory tree ⟨root, []⟩
  | cons last earlier earlierHypothesis =>
      have onWay : earlier.reverse <+: (last :: earlier).reverse := by simp
      dsimp only [makeAllFor]
      split
      · split
        · next made outcome =>
            rw [outcome] at earlierHypothesis
            exact (earlierHypothesis.widen onWay).trans (growsTowards_ensureDirectory made _)
        · next made error outcome =>
            rw [outcome] at earlierHypothesis
            exact earlierHypothesis.widen onWay
      · exact growsTowards_ensureDirectory tree _

/-- Making a directory with all that are missing around it adds directories on the
way to it only, also if it fails. -/
theorem growsTowards_makeAll (tree : Tree) (path : Path) :
    GrowsTowards path tree (tree.makeAll path).1 := by
  unfold makeAll
  split
  · exact .refl path tree
  · have grows := growsTowards_makeAllFor tree path.root path.parts.reverse
    rwa [List.reverse_reverse] at grows

end Tree

end FileTree
end SkillNode
