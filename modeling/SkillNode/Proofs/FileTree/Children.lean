import SkillNode.Proofs.FileTree.Growth

/-!
# Entries of a directory

A plain name leads from a path to an entry of the directory there, and to no other place.
So two plain names in one directory lead to one place only if they are equal.

Where paths lead depends on the directories alone. Files may come and go without moving
the end of any path.
-/

namespace SkillNode
namespace FileTree

/-! ## Plain names -/

/-- A name that is one component of a path and leads into a directory. -/
structure IsPlainName (name : Text) : Prop where
  notEmpty : name ≠ []
  noSlash : '/' ∉ name
  notHere : name ≠ "."
  notUp : name ≠ ".."

/-- A plain name appended to a path names an entry. -/
theorem IsPlainName.append_eq_child
    {name : Text}
    (isPlain : IsPlainName name)
    (directory : Path) :
    directory.append name = directory.child name := by
  have noRoot : Path.rootOf name = [] := by
    unfold Path.rootOf
    split
    · exact absurd List.mem_cons_self isPlain.noSlash
    · exact absurd List.mem_cons_self isPlain.noSlash
    · exact absurd List.mem_cons_self isPlain.noSlash
    · rfl
  have onePart : Path.partsOf name = [name] := by
    have notHere := isPlain.notHere
    simp only [Path.partsOf, Text.segments, Text.splitOn_of_notMem isPlain.noSlash]
    simpa [isPlain.notEmpty] using notHere
  simp [Path.append, Path.ofText, Path.child, noRoot, onePart]

namespace Tree

/-! ## Places of entries -/

/-- A walk goes along some components and from where they lead along the others. -/
theorem walk_append (tree : Tree) (here : Place) (parts more : List Text) :
    tree.walk here (parts ++ more) =
      (tree.walk here parts).bind fun between => tree.walk between more := by
  induction parts generalizing here with
  | nil => rfl
  | cons part rest restHypothesis =>
      rw [List.cons_append, walk, walk]
      cases tree.find? here with
      | none => rfl
      | some entry =>
          cases entry with
          | file content => rfl
          | directory =>
              dsimp only
              split_ifs with tooLong isUp
              · rfl
              · exact restHypothesis _
              · exact restHypothesis _

/-- Where some components and then others lead. -/
theorem walk_append_eq_ok
    {tree : Tree}
    {here place : Place}
    {parts more : List Text}
    (leads : tree.walk here (parts ++ more) = .ok place) :
    ∃ between, tree.walk here parts = .ok between ∧ tree.walk between more = .ok place := by
  rw [walk_append] at leads
  cases first : tree.walk here parts with
  | error fault => rw [first] at leads; cases leads
  | ok between => exact ⟨between, rfl, by rw [first] at leads; exact leads⟩

/-- The directory that a path leads to, if its text were short enough. -/
def around (tree : Tree) (directory : Path) : Except Fault Place :=
  tree.walk (if directory.root.isEmpty then tree.workingDirectory else []) directory.parts

/-- An entry lies in the directory that the path leads to. -/
theorem locate_child_eq_ok
    {tree : Tree}
    {directory : Path}
    {name : Text}
    {place : Place}
    (notUp : name ≠ "..")
    (leads : tree.locate (directory.child name) = .ok place) :
    ∃ between, tree.around directory = .ok between ∧ place = between ++ [name] := by
  unfold locate at leads
  split at leads
  · cases leads
  · obtain ⟨between, reaches, last⟩ := walk_append_eq_ok leads
    refine ⟨between, reaches, ?_⟩
    rw [walk] at last
    cases found : tree.find? between with
    | none => simp [found] at last
    | some entry =>
        cases entry with
        | file content => simp [found] at last
        | directory =>
            simp only [found, if_neg notUp] at last
            split_ifs at last with tooLong
            simpa [walk] using last.symm

/-- Two plain names lead to one place only if they are equal. -/
theorem eq_of_locate_child_eq
    {tree : Tree}
    {directory : Path}
    {name other : Text}
    {place : Place}
    (notUp : name ≠ "..")
    (otherNotUp : other ≠ "..")
    (leads : tree.locate (directory.child name) = .ok place)
    (otherLeads : tree.locate (directory.child other) = .ok place) :
    name = other := by
  obtain ⟨between, reaches, rfl⟩ := locate_child_eq_ok notUp leads
  obtain ⟨otherBetween, otherReaches, same⟩ := locate_child_eq_ok otherNotUp otherLeads
  exact List.singleton_inj.mp (List.append_inj_right' same rfl)

/-! ## Trees with the same directories -/

/-- Two trees have the same directories. -/
structure SameDirectories (earlier later : Tree) : Prop where
  sameWorkingDirectory : later.workingDirectory = earlier.workingDirectory
  same : ∀ place, later.find? place = some .directory ↔ earlier.find? place = some .directory

theorem SameDirectories.refl (tree : Tree) : SameDirectories tree tree := ⟨rfl, fun _ => .rfl⟩

theorem SameDirectories.trans
    {first second third : Tree}
    (firstSame : SameDirectories first second)
    (secondSame : SameDirectories second third) :
    SameDirectories first third where
  sameWorkingDirectory :=
    secondSame.sameWorkingDirectory.trans firstSame.sameWorkingDirectory
  same place := (secondSame.same place).trans (firstSame.same place)

/-- A path leads to the same place in trees with the same directories. -/
theorem SameDirectories.locate_eq_ok_iff
    {earlier later : Tree}
    (sameDirectories : SameDirectories earlier later)
    {path : Path}
    {place : Place} :
    later.locate path = .ok place ↔ earlier.locate path = .ok place :=
  ⟨locate_mono sameDirectories.sameWorkingDirectory.symm
      fun place => (sameDirectories.same place).mp,
    locate_mono sameDirectories.sameWorkingDirectory
      fun place => (sameDirectories.same place).mpr⟩

end Tree

end FileTree
end SkillNode
