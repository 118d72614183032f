import SkillNode.FileTree.Tree
import SkillNode.Generation.Sources

/-!
# Writing generated files

Both files are first written under other names beside their targets and then moved
there, so that an old file is replaced only when both new ones are complete. The
other names end in draws, of which the first that is free is taken.

The disk may refuse the content of a file, say for want of room. Which files it
refuses is given from outside, by their indices.
-/

namespace SkillNode
namespace Generation

open FileTree (Path Place Tree)

/-- A file that is written under another name. -/
structure Staged where
  place : Place
  target : Path
  deriving DecidableEq, Repr

/-- The tree after a step, and what the step gives or why it fails. -/
structure Stepped (α : Type) where
  tree : Tree
  outcome : Except FileTree.Error α

/-- The tree after writing, and the paths written or why they are not. -/
abbrev Written := Stepped (List Path)

/-- What the disk answers instead of taking the content of the file with an index. -/
abbrev Refusals := Nat → Option FileTree.Error

/-- A disk that takes every content. -/
def Refusals.none : Refusals := fun _ => .none

/-- The name under which a file is written before it is moved. -/
def stagingName (name draw : Text) : Text := "." ++ name ++ "." ++ draw

/-- Make an empty file in a directory under the first name that is free. -/
def stage (tree : Tree) (directory : Path) (name : Text) :
    List Text → Except FileTree.Error (Tree × Staged)
  | [] => .error ⟨.alreadyThere, directory.append name⟩
  | draw :: rest =>
      match tree.createFile (directory.append (stagingName name draw)) [] with
      | .ok (made, place) => .ok (made, ⟨place, directory.append name⟩)
      | .error ⟨.alreadyThere, _⟩ => stage tree directory name rest
      | .error error => .error error

/-- Write files in a directory under other names, after some that were written so
already. -/
def stageAll (draws : List Text) (refusals : Refusals) (tree : Tree) (directory : Path)
    (staged : List Staged) : List (Text × Text) → Tree × List Staged × Option FileTree.Error
  | [] => (tree, staged, none)
  | (name, text) :: rest =>
      match stage tree directory name draws with
      | .error error => (tree, staged, some error)
      | .ok (made, new) =>
          match refusals staged.length with
          | some error => (made, staged ++ [new], some error)
          | none =>
              stageAll draws refusals (made.put new.place (.file (Text.utf8 text))) directory
                (staged ++ [new]) rest

/-- Erase files that were written under other names. -/
def unstage (tree : Tree) (staged : List Staged) : Tree :=
  staged.foldl (fun tree file => tree.erase file.place) tree

/-- Write files under other names in a directory, which is made if it is missing. If
one of them cannot be written, none is left. -/
def prepare (draws : List Text) (refusals : Refusals) (tree : Tree) (directory : Path)
    (files : List (Text × Text)) : Stepped (List Staged) :=
  match tree.makeAll directory with
  | (made, some error) => ⟨made, .error error⟩
  | (made, none) =>
      match stageAll draws refusals made directory [] files with
      | (staging, staged, some error) => ⟨unstage staging staged, .error error⟩
      | (staging, staged, none) => ⟨staging, .ok staged⟩

/-- Move files to their targets in order. -/
def moveAll (tree : Tree) : List Staged → Tree × Option FileTree.Error
  | [] => (tree, none)
  | file :: rest =>
      match tree.moveFile file.place file.target with
      | .ok moved => moveAll moved rest
      | .error error => (tree, some error)

/-- Write files in a directory, which is made if it is missing. -/
def writeAll (draws : List Text) (tree : Tree) (directory : Path) (files : List (Text × Text))
    (refusals : Refusals := .none) : Written :=
  match prepare draws refusals tree directory files with
  | ⟨prepared, .error error⟩ => ⟨prepared, .error error⟩
  | ⟨prepared, .ok staged⟩ =>
      match moveAll prepared staged with
      | (moved, some error) => ⟨moved, .error error⟩
      | (moved, none) => ⟨moved, .ok (staged.map Staged.target)⟩

/-- The files of generated sources: names and texts, the header first. -/
def Sources.files (sources : Sources) : List (Text × Text) :=
  [(sources.headerName, sources.header), (sources.sourceName, sources.source)]

/-- Write generated sources in a directory. -/
def Sources.write (sources : Sources) (draws : List Text) (tree : Tree) (directory : Path)
    (refusals : Refusals := .none) : Written :=
  writeAll draws tree directory sources.files refusals

end Generation
end SkillNode
