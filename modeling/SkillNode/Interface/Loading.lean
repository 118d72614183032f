import SkillNode.Failure
import SkillNode.Interface.Catalog
import SkillNode.Text.Line

/-!
# Interface files

A catalog is loaded from files and directories. Of a directory all files below it
whose names end in one of the two suffixes are taken, in the order of the
components of their paths, once all directories below it are searched. A file is
called by its stem, and its package is the directory it lies in, or the directory
around a folder for interfaces.
-/

namespace SkillNode
namespace Interface

open FileTree (Path Tree)

/-- The suffix of service descriptions. -/
def serviceSuffix : Text := ".srv"

/-- The suffix of message descriptions. -/
def messageSuffix : Text := ".msg"

/-- Whether a path ends in the suffix of an interface file. -/
def isInterfacePath (path : Path) : Bool :=
  path.suffix = serviceSuffix || path.suffix = messageSuffix

/-- The package that a path belongs to. -/
def packageOf (path : Path) : Text :=
  let folder := path.parent.name
  let isInterfaceFolder := folder = "srv" || folder = "msg"
  if isInterfaceFolder && !path.parent.parent.name.isEmpty then
    path.parent.parent.name
  else
    folder

/-- The description in a file, of a package unless that is empty. -/
def describe (tree : Tree) (path : Path) (package : Text) : Except Failure Description :=
  if isInterfacePath path then
    match tree.read path with
    | .error error => .error (.file error)
    | .ok content =>
        match Text.ofUtf8 content with
        | .error fault => .error (.undecodable fault)
        | .ok text =>
            .ok {
              key := ⟨if package.isEmpty then packageOf path else package, path.stem⟩
              text := Text.withLineFeeds text
              isService := path.suffix = serviceSuffix
              source := path.text }
  else
    .error (.interface ⟨path.text, none, .unsupportedSuffix path.suffix⟩)

/-- Whether components lead from a place to a directory whose path is too long to be
searched. -/
def isTooDeep (tree : Tree) (path : Path) (place : FileTree.Place) (parts : List Text) : Bool :=
  tree.find? (place ++ parts) = some .directory &&
    FileTree.Tree.maxPathBytes < (Text.utf8 (path.descend parts).text).length

/-- The interface files below a directory in order, unless a directory below it cannot be
searched. A directory that is called like an interface file is among them. -/
def filesBelow (tree : Tree) (path : Path) : Except FileTree.Error (List Path) :=
  match tree.locate path with
  | .error fault => .error ⟨fault, path⟩
  | .ok place =>
      match (tree.below place).find? (isTooDeep tree path place) with
      | some parts => .error ⟨.nameTooLong, path.descend parts⟩
      | none => .ok (((tree.below place).map path.descend).filter isInterfacePath)

namespace Catalog

/-- Add a described interface. -/
def addDescription (catalog : Catalog) (description : Description) : Run Catalog :=
  match catalog.add description with
  | .error error => .fail (.interface error)
  | .ok (extended, log) => ⟨.ok extended, log⟩

/-- Add an interface file, to a package unless that is empty. -/
def addFile (catalog : Catalog) (tree : Tree) (path : Path) (package : Text) : Run Catalog :=
  match describe tree path package with
  | .error failure => .fail failure
  | .ok description => catalog.addDescription description

/-- Add described interfaces in order. -/
def addDescriptions (catalog : Catalog) : List Description → Run Catalog
  | [] => .ofResult catalog
  | description :: rest => do (← catalog.addDescription description).addDescriptions rest

/-- Add interface files in order. -/
def addFiles (catalog : Catalog) (tree : Tree) : List Path → Run Catalog
  | [] => .ofResult catalog
  | path :: rest => do (← catalog.addFile tree path []).addFiles tree rest

/-- The warning about a directory without interface files. -/
def emptyFolderLog (path : Path) : Log :=
  [.warning ("No interface files found under " ++ path.text)]

/-- Add the interface files that a path leads to. -/
def addPath (catalog : Catalog) (tree : Tree) (path : Path) : Run Catalog :=
  match tree.entryAt path with
  | .ok .directory =>
      match filesBelow tree path with
      | .error error => .fail (.file error)
      | .ok [] => ⟨.ok catalog, emptyFolderLog path⟩
      | .ok files => catalog.addFiles tree files
  | .ok (.file _) => catalog.addFile tree path []
  | .error .nameTooLong => .fail (.file ⟨.nameTooLong, path⟩)
  | .error _ => .fail (.interface ⟨path.text, none, .pathNotFound⟩)

/-- Add the interface files that paths lead to, in order. -/
def addPaths (catalog : Catalog) (tree : Tree) : List Path → Run Catalog
  | [] => .ofResult catalog
  | path :: rest => do (← catalog.addPath tree path).addPaths tree rest

/-- The catalog of the interface files that paths lead to. -/
def load (tree : Tree) (paths : List Path) : Run Catalog := empty.addPaths tree paths

end Catalog

end Interface
end SkillNode
