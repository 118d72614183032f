import SkillNode.FileTree.Path
import SkillNode.Sorted
import SkillNode.Text.Quoted
import SkillNode.Text.Utf8

/-!
# File trees

A tree holds files and directories by their places, and one directory to which
relative paths refer. The root is always a directory.

A path is walked component by component; every component but the last has to be a
directory that is there. No name holds a null character: a path with one is told
apart where it is asked for and where directories are made for it, and names of
files are free of it. The main statement says what a place holds after an entry
was put or erased.
-/

namespace SkillNode
namespace FileTree

/-! ## Errors -/

/-- Why nothing can be done at a path. -/
inductive Fault
  | notFound
  | alreadyThere
  | notDirectory
  | isDirectory
  | nameTooLong
  /-- The path holds a null character and does not even come to the system. -/
  | nullCharacter
  deriving DecidableEq, Repr

/-- The number that the system gives a fault. -/
def Fault.number? : Fault → Option Nat
  | .notFound => some 2
  | .alreadyThere => some 17
  | .notDirectory => some 20
  | .isDirectory => some 21
  | .nameTooLong => some 36
  | .nullCharacter => none

/-- The words for a fault. -/
def Fault.words : Fault → Text
  | .notFound => "No such file or directory"
  | .alreadyThere => "File exists"
  | .notDirectory => "Not a directory"
  | .isDirectory => "Is a directory"
  | .nameTooLong => "File name too long"
  | .nullCharacter => "embedded null byte"

/-- A fault and the path it was met at. -/
structure Error where
  fault : Fault
  path : Path
  deriving DecidableEq, Repr

/-- What is said of an error. The system tells its number for it and the path. -/
def Error.message (error : Error) : Text :=
  match error.fault.number? with
  | some number =>
      "[Errno " ++ Text.ofNat number ++ "] " ++ error.fault.words ++ ": " ++
        Text.quoted error.path.text
  | none => error.fault.words

/-! ## Trees -/

/-- The names that lead from the root to a file or directory. -/
abbrev Place := List Text

/-- What stands at a place. -/
inductive Entry
  | file (content : Bytes)
  | directory
  deriving DecidableEq, Repr

/-- Files and directories by place. -/
structure Tree where
  entries : List (Place × Entry)
  workingDirectory : Place
  deriving DecidableEq, Repr

/-- Put an entry in a list, in place if its place is taken. -/
def putEntry (place : Place) (new : Entry) : List (Place × Entry) → List (Place × Entry)
  | [] => [(place, new)]
  | (other, entry) :: rest =>
      if other = place then (place, new) :: rest else (other, entry) :: putEntry place new rest

namespace Tree

/-- What stands at a place. -/
def find? (tree : Tree) (place : Place) : Option Entry :=
  if place = [] then
    some .directory
  else
    (tree.entries.find? (·.1 = place)).map (·.2)

/-- Put an entry at a place. -/
def put (tree : Tree) (place : Place) (entry : Entry) : Tree :=
  { tree with entries := putEntry place entry tree.entries }

/-- Erase the entry at a place. -/
def erase (tree : Tree) (place : Place) : Tree :=
  { tree with entries := tree.entries.filter (·.1 ≠ place) }

/-- Put directories along a way from a place on. -/
def plantDirectories (tree : Tree) : Place → List Text → Tree
  | _, [] => tree
  | here, part :: rest =>
      (tree.put (here ++ [part]) .directory).plantDirectories (here ++ [part]) rest

/-- The tree of nothing but the directory to which relative paths refer and those
around it. -/
def empty (workingDirectory : Place) : Tree :=
  ({ entries := [], workingDirectory := workingDirectory } : Tree).plantDirectories []
    workingDirectory

/-- Put an entry at a place in the working directory, with all directories on the
way. -/
def plant (tree : Tree) (parts : List Text) (entry : Entry) : Tree :=
  (tree.plantDirectories tree.workingDirectory parts.dropLast).put
    (tree.workingDirectory ++ parts) entry

/-! ## Walking -/

/-- The greatest number of bytes in a name. -/
def maxNameBytes : Nat := 255

/-- The greatest number of bytes in a path. -/
def maxPathBytes : Nat := 4095

/-- The place that components lead to from a place on. -/
def walk (tree : Tree) : Place → List Text → Except Fault Place
  | here, [] => .ok here
  | here, part :: rest =>
      match tree.find? here with
      | none => .error .notFound
      | some (.file _) => .error .notDirectory
      | some .directory =>
          if maxNameBytes < (Text.utf8 part).length then .error .nameTooLong
          else if part = ".." then tree.walk here.dropLast rest
          else tree.walk (here ++ [part]) rest

/-- The place that a path leads to; nothing needs to stand there. -/
def locate (tree : Tree) (path : Path) : Except Fault Place :=
  if maxPathBytes < (Text.utf8 path.text).length then
    .error .nameTooLong
  else
    tree.walk (if path.root.isEmpty then tree.workingDirectory else []) path.parts

/-- What stands at the end of a path. -/
def entryAt (tree : Tree) (path : Path) : Except Fault Entry :=
  match tree.locate path with
  | .error fault => .error fault
  | .ok place =>
      match tree.find? place with
      | some entry => .ok entry
      | none => .error .notFound

/-- Whether a directory stands at the end of a path. -/
def isDirectory (tree : Tree) (path : Path) : Bool :=
  match tree.entryAt path with
  | .ok .directory => true
  | _ => false

/-- Whether anything stands at the end of a path. Nothing stands where no file can be, and there is
no answer for a path that the system takes to be too long. -/
def isThere (tree : Tree) (path : Path) : Except Error Bool :=
  if path.holdsNull then
    .ok false
  else
    match tree.entryAt path with
    | .ok _ => .ok true
    | .error .nameTooLong => .error ⟨.nameTooLong, path⟩
    | .error _ => .ok false

/-- The content of a file. -/
def read (tree : Tree) (path : Path) : Except Error Bytes :=
  match tree.entryAt path with
  | .ok (.file content) => .ok content
  | .ok .directory => .error ⟨.isDirectory, path⟩
  | .error fault => .error ⟨fault, path⟩

/-- The components that lead from a place to each entry below it, in the order of
components. -/
def below (tree : Tree) (place : Place) : List (List Text) :=
  Sorted.ofList (tree.entries.filterMap fun (other, _) =>
    if place.isPrefixOf other && place.length < other.length then
      some (other.drop place.length)
    else
      none)

/-! ## Changing -/

/-- Make a directory in a directory that is there. -/
def makeDirectory (tree : Tree) (path : Path) : Except Error Tree :=
  match tree.locate path with
  | .error fault => .error ⟨fault, path⟩
  | .ok place =>
      match tree.find? place with
      | some _ => .error ⟨.alreadyThere, path⟩
      | none => .ok (tree.put place .directory)

/-- Make a directory in a directory that is there, unless it is there itself. -/
def ensureDirectory (tree : Tree) (path : Path) : Tree × Option Error :=
  match tree.makeDirectory path with
  | .ok made => (made, none)
  | .error error => if tree.isDirectory path then (tree, none) else (tree, some error)

/-- Make the directory of a path with all that are missing around it. The
components are given from the last to the first. -/
def makeAllFor (tree : Tree) (root : Text) : List Text → Tree × Option Error
  | [] => tree.ensureDirectory ⟨root, []⟩
  | last :: earlier =>
      let path : Path := ⟨root, (last :: earlier).reverse⟩
      match tree.makeDirectory path with
      | .error ⟨.notFound, _⟩ =>
          match tree.makeAllFor root earlier with
          | (made, none) => made.ensureDirectory path
          | (made, some error) => (made, some error)
      | _ => tree.ensureDirectory path

/-- Make the directory of a path with all that are missing around it. What was made
before an error stays. -/
def makeAll (tree : Tree) (path : Path) : Tree × Option Error :=
  if path.holdsNull then
    (tree, some ⟨.nullCharacter, path⟩)
  else
    tree.makeAllFor path.root path.parts.reverse

/-- Make a new file. -/
def createFile (tree : Tree) (path : Path) (content : Bytes) : Except Error (Tree × Place) :=
  match tree.locate path with
  | .error fault => .error ⟨fault, path⟩
  | .ok place =>
      match tree.find? place with
      | some _ => .error ⟨.alreadyThere, path⟩
      | none => .ok (tree.put place (.file content), place)

/-- Move a file to a path, in place of the file that stands there. -/
def moveFile (tree : Tree) (place : Place) (path : Path) : Except Error Tree :=
  match tree.locate path with
  | .error fault => .error ⟨fault, path⟩
  | .ok target =>
      match tree.find? place, tree.find? target with
      | none, _ => .error ⟨.notFound, path⟩
      | some .directory, _ | _, some .directory => .error ⟨.isDirectory, path⟩
      | some (.file content), _ => .ok ((tree.erase place).put target (.file content))

/-! ## Comparing -/

/-- The entries in the working directory that another tree does not have so, by
relative path: the content of a file, nothing for a directory. -/
def changesSince (tree earlier : Tree) : List (Text × Option Bytes) :=
  (tree.below tree.workingDirectory).filterMap fun parts =>
    let place := tree.workingDirectory ++ parts
    if tree.find? place = earlier.find? place then
      none
    else
      match tree.find? place with
      | some (.file content) => some (Text.join "/" parts, some content)
      | some .directory => some (Text.join "/" parts, none)
      | none => none

/-! ## Laws -/

theorem find?_putEntry
    (place other : Place)
    (new : Entry)
    (entries : List (Place × Entry)) :
    (putEntry place new entries).find? (·.1 = other) =
      if place = other then some (place, new) else entries.find? (·.1 = other) := by
  induction entries with
  | nil => by_cases same : place = other <;> simp [putEntry, same]
  | cons first rest restHypothesis =>
      obtain ⟨firstPlace, firstEntry⟩ := first
      unfold putEntry
      by_cases sameFirst : firstPlace = place
      · subst sameFirst
        by_cases same : firstPlace = other <;> simp [same]
      · simp only [sameFirst, if_false, List.find?_cons, restHypothesis]
        by_cases firstOther : firstPlace = other
        · have differs : place ≠ other := fun same => sameFirst (firstOther.trans same.symm)
          simp [firstOther, differs]
        · simp [firstOther]

/-- A place holds what was put there; other places hold what they held. -/
theorem find?_put
    (tree : Tree)
    {place : Place}
    (notRoot : place ≠ [])
    (entry : Entry)
    (other : Place) :
    (tree.put place entry).find? other =
      if place = other then some entry else tree.find? other := by
  unfold find? put
  by_cases same : place = other
  · subst same
    simp [notRoot, find?_putEntry]
  · simp [same, find?_putEntry]

/-- An erased place holds nothing; other places hold what they held. -/
theorem find?_erase
    (tree : Tree)
    {place : Place}
    (notRoot : place ≠ [])
    (other : Place) :
    (tree.erase place).find? other = if place = other then none else tree.find? other := by
  unfold find? erase
  by_cases same : place = other
  · subst same
    simp only [notRoot, if_false, if_true, Option.map_eq_none_iff, List.find?_eq_none]
    intro entry member
    simpa using (List.mem_filter.mp member).2
  · simp only [same, if_false]
    by_cases isRoot : other = []
    · simp [isRoot]
    · simp only [isRoot, if_false]
      congr 1
      induction tree.entries with
      | nil => rfl
      | cons first rest restHypothesis =>
          by_cases erased : first.1 = place
          · have differs : first.1 ≠ other := fun found => same (erased.symm.trans found)
            simp only [List.filter_cons, erased, ne_eq, not_true_eq_false, decide_false,
              Bool.false_eq_true, if_false, List.find?_cons]
            rw [restHypothesis]
            simp [same]
          · by_cases found : first.1 = other
            · subst found
              simp [erased]
            · simp only [List.filter_cons, ne_eq, erased, not_false_eq_true, decide_true, if_true,
                List.find?_cons, found, decide_false, restHypothesis]

end Tree

end FileTree
end SkillNode
