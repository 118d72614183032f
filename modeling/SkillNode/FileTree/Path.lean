import SkillNode.Text.Basic

/-!
# Paths

A path is a root and a list of components. Repeated slashes and components of a
single dot say nothing and are dropped; a component of two dots is kept. The
root is empty for a relative path, a slash for an absolute one, and two slashes
for a path that starts with exactly two.
-/

namespace SkillNode
namespace FileTree

/-- A path of a file or directory. -/
structure Path where
  root : Text
  parts : List Text
  deriving DecidableEq, Repr

namespace Path

/-- The root that leading slashes stand for. -/
def rootOf : Text → Text
  | '/' :: '/' :: '/' :: _ => "/"
  | '/' :: '/' :: _ => "//"
  | '/' :: _ => "/"
  | _ => []

/-- The components that a text names. -/
def partsOf (text : Text) : List Text :=
  (Text.segments '/' text).filter (· ≠ ("." : Text))

/-- The path that a text writes. -/
def ofText (text : Text) : Path := ⟨rootOf text, partsOf text⟩

/-- The normal text of a path; the path of nothing is written as a dot. -/
def text (path : Path) : Text :=
  if path.root.isEmpty && path.parts.isEmpty then
    "."
  else
    path.root ++ Text.join "/" path.parts

/-- Whether a null character is in a path. No file can be made or found there. -/
def holdsNull (path : Path) : Bool := path.text.contains '\x00'

/-- The last component, empty if there is none. -/
def name (path : Path) : Text := path.parts.getLast?.getD []

/-- The path of the directory around; a path without components is its own. -/
def parent (path : Path) : Path := { path with parts := path.parts.dropLast }

/-- The path of an entry of a directory. -/
def child (path : Path) (entry : Text) : Path := { path with parts := path.parts ++ [entry] }

/-- The path of what some components lead to from a directory. -/
def descend (path : Path) (parts : List Text) : Path := { path with parts := path.parts ++ parts }

/-- The path that a text writes as seen from another path. -/
def append (path : Path) (text : Text) : Path :=
  let other := ofText text
  if other.root.isEmpty then { path with parts := path.parts ++ other.parts } else other

/-- A name as stem and suffix. The suffix starts at the last dot; a dot at either
end of the name starts none. -/
def splitName (name : Text) : Text × Text :=
  let (stem, extension) := Text.splitLast '.' name
  if stem.isEmpty || extension.isEmpty then (name, []) else (stem, '.' :: extension)

/-- The last component without its suffix. -/
def stem (path : Path) : Text := (splitName path.name).1

/-- The suffix of the last component with its dot, empty if there is none. -/
def suffix (path : Path) : Text := (splitName path.name).2

end Path

end FileTree
end SkillNode
