import SkillNode.Failure
import SkillNode.Statechart.Reading
import SkillNode.Statechart.Resolution

/-!
# Runs on behaviour descriptions

Reading a behaviour description from a text or a file and resolving its field
types, as runs that keep a log.
-/

namespace SkillNode
namespace Statechart

open FileTree (Path Tree)
open Markup (Converters)

/-- The run that a reading makes. -/
def runOf (reading : Except Error Extraction) : Run RawModel where
  outcome :=
    match outcomeOf reading with
    | .ok model => .ok model
    | .error error => .error (.statechart error)
  log := logOf reading

/-- The model of a text held in memory, as a new reader reads it. -/
def ofText (source text : Text) (converters : Converters := .none) : Run RawModel :=
  runOf (readText source text {} converters)

/-- The model of a file, which is called by its path, as a new reader reads it. -/
def ofFile (tree : Tree) (path : Path) (converters : Converters := .none) : Run RawModel :=
  match tree.read path with
  | .ok content => runOf (readFile path.text path.stem content converters)
  | .error _ => .fail (.statechart (unreadableError path.text))

/-- A model with the types of all assigned fields. -/
def typed (catalog : Interface.Catalog) (model : RawModel) : Run TypedModel :=
  ⟨.ok (resolve model catalog), resolutionLog model catalog⟩

end Statechart
end SkillNode
