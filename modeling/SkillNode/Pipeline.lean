import SkillNode.Generation.Sources
import SkillNode.Interface.Loading
import SkillNode.Statechart.Loading

/-!
# The pipeline

From the text of a behaviour description and the descriptions of interfaces to a
typed model, to its blueprint, and to the generated sources. The behaviour
description is read before the interfaces are.
-/

namespace SkillNode
namespace Pipeline

open Generation (Blueprint Options Sources TemplateSet)
open Interface (Catalog Description)
open Statechart (TypedModel)
open Template (Folder)

/-- A behaviour description with the interfaces that it uses. -/
structure Input where
  source : Text
  text : Text
  interfaces : List Description
  deriving DecidableEq, Repr

/-- The typed model of an input. -/
def typedModel (input : Input) : Run TypedModel := do
  let model ← Statechart.ofText input.source input.text
  let catalog ← Catalog.empty.addDescriptions input.interfaces
  Statechart.typed catalog model

/-- The blueprint of an input. -/
def blueprint (options : Options) (input : Input) : Run Blueprint := do
  let model ← typedModel input
  Run.ofExcept .generation (Blueprint.ofModel options model)

/-- The generated sources of an input. -/
def sources (folder : Folder) (set : TemplateSet) (options : Options) (input : Input) :
    Run Sources := do
  let model ← typedModel input
  Run.ofExcept .generation (Generation.generate folder set options model)

end Pipeline
end SkillNode
