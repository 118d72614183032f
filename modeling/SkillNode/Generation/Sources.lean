import SkillNode.Generation.Bundled
import SkillNode.Generation.Placeholders

/-!
# Generated sources

The header and the source of a skill node are rendered from the two templates of
a set. Settings are checked first, then whether the set is complete, then whether
the model has a blueprint; the header is rendered before the source.
-/

namespace SkillNode
namespace Generation

open Statechart (TypedModel)
open Template (Folder)

/-- Both files of a skill node with their names. -/
structure Sources where
  className : Text
  headerName : Text
  header : Text
  sourceName : Text
  source : Text
  deriving DecidableEq, Repr

/-- The names of templates by the names of their roles. -/
abbrev TemplateSet := List (Text × Text)

/-- The set of the bundled templates. -/
def defaultSet : TemplateSet :=
  [(Role.header.name, headerTemplateName), (Role.source.name, sourceTemplateName)]

/-- A set, or the default one in place of an empty set. -/
def chooseSet (set : TemplateSet) : TemplateSet := if set.isEmpty then defaultSet else set

/-- The template of a set for a role. -/
def templateFor (set : TemplateSet) (role : Role) : Except Error Text :=
  match set.find? (·.1 = role.name) with
  | some (_, template) => .ok template
  | none => .error (.missingTemplate role)

/-- Render a template of a folder for a blueprint. -/
def Blueprint.render (blueprint : Blueprint) (folder : Folder) (template : Text) :
    Except Error Text :=
  match folder.render template blueprint.context with
  | .ok text => .ok text
  | .error error => .error (.rendering error)

/-- Generate both files of a model. -/
def generate (folder : Folder) (set : TemplateSet) (options : Options) (model : TypedModel) :
    Except Error Sources := do
  match options.fault? with
  | some fault => throw (.badOptions fault)
  | none =>
      let headerTemplate ← templateFor (chooseSet set) .header
      let sourceTemplate ← templateFor (chooseSet set) .source
      let blueprint ← Blueprint.ofModel options model
      let header ← blueprint.render folder headerTemplate
      let source ← blueprint.render folder sourceTemplate
      return ⟨blueprint.className, blueprint.headerFile, header, blueprint.sourceFile, source⟩

end Generation
end SkillNode
