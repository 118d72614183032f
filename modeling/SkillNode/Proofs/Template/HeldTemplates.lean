import Mathlib.Control.Monad.Basic
import SkillNode.Template.Rendering

/-!
# Templates that a folder holds

A template is found in a folder by its name, and what is rendered is its text with a line feed at
the end of every line. Errors name the path at which it was found.
-/

namespace SkillNode
namespace Template

/-- A folder holds a template at a path, as it is printed, with a text whose lines end in line
feeds. -/
def Folder.Holds (folder : Folder) (name path source : Text) : Prop :=
  ∃ parts content, nameParts? name = some parts ∧ folder.content? parts = some (.ok content) ∧
    path = folder.pathOf parts ∧ source = Text.withLineFeeds content

section Holds

variable {folder : Folder} {name path source : Text}

/-- A template that a folder holds is rendered from its text. -/
theorem Folder.render_of_holds
    (holds : folder.Holds name path source)
    (context : Context) :
    folder.render name context =
      (renderText (isMarkupName name) source context).mapError (⟨path, ·⟩) := by
  obtain ⟨parts, content, isName, isContent, rfl, rfl⟩ := holds
  rw [Folder.render, isName]
  simp only [Option.bind_some, isContent, Option.map_some]
  cases renderText (isMarkupName name) (Text.withLineFeeds content) context <;> rfl

/-- The errors of the rendering are those of its text, with the path. -/
theorem Folder.render_eq_error_iff
    {context : Context}
    {error : RenderError}
    (holds : folder.Holds name path source) :
    folder.render name context = .error error ↔
      ∃ fault, renderText (isMarkupName name) source context = .error fault ∧
        error = ⟨path, fault⟩ := by
  rw [Folder.render_of_holds holds]
  cases renderText (isMarkupName name) source context <;> simp [Except.mapError, eq_comm]

/-- A template that can be read is rendered from its nodes. -/
theorem Folder.render_of_nodes
    {nodes : List Node}
    (holds : folder.Holds name path source)
    (reads : readTemplate source = .ok nodes)
    (context : Context) :
    folder.render name context =
      (renderNodes (isMarkupName name) source nodes context).mapError (⟨path, ·⟩) := by
  rw [Folder.render_of_holds holds, renderText, reads]

/-- If the rendering fails with its path, it does so because of its nodes. -/
theorem Folder.renderNodes_of_render_eq_error
    {nodes : List Node}
    {context : Context}
    {fault : RenderFault}
    (holds : folder.Holds name path source)
    (reads : readTemplate source = .ok nodes)
    (fails : folder.render name context = .error ⟨path, fault⟩) :
    renderNodes (isMarkupName name) source nodes context = .error fault := by
  obtain ⟨_, textFails, ⟨⟩⟩ := (Folder.render_eq_error_iff holds).mp fails
  rwa [renderText, reads] at textFails

end Holds

/-- A folder with one template. -/
def singleFolder (name source : Text) : Folder :=
  ⟨"templates", fun parts => if parts = [name] then some (.ok source) else none⟩

end Template
end SkillNode
