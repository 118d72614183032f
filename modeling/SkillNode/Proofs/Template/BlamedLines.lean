import SkillNode.Proofs.Template.FreeNames
import SkillNode.Proofs.Template.ReadReferences

/-!
# Lines that are blamed

When a name has no value, the error gives a line of the template for it. It is meant to be one on
which an expression refers to the name. The references are known from reading, with their lines,
but the line is looked for in the raw text.

The main statement says that a line is always given, that references stand where they are read,
and when the line that is given is that of a reference. The last statement shows a template where
it is not: the dollar sign that ends one placeholder is taken for the start of another, since the
name comes next in the text.
-/

namespace SkillNode
namespace Template

/-- What is reported of a name that has no value. -/
theorem unresolved_of_isLacking
    {source name placeholder : Text}
    {nodes : List Node}
    {context : Context}
    {escaping : Escaping}
    {line? : Option Nat}
    (isLacking : IsLacking nodes context name)
    (notBuiltin : name ∉ builtinNames)
    (fails : renderNodes escaping source nodes context = .error (.unresolved line? placeholder)) :
    line? = lineOfName? source placeholder := by
  cases reported : missingName? nodes context with
  | none =>
      rw [missingName?, least?_eq_none_iff, List.filter_eq_nil_iff] at reported
      have isMissing :
          (!builtinNames.contains name && (Value.entry? context name).isNone) = true := by
        rw [isLacking.2, List.contains_eq_mem, decide_eq_false notBuiltin]
        rfl
      exact absurd isMissing (reported name isLacking.1)
  | some least =>
      rw [renderNodes, reported] at fails
      cases fails
      rfl

/-- If rendering fails for a name without a value, a line is reported, and every reference to the
name stands in the template on its line. The line that is reported is that of a reference exactly
if there is one on the line of the place that the name is looked for at: the first dollar sign
with the name after it, or else the first place where the name stands as a word. -/
theorem Folder.render_blamesReference_iff
    {folder : Folder}
    {file path source name : Text}
    {nodes : List Node}
    {context : Context}
    {line? : Option Nat}
    (holds : folder.Holds file path source)
    (reads : readTemplate source = .ok nodes)
    (isLacking : IsLacking nodes context name)
    (notBuiltin : name ∉ builtinNames)
    (fails : folder.render file context = .error ⟨path, .unresolved line? name⟩) :
    (∃ line, line? = some line) ∧
    (∀ line, RefersOn nodes line name → StandsOn source line name) ∧
    ((∃ line, line? = some line ∧ RefersOn nodes line name) ↔
      ∀ before, IsLead source name before →
        RefersOn nodes (1 + Text.lineFeeds before) name) := by
  have isLine := unresolved_of_isLacking isLacking notBuiltin
    (Folder.renderNodes_of_render_eq_error holds reads fails)
  have referencesStand : ∀ line, RefersOn nodes line name → StandsOn source line name :=
    fun _ refers => standsOn_of_refersOn reads refers
  obtain ⟨referring, refers⟩ := mem_freeNamesOf_iff.mp isLacking.1
  obtain ⟨isName, place, standsThere, -⟩ := referencesStand referring refers
  obtain ⟨line, isFound⟩ := exists_lineOfName? isName standsThere
  obtain ⟨lead, isLead, isLeadLine⟩ := isLead_of_lineOfName? isName isFound
  have isReported : line? = some line := isLine.trans isFound
  refine ⟨⟨line, isReported⟩, referencesStand, ?_⟩
  constructor
  · rintro ⟨other, otherReported, refersThere⟩ before beforeLeads
    rw [isReported] at otherReported
    obtain rfl := Option.some.inj otherReported
    rwa [beforeLeads.unique isLead, ← isLeadLine]
  · intro leadRefers
    refine ⟨line, isReported, ?_⟩
    rw [isLeadLine]
    exact leadRefers lead isLead

/-- A template with a name in plain text before the placeholder of the name. -/
def tidyTemplate : Text := "n:\n$a$\n$n$"

/-- What the template is read as. -/
def tidyNodes : List Node :=
  [.text "n:\n", .output (.name 2 "a"), .text "\n", .output (.name 3 "n")]

/-- The text before the placeholder is passed over. -/
theorem render_blamesReference_tidy :
    (singleFolder "t" tidyTemplate).render "t" [("a", .text "x")] =
      .error ⟨"templates/t", .unresolved (some 3) "n"⟩ ∧
    StandsOn tidyTemplate 3 "n" ∧
    ∀ before, IsLead tidyTemplate "n" before →
      RefersOn tidyNodes (1 + Text.lineFeeds before) "n" := by
  have holds : (singleFolder "t" tidyTemplate).Holds "t" "templates/t" tidyTemplate := by
    refine ⟨["t"], tidyTemplate, ?_, ?_, ?_, ?_⟩ <;> decide +kernel
  have isRead : readTemplate tidyTemplate = .ok tidyNodes := eq_of_reads (by decide +kernel)
  have isLacking : IsLacking tidyNodes [("a", .text "x")] "n" :=
    ⟨by decide +kernel, by decide +kernel⟩
  have fails : (singleFolder "t" tidyTemplate).render "t" [("a", .text "x")] =
      .error ⟨"templates/t", .unresolved (some 3) "n"⟩ := by
    decide +kernel
  have refers : RefersOn tidyNodes 3 "n" := by decide +kernel
  obtain ⟨-, referencesStand, isRight⟩ :=
    Folder.render_blamesReference_iff holds isRead isLacking (by decide +kernel) fails
  exact ⟨fails, referencesStand 3 refers, isRight.mp ⟨3, rfl, refers⟩⟩

/-- A template with a name in plain text right after a placeholder. -/
def strayTemplate : Text := "$a$ n\n$n$"

/-- What the template is read as. -/
def strayNodes : List Node :=
  [.output (.name 1 "a"), .text " n\n", .output (.name 2 "n")]

/-- The plain text is blamed, although the one reference stands on the next line. -/
theorem render_blamesText_stray :
    readTemplate strayTemplate = .ok strayNodes ∧
    (singleFolder "t" strayTemplate).render "t" [("a", .text "x")] =
      .error ⟨"templates/t", .unresolved (some 1) "n"⟩ ∧
    ¬ RefersOn strayNodes 1 "n" ∧ RefersOn strayNodes 2 "n" := by
  refine ⟨eq_of_reads ?_, ?_, ?_, ?_⟩ <;> decide +kernel

end Template
end SkillNode
