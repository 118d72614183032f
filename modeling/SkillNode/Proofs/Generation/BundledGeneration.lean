import SkillNode.Proofs.Generation.BundledExpansion
import SkillNode.Proofs.Generation.Gathering
import SkillNode.Text.Line
import Mathlib.Control.Monad.Basic

/-!
# Generation with the bundled templates

The bundled templates are found, read, and lack no name, so that rendering one for a
blueprint gives its layout unless a number among the settings cannot be printed or a
marker is left in it.

The main statement says when both files of a model are generated, and what they hold.
-/

namespace SkillNode

namespace Generation

open Template

variable (blueprint : Blueprint)

section Names

set_option maxRecDepth 100000

theorem headerNodes_isSupplied :
    ∀ name ∈ freeNamesOf headerNodes, name ∈ blueprint.context.map Prod.fst := by
  simp only [Blueprint.context, List.map_cons, List.map_nil]
  unfold headerNodes includeNode datamodelNode callDeclarationNode callbackDeclarationNode
    memberNode printName printPart between
  repeat rw [String.toList_ofList]
  decide +kernel

theorem sourceNodes_isSupplied :
    ∀ name ∈ freeNamesOf sourceNodes, name ∈ blueprint.context.map Prod.fst := by
  simp only [Blueprint.context, List.map_cons, List.map_nil]
  unfold sourceNodes clientNode subscriptionNode connectNode callNode callbackNode requestNode
    paramNode submitNode insertNode printName printPart printEscaped between
  repeat rw [String.toList_ofList]
  decide +kernel

end Names

/-! ## Rendering -/

/-- A layout, unless a marker is in it: that is then left by a template at a path. -/
def unmarked (name template layout : Text) : Except Error Text :=
  match firstMarker? 1 layout with
  | some (line, marker) =>
      .error (.rendering ⟨bundledPath ++ "/" ++ name,
        .markerLeft line (lineOfName? template marker) marker⟩)
  | none => .ok layout

theorem unmarked_eq_ok_iff {name template layout text : Text} :
    unmarked name template layout = .ok text ↔ firstMarker? 1 layout = none ∧ text = layout := by
  unfold unmarked
  cases firstMarker? 1 layout <;> simp [eq_comm]

theorem unmarked_bind_eq_ok_iff
    {Result : Type}
    {name template layout : Text}
    {next : Text → Except Error Result}
    {result : Result} :
    (unmarked name template layout).bind next = .ok result ↔
      firstMarker? 1 layout = none ∧ next layout = .ok result := by
  unfold unmarked
  cases firstMarker? 1 layout <;> simp [Except.bind]

/-- No value is given to the template itself. -/
theorem entry?_context_self : Value.entry? blueprint.context selfName = none := by
  rw [Value.entry?_eq_none_iff]
  simp only [Blueprint.context, List.map_cons, List.map_nil, selfName]
  repeat rw [String.toList_ofList]
  decide +kernel

theorem renderNodes_eq
    (template : Text)
    {nodes : List Node}
    (isSupplied : ∀ name ∈ freeNamesOf nodes, name ∈ blueprint.context.map Prod.fst) :
    renderNodes false template nodes blueprint.context =
      match expandAll false blueprint.context nodes with
      | .error fault => .error (.ofFault fault)
      | .ok layout =>
          match firstMarker? 1 layout with
          | some (line, marker) => .error (.markerLeft line (lineOfName? template marker) marker)
          | none => .ok layout := by
  unfold renderNodes
  rw [missingName?_eq_none isSupplied, entry?_context_self,
    leftOutName?_eq_none fun name isFree _ => isSupplied name isFree]
  rfl

/-- A bundled template renders to its layout, unless its expansion fails or a marker is left. -/
theorem render_bundled
    {name template : Text}
    {nodes : List Node}
    (found : (nameParts? name).bind (fun parts => (bundledFolder.content? parts).map (parts, ·)) =
      some ([name], .ok template))
    (isPlain : isMarkupName name = false)
    (noReturn : '\r' ∉ template)
    (isRead : readTemplate template = .ok nodes)
    (isSupplied : ∀ name ∈ freeNamesOf nodes, name ∈ blueprint.context.map Prod.fst) :
    blueprint.render bundledFolder name =
      match expandAll false blueprint.context nodes with
      | .error fault => .error (.rendering ⟨bundledPath ++ "/" ++ name, .ofFault fault⟩)
      | .ok layout => unmarked name template layout := by
  have path : bundledFolder.pathOf [name] = bundledPath ++ "/" ++ name := by
    have noSlash : bundledPath.getLast? ≠ some '/' := by decide +kernel
    simp only [Folder.pathOf, List.foldl_cons, List.foldl_nil, bundledFolder, if_neg noSlash]
  rw [Blueprint.render, Folder.render, found]
  simp only [isPlain, Text.withLineFeeds_of_noReturn noReturn, renderText, isRead,
    renderNodes_eq blueprint template isSupplied, path]
  cases expandAll false blueprint.context nodes with
  | error fault => rfl
  | ok layout =>
      unfold unmarked
      cases marked : firstMarker? 1 layout <;> simp only [marked]

/-- What is said of a number among the settings that cannot be printed. -/
def longNumberError : Error :=
  .rendering ⟨bundledPath ++ "/" ++ headerTemplateName, .longNumber⟩

/-- The layout of the header, unless a number cannot be printed or a marker is in it. -/
def headerOutcome : Except Error Text :=
  if blueprint.options.isPrintable then
    unmarked headerTemplateName headerTemplate (headerText blueprint)
  else
    .error longNumberError

theorem headerOutcome_bind_eq_ok_iff
    {Result : Type}
    {next : Text → Except Error Result}
    {result : Result} :
    (headerOutcome blueprint).bind next = .ok result ↔
      blueprint.options.isPrintable = true ∧ firstMarker? 1 (headerText blueprint) = none ∧
        next (headerText blueprint) = .ok result := by
  unfold headerOutcome
  split
  · simp [unmarked_bind_eq_ok_iff, *]
  · simp [*]

theorem render_header :
    blueprint.render bundledFolder headerTemplateName = headerOutcome blueprint := by
  have parts : nameParts? headerTemplateName = some [headerTemplateName] := by decide +kernel
  have content : bundledFolder.content? [headerTemplateName] = some (.ok headerTemplate) := by
    simp only [bundledFolder, bundledText?, if_true, Option.map_some]
  rw [render_bundled blueprint ?_ ?_ noReturn_headerTemplate readTemplate_headerTemplate
    (headerNodes_isSupplied blueprint), expandAll_headerNodes]
  · unfold headerOutcome
    cases blueprint.options.isPrintable <;> rfl
  · rw [parts, Option.bind_some, content, Option.map_some]
  · decide +kernel

theorem render_source :
    blueprint.render bundledFolder sourceTemplateName =
      unmarked sourceTemplateName sourceTemplate (sourceText blueprint) := by
  have parts : nameParts? sourceTemplateName = some [sourceTemplateName] := by decide +kernel
  have differs : [sourceTemplateName] ≠ [headerTemplateName] := by decide +kernel
  have content : bundledFolder.content? [sourceTemplateName] = some (.ok sourceTemplate) := by
    simp only [bundledFolder, bundledText?, if_neg differs, if_true, Option.map_some]
  rw [render_bundled blueprint ?_ ?_ noReturn_sourceTemplate readTemplate_sourceTemplate
    (sourceNodes_isSupplied blueprint), expandAll_sourceNodes]
  · rw [parts, Option.bind_some, content, Option.map_some]
  · decide +kernel

/-! ## Generation -/

/-- Both files of a blueprint as they are laid out. -/
def layoutSources (blueprint : Blueprint) : Sources :=
  ⟨blueprint.className, blueprint.headerFile, headerText blueprint, blueprint.sourceFile,
    sourceText blueprint⟩

/-- With the bundled templates generation checks the settings, gathers the blueprint, and
lays out both files, of which neither may hold a marker. -/
theorem generate_bundledFolder (options : Options) (model : Statechart.TypedModel) :
    generate bundledFolder [] options model =
      match options.fault? with
      | some fault => .error (.badOptions fault)
      | none => (Blueprint.ofModel options model).bind fun blueprint =>
          (headerOutcome blueprint).bind fun _ =>
            (unmarked sourceTemplateName sourceTemplate (sourceText blueprint)).bind fun _ =>
              .ok (layoutSources blueprint) := by
  have header : templateFor (chooseSet []) .header = .ok headerTemplateName := by decide +kernel
  have source : templateFor (chooseSet []) .source = .ok sourceTemplateName := by decide +kernel
  unfold generate
  cases options.fault? with
  | some fault => rfl
  | none =>
      simp only [header, source, bind, ok_bind, render_header, render_source]
      cases Blueprint.ofModel options model with
      | error error => rfl
      | ok blueprint =>
          rw [ok_bind]
          unfold headerOutcome unmarked
          cases printable : blueprint.options.isPrintable <;>
            cases markedHeader : firstMarker? 1 (headerText blueprint) <;>
            cases markedSource : firstMarker? 1 (sourceText blueprint) <;>
            simp [printable, markedHeader, markedSource, layoutSources, pure, Except.pure]

/-- With the bundled templates both files of a model are generated exactly if the settings
hold and can be printed, the model has a blueprint, and no marker is left in the layout of a
file. They are then as they are laid out, with services and topics in the order of their
declarations. -/
theorem generate_eq_layout_iff
    (options : Options)
    (model : Statechart.TypedModel)
    (sources : Sources) :
    (generate bundledFolder [] options model = .ok sources ↔
      options.fault? = none ∧ options.isPrintable = true ∧
        ∃ blueprint,
          Blueprint.ofModel options model = .ok blueprint ∧
          firstMarker? 1 (headerText blueprint) = none ∧
          firstMarker? 1 (sourceText blueprint) = none ∧
          sources.className = blueprint.className ∧
          sources.headerName = blueprint.headerFile ∧
          sources.header = headerText blueprint ∧
          sources.sourceName = blueprint.sourceFile ∧
          sources.source = sourceText blueprint) ∧
    ∀ blueprint, Blueprint.ofModel options model = .ok blueprint →
      blueprint.model = model ∧
        blueprint.options = options ∧
        blueprint.services.map Binding.clientName =
          model.services.map (·.endpoint.clientName) ∧
        blueprint.topics.map Binding.clientName = model.topics.map (·.endpoint.clientName) ∧
        ∀ binding ∈ blueprint.services ++ blueprint.topics,
          binding.resolved ∈ model.endpoints ∧
            Binding.ofResolved binding.resolved = .ok binding := by
  refine ⟨?_, fun blueprint gathers => Blueprint.bindings_inOrder gathers⟩
  rw [generate_bundledFolder]
  cases options.fault? with
  | some fault => simp
  | none =>
      cases gathers : Blueprint.ofModel options model with
      | error error => simp
      | ok blueprint =>
          have isSame : blueprint.options = options := (Blueprint.bindings_inOrder gathers).2.1
          obtain ⟨className, headerName, header, sourceName, source⟩ := sources
          rw [ok_bind, headerOutcome_bind_eq_ok_iff, unmarked_bind_eq_ok_iff, isSame]
          simp [layoutSources, @eq_comm _ className, @eq_comm _ headerName, @eq_comm _ header,
            @eq_comm _ sourceName, @eq_comm _ source]

end Generation
end SkillNode
