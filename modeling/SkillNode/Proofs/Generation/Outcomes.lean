import Mathlib.Algebra.Group.Int.Defs
import SkillNode.Proofs.Generation.BundledGeneration
import SkillNode.Proofs.Generation.PlainModels
import SkillNode.Proofs.Statechart.ReadModels
import SkillNode.Proofs.Template.Markers

/-!
# How generation ends

With the bundled templates, generation for a model that was read and typed fails for five
reasons: the settings are refused, a response field is compound, two generated names are
equal, a number among the settings cannot be printed, or a marker is left in a generated
file. The class name was checked when the model was read, and both templates are read and
expanded for every blueprint whose settings can be printed.

The check of the settings lets numbers of any size pass, so that it misses the fourth reason.

A marker can only come from a dollar sign in a text of the model.
-/

namespace SkillNode

namespace Statechart

/-- A model that was read and then typed with some catalog. -/
def IsTyped (model : TypedModel) : Prop :=
  ∃ raw catalog, IsRead raw ∧ model = resolve raw catalog

theorem IsTyped.guarantees {model : TypedModel} (isTyped : IsTyped model) :
    Naming.className? model.name ≠ none ∧
      (model.endpoints.map (·.endpoint.clientName)).Nodup := by
  obtain ⟨raw, catalog, isRead, rfl⟩ := isTyped
  obtain ⟨usable, distinct⟩ := isRead.guarantees
  exact ⟨usable, clients_resolve raw catalog ▸ distinct⟩

/-- Fields of one name that an endpoint is typed with are equal, since a field is typed by
its name. -/
theorem IsTyped.eq_of_name_eq
    {model : TypedModel}
    (isTyped : IsTyped model)
    {resolved : ResolvedEndpoint}
    (isEndpoint : resolved ∈ model.endpoints)
    {field other : ResolvedField}
    (member : field ∈ resolved.resolvedFields)
    (otherMember : other ∈ resolved.resolvedFields)
    (sameName : field.name = other.name) :
    field = other := by
  obtain ⟨raw, catalog, _, rfl⟩ := isTyped
  obtain ⟨endpoint, _, rfl⟩ := List.mem_map.mp isEndpoint
  obtain ⟨name, _, rfl⟩ := List.mem_map.mp member
  obtain ⟨otherName, _, rfl⟩ := List.mem_map.mp otherMember
  have nameEq : name = otherName := sameName
  rw [nameEq]

end Statechart

namespace Generation

open Statechart (TypedModel ResolvedEndpoint IsTyped)
open Template (HoldsMarker readTemplate expandAll)

/-! ## Reasons against a blueprint -/

/-- Some response field is an array or a nested message. -/
def HasCompound (model : TypedModel) : Prop :=
  ∃ resolved ∈ model.endpoints, ∃ field ∈ resolved.resolvedFields, field.type = .compound

/-- The generated names of an endpoint, whatever its fields. -/
def namesOf (resolved : ResolvedEndpoint) : List Text :=
  (Binding.mk resolved []).names.map Prod.snd

/-- Two names of a model that are generated for its endpoints are equal. The name of the class is
not among them. -/
def NamesCollide (model : TypedModel) : Prop := ¬ (model.endpoints.flatMap namesOf).Nodup

/-- What is said of a model without a blueprint. -/
def Error.IsGathering : Error → Prop
  | .compoundField _ _ | .nameCollision _ _ _ _ => True
  | _ => False

/-- Endpoints are not mapped only for a compound field. -/
theorem hasCompound_of_mapM_error
    {model : TypedModel}
    {error : Error}
    (failed : model.endpoints.mapM Binding.ofResolved = .error error) :
    HasCompound model := by
  obtain ⟨resolved, isEndpoint, refused⟩ := exists_of_mapM_error failed
  rcases Binding.ofResolved_cases resolved with
    ⟨binding, bound, _⟩ | ⟨field, member, isCompound, _⟩
  · rw [bound] at refused
    cases refused
  · exact ⟨resolved, isEndpoint, field, mem_of_mem_distinctFields member, isCompound⟩

/-- A mapping of the endpoints fails exactly at compound fields. -/
theorem bindings_eq_error_iff
    {model : TypedModel}
    (isTyped : IsTyped model) :
    (∃ error, model.endpoints.mapM Binding.ofResolved = .error error) ↔ HasCompound model := by
  constructor
  · rintro ⟨error, failed⟩
    exact hasCompound_of_mapM_error failed
  · rintro ⟨resolved, isEndpoint, field, member, isCompound⟩
    cases mapped : model.endpoints.mapM Binding.ofResolved with
    | error error => exact ⟨error, rfl⟩
    | ok all =>
        -- Fields are handed over once for each name, by the first field of that name.
        obtain ⟨binding, _, bound⟩ := exists_of_mapM_ok mapped isEndpoint
        obtain ⟨first, isFirst, sameName⟩ := exists_mem_distinctFields member
        have isSame : first = field :=
          isTyped.eq_of_name_eq isEndpoint (mem_of_mem_distinctFields isFirst) member sameName
        rcases Binding.ofResolved_cases resolved with ⟨_, _, noCompound⟩ | ⟨_, _, _, refused⟩
        · exact absurd (isSame ▸ isCompound) (noCompound first isFirst)
        · rw [bound] at refused
          cases refused

theorem emittedNames_eq
    {model : TypedModel}
    {all : List Binding}
    (isTyped : IsTyped model)
    (mapped : model.endpoints.mapM Binding.ofResolved = .ok all) :
    (emittedNames (gathered all)).map EmittedName.name = model.endpoints.flatMap namesOf := by
  obtain ⟨restored, distinct⟩ := clients_of_mapM mapped isTyped.guarantees.2
  rw [gathered_of_nodup distinct, ← restored, List.flatMap_map, emittedNames, List.map_flatMap]
  refine List.flatMap_congr fun binding _ => ?_
  rw [List.map_map]
  rfl

/-- A model that was read has no blueprint exactly if a field is compound or names
collide. -/
theorem ofModel_fails_iff
    {model : TypedModel}
    (isTyped : IsTyped model)
    (options : Options) :
    (∃ error, Blueprint.ofModel options model = .error error) ↔
      HasCompound model ∨ NamesCollide model := by
  simp only [Blueprint.ofModel_eq_error_iff isTyped.guarantees.1, exists_or]
  rw [bindings_eq_error_iff isTyped]
  refine or_congr_right' fun noCompound => ?_
  cases mapped : model.endpoints.mapM Binding.ofResolved with
  | error error => exact absurd ((bindings_eq_error_iff isTyped).mp ⟨error, mapped⟩) noCompound
  | ok all =>
      have noneIff := @collision?_eq_none_iff [] (emittedNames (gathered all))
      rw [emittedNames_eq isTyped mapped] at noneIff
      cases collides : collision? [] (emittedNames (gathered all)) with
      | none =>
          have distinct := (noneIff.mp collides).1
          simp [collides, NamesCollide, distinct]
      | some error =>
          have collide : NamesCollide model := fun distinct => by
            simp [noneIff.mpr ⟨distinct, by simp⟩] at collides
          simp [collides, collide]

theorem isGathering_of_ofModel
    {options : Options}
    {model : TypedModel}
    {error : Error}
    (isTyped : IsTyped model)
    (fails : Blueprint.ofModel options model = .error error) :
    error.IsGathering := by
  rcases (Blueprint.ofModel_eq_error_iff isTyped.guarantees.1).mp fails with
    failed | ⟨all, _, collides⟩
  · obtain ⟨resolved, _, refused⟩ := exists_of_mapM_error failed
    rcases Binding.ofResolved_cases resolved with ⟨binding, bound, _⟩ | ⟨_, _, _, compound⟩
    · rw [bound] at refused
      cases refused
    · rw [compound] at refused
      cases refused
      trivial
  · obtain ⟨_, _, _, _, rfl⟩ := collision?_eq_some collides
    trivial

/-! ## Markers in generated files -/

/-- A template expands to a text for a blueprint, whatever markers the text holds. -/
def Expands (template : Text) (blueprint : Blueprint) (text : Text) : Prop :=
  ∃ nodes, readTemplate template = .ok nodes ∧ expandAll false blueprint.context nodes = .ok text

/-- What is said of a marker that is left in a file. -/
def Error.IsMarkerLeft : Error → Prop
  | .rendering ⟨_, .markerLeft _ _ _⟩ => True
  | _ => False

theorem unmarked_of_not_holdsMarker
    {name template layout : Text}
    (noMarker : ¬ HoldsMarker layout) :
    unmarked name template layout = .ok layout :=
  unmarked_eq_ok_iff.mpr ⟨Template.firstMarker?_eq_none_iff.mpr noMarker, rfl⟩

theorem unmarked_of_holdsMarker
    (name template : Text)
    {layout : Text}
    (holdsMarker : HoldsMarker layout) :
    ∃ error, unmarked name template layout = .error error ∧ error.IsMarkerLeft := by
  unfold unmarked
  cases found : Template.firstMarker? 1 layout with
  | none => exact absurd holdsMarker (Template.firstMarker?_eq_none_iff.mp found)
  | some marker => exact ⟨_, rfl, trivial⟩

theorem expands_header (blueprint : Blueprint) (printable : blueprint.options.isPrintable = true) :
    Expands headerTemplate blueprint (headerText blueprint) :=
  ⟨headerNodes, readTemplate_headerTemplate, by rw [expandAll_headerNodes, if_pos printable]⟩

theorem expands_source (blueprint : Blueprint) :
    Expands sourceTemplate blueprint (sourceText blueprint) :=
  ⟨sourceNodes, readTemplate_sourceTemplate, expandAll_sourceNodes blueprint⟩

section Files

variable {options : Options} {model : TypedModel} {blueprint : Blueprint}

theorem headerOutcome_of_isPrintable
    (gathers : Blueprint.ofModel options model = .ok blueprint)
    (printable : options.isPrintable = true) :
    headerOutcome blueprint =
      unmarked headerTemplateName headerTemplate (headerText blueprint) := by
  rw [headerOutcome, (Blueprint.bindings_inOrder gathers).2.1, if_pos printable]

variable (holds : options.fault? = none)
include holds

theorem generate_of_ofModel_error
    {error : Error}
    (fails : Blueprint.ofModel options model = .error error) :
    generate bundledFolder [] options model = .error error := by
  rw [generate_bundledFolder, holds, fails]
  rfl

variable (gathers : Blueprint.ofModel options model = .ok blueprint)
include gathers

/-- A number that cannot be printed is reported before any file is laid out. -/
theorem generate_of_not_isPrintable (unprintable : options.isPrintable = false) :
    generate bundledFolder [] options model = .error longNumberError := by
  have header : headerOutcome blueprint = .error longNumberError := by
    rw [headerOutcome, (Blueprint.bindings_inOrder gathers).2.1, unprintable]
    rfl
  rw [generate_bundledFolder, holds, gathers]
  simp only [Template.ok_bind, header, Template.error_bind]

variable (printable : options.isPrintable = true)
include printable

/-- Both files are generated as they are laid out if they hold no marker. -/
theorem generate_of_not_holdsMarker
    (headerFree : ¬ HoldsMarker (headerText blueprint))
    (sourceFree : ¬ HoldsMarker (sourceText blueprint)) :
    generate bundledFolder [] options model = .ok (layoutSources blueprint) := by
  rw [generate_bundledFolder, holds, gathers]
  simp only [Template.ok_bind, headerOutcome_of_isPrintable gathers printable,
    unmarked_of_not_holdsMarker headerFree, unmarked_of_not_holdsMarker sourceFree]

/-- A marker in one of the files is reported. -/
theorem generate_of_holdsMarker
    (marked : HoldsMarker (headerText blueprint) ∨ HoldsMarker (sourceText blueprint)) :
    ∃ error, generate bundledFolder [] options model = .error error ∧ error.IsMarkerLeft := by
  rw [generate_bundledFolder, holds, gathers]
  by_cases inHeader : HoldsMarker (headerText blueprint)
  · obtain ⟨error, refused, isMarkerLeft⟩ :=
      unmarked_of_holdsMarker headerTemplateName headerTemplate inHeader
    refine ⟨error, ?_, isMarkerLeft⟩
    simp only [Template.ok_bind, headerOutcome_of_isPrintable gathers printable, refused,
      Template.error_bind]
  · obtain ⟨error, refused, isMarkerLeft⟩ :=
      unmarked_of_holdsMarker sourceTemplateName sourceTemplate (marked.resolve_left inHeader)
    refine ⟨error, ?_, isMarkerLeft⟩
    simp only [Template.ok_bind, headerOutcome_of_isPrintable gathers printable,
      unmarked_of_not_holdsMarker inHeader, refused, Template.error_bind]

end Files

/-! ## All outcomes -/

/-- All texts that generation gives. -/
def Sources.texts (sources : Sources) : List Text :=
  [sources.className, sources.headerName, sources.header, sources.sourceName, sources.source]

/-- The files of a blueprint that prints no dollar sign have none, nor have their names. -/
theorem dollar_notMem_layoutSources {blueprint : Blueprint} (isPlain : blueprint.IsPlain) :
    ∀ text ∈ (layoutSources blueprint).texts, '$' ∉ text := by
  have headerPlain : '$' ∉ blueprint.headerFile := by
    unfold Blueprint.headerFile
    repeat rw [String.toList_ofList]
    simp [isPlain.className]
  have sourcePlain : '$' ∉ blueprint.sourceFile := by
    unfold Blueprint.sourceFile
    repeat rw [String.toList_ofList]
    simp [isPlain.className]
  simp [Sources.texts, layoutSources, isPlain.className, headerPlain, sourcePlain,
    dollar_notMem_headerText isPlain, dollar_notMem_sourceText isPlain]

theorem not_holdsMarker_layoutSources {blueprint : Blueprint} (isPlain : blueprint.IsPlain) :
    ∀ text ∈ (layoutSources blueprint).texts, ¬ HoldsMarker text := fun text member =>
  Template.not_holdsMarker_of_notMem (dollar_notMem_layoutSources isPlain text member)

/-- A model without dollar signs that has a blueprint is generated as it is laid out, if the
settings can be printed. -/
theorem generate_of_isPlain
    {options : Options}
    {model : TypedModel}
    {blueprint : Blueprint}
    (isPlain : model.IsPlain)
    (holds : options.fault? = none)
    (printable : options.isPrintable = true)
    (gathers : Blueprint.ofModel options model = .ok blueprint) :
    generate bundledFolder [] options model = .ok (layoutSources blueprint) := by
  have noMarker := not_holdsMarker_layoutSources
    (Blueprint.isPlain_of_ofModel isPlain holds gathers)
  refine generate_of_not_holdsMarker holds gathers printable (noMarker _ ?_) (noMarker _ ?_) <;>
    simp [Sources.texts, layoutSources]

theorem generate_error_cases
    {options : Options}
    {model : TypedModel}
    {error : Error}
    (isTyped : IsTyped model)
    (fails : generate bundledFolder [] options model = .error error) :
    (∃ fault, options.fault? = some fault ∧ error = .badOptions fault) ∨
      options.fault? = none ∧
        (error.IsGathering ∨ error.IsMarkerLeft ∨
          (∃ blueprint, Blueprint.ofModel options model = .ok blueprint) ∧
            options.isPrintable = false ∧ error = longNumberError) := by
  cases holds : options.fault? with
  | some fault =>
      rw [generate_bundledFolder, holds] at fails
      exact .inl ⟨fault, rfl, (Except.error.inj fails).symm⟩
  | none =>
      refine .inr ⟨rfl, ?_⟩
      cases gathers : Blueprint.ofModel options model with
      | error earlier =>
          rw [generate_of_ofModel_error holds gathers] at fails
          obtain rfl := Except.error.inj fails
          exact .inl (isGathering_of_ofModel isTyped gathers)
      | ok blueprint =>
          cases printable : options.isPrintable with
          | false =>
              rw [generate_of_not_isPrintable holds gathers printable] at fails
              exact .inr (.inr ⟨⟨blueprint, rfl⟩, rfl, (Except.error.inj fails).symm⟩)
          | true =>
              by_cases marked :
                  HoldsMarker (headerText blueprint) ∨ HoldsMarker (sourceText blueprint)
              · obtain ⟨left, generates, isMarkerLeft⟩ :=
                  generate_of_holdsMarker holds gathers printable marked
                rw [generates] at fails
                obtain rfl := Except.error.inj fails
                exact .inr (.inl isMarkerLeft)
              · rw [not_or] at marked
                rw [generate_of_not_holdsMarker holds gathers printable marked.1 marked.2] at fails
                cases fails

/-- What is said of gathering and of markers is said of a place. -/
theorem hasPlace_of_isGathering {error : Error} (isGathering : error.IsGathering) :
    error.hasPlace = true := by
  cases error <;> first | rfl | cases isGathering

theorem hasPlace_of_isMarkerLeft {error : Error} (isMarkerLeft : error.IsMarkerLeft) :
    error.hasPlace = true := by
  unfold Error.IsMarkerLeft at isMarkerLeft
  split at isMarkerLeft
  · rfl
  · cases isMarkerLeft

/-- Generation breaks off without a place exactly if the settings are refused, or the model
has a blueprint but a number among the settings cannot be printed. -/
theorem generate_placeless_iff
    {model : TypedModel}
    (isTyped : IsTyped model)
    (options : Options) :
    (∃ error, generate bundledFolder [] options model = .error error ∧ error.hasPlace = false) ↔
      (∃ fault, options.fault? = some fault) ∨
        ¬ HasCompound model ∧ ¬ NamesCollide model ∧ options.isPrintable = false := by
  have gathersIff := ofModel_fails_iff isTyped options
  constructor
  · rintro ⟨error, fails, placeless⟩
    rcases generate_error_cases isTyped fails with
      ⟨fault, refused, _⟩ | ⟨_, gathering | marked | ⟨⟨blueprint, gathers⟩, unprintable, _⟩⟩
    · exact .inl ⟨fault, refused⟩
    · rw [hasPlace_of_isGathering gathering] at placeless
      cases placeless
    · rw [hasPlace_of_isMarkerLeft marked] at placeless
      cases placeless
    · have noFault : ¬ (HasCompound model ∨ NamesCollide model) := fun lacks => by
        obtain ⟨error, fails⟩ := gathersIff.mpr lacks
        rw [gathers] at fails
        cases fails
      exact .inr ⟨fun compound => noFault (.inl compound), fun collide => noFault (.inr collide),
        unprintable⟩
  · rintro (⟨fault, refused⟩ | ⟨noCompound, distinct, unprintable⟩)
    · exact ⟨.badOptions fault, by rw [generate_bundledFolder, refused], rfl⟩
    · cases holds : options.fault? with
      | some fault => exact ⟨.badOptions fault, by rw [generate_bundledFolder, holds], rfl⟩
      | none =>
          cases gathers : Blueprint.ofModel options model with
          | error error => exact absurd (gathersIff.mp ⟨error, gathers⟩) (by simp [*])
          | ok blueprint =>
              exact ⟨_, generate_of_not_isPrintable holds gathers unprintable, rfl⟩

/-- Generation for a model that was read and typed reports refused settings. With settings
that hold there is no blueprint exactly if a field is compound or names collide, which is
then reported. With a blueprint and settings that can be printed both templates expand, and
the outcome is what they expand to or the report of a marker in it; a model without dollar
signs leaves no marker. Settings that hold but cannot be printed end generation with an
error that has no place, as refused settings do. No other error occurs. -/
theorem generate_outcomes
    {model : TypedModel}
    (isTyped : IsTyped model)
    (options : Options) :
    ((∃ error, generate bundledFolder [] options model = .error error ∧ error.hasPlace = false) ↔
      (∃ fault, options.fault? = some fault) ∨
        ¬ HasCompound model ∧ ¬ NamesCollide model ∧ options.isPrintable = false) ∧
    (∀ fault, generate bundledFolder [] options model = .error (.badOptions fault) ↔
      options.fault? = some fault) ∧
    (options.fault? = none →
      ((∃ error, Blueprint.ofModel options model = .error error) ↔
        HasCompound model ∨ NamesCollide model) ∧
      (∀ error, Blueprint.ofModel options model = .error error →
        error.IsGathering ∧ generate bundledFolder [] options model = .error error) ∧
      (∀ blueprint, Blueprint.ofModel options model = .ok blueprint →
        (options.isPrintable = false →
          generate bundledFolder [] options model = .error longNumberError) ∧
        (options.isPrintable = true →
          ∃ header source,
            Expands headerTemplate blueprint header ∧
            Expands sourceTemplate blueprint source ∧
            (generate bundledFolder [] options model =
                .ok ⟨blueprint.className, blueprint.headerFile, header, blueprint.sourceFile,
                  source⟩ ∨
              ∃ error,
                generate bundledFolder [] options model = .error error ∧ error.IsMarkerLeft) ∧
            ((∃ error,
                generate bundledFolder [] options model = .error error ∧ error.IsMarkerLeft) ↔
              HoldsMarker header ∨ HoldsMarker source))) ∧
      (model.IsPlain → ¬ HasCompound model → ¬ NamesCollide model → options.isPrintable = true →
        ∃ sources, generate bundledFolder [] options model = .ok sources ∧
          ∀ text ∈ sources.texts, ¬ HoldsMarker text)) ∧
    ∀ error, generate bundledFolder [] options model = .error error →
      (∃ fault, error = .badOptions fault) ∨ error.IsGathering ∨ error.IsMarkerLeft ∨
        options.isPrintable = false ∧ error = longNumberError := by
  refine ⟨generate_placeless_iff isTyped options,
    fun fault => ⟨fun fails => ?_, fun refused => ?_⟩,
    fun holds => ⟨ofModel_fails_iff isTyped options, fun error fails => ?_,
      fun blueprint gathers => ⟨generate_of_not_isPrintable holds gathers, fun printable => ?_⟩,
      fun isPlain noCompound distinct printable => ?_⟩,
    fun error fails => ?_⟩
  · rcases generate_error_cases isTyped fails with
      ⟨_, refused, isFault⟩ | ⟨_, gathering | marked | ⟨_, _, isLong⟩⟩
    · cases isFault
      exact refused
    · cases gathering
    · cases marked
    · cases isLong
  · rw [generate_bundledFolder, refused]
  · exact ⟨isGathering_of_ofModel isTyped fails, generate_of_ofModel_error holds fails⟩
  · have expands := expands_header blueprint
      ((Blueprint.bindings_inOrder gathers).2.1 ▸ printable)
    refine ⟨_, _, expands, expands_source blueprint, ?_⟩
    by_cases marked : HoldsMarker (headerText blueprint) ∨ HoldsMarker (sourceText blueprint)
    · have reported := generate_of_holdsMarker holds gathers printable marked
      exact ⟨.inr reported, iff_of_true reported marked⟩
    · obtain ⟨headerFree, sourceFree⟩ := not_or.mp marked
      have generates := generate_of_not_holdsMarker holds gathers printable headerFree sourceFree
      refine ⟨.inl generates, iff_of_false ?_ marked⟩
      rintro ⟨error, fails, _⟩
      rw [generates] at fails
      cases fails
  · cases gathers : Blueprint.ofModel options model with
    | error error =>
        exact absurd ((ofModel_fails_iff isTyped options).mp ⟨error, gathers⟩)
          (not_or.mpr ⟨noCompound, distinct⟩)
    | ok blueprint =>
        exact ⟨layoutSources blueprint, generate_of_isPlain isPlain holds printable gathers,
          not_holdsMarker_layoutSources (Blueprint.isPlain_of_ofModel isPlain holds gathers)⟩
  · rcases generate_error_cases isTyped fails with
      ⟨fault, _, isFault⟩ | ⟨_, gathering | marked | ⟨_, unprintable, isLong⟩⟩
    · exact .inl ⟨fault, isFault⟩
    · exact .inr (.inl gathering)
    · exact .inr (.inr (.inl marked))
    · exact .inr (.inr (.inr ⟨unprintable, isLong⟩))

/-- A skill that listens to a door. -/
def doorChart : Text :=
  "<scxml name='Door'><ros_topic_subscriber name='door' topic='/d' type='m/D'/>" ++
    "<state id='a'><ros_topic_callback name='door' target='a'>" ++
    "<assign location='m_o' expr='_msg.o'/></ros_topic_callback></state></scxml>"

/-- What is read of it. -/
def doorModel : Statechart.RawModel where
  name := "Door"
  source := "door.scxml"
  initial := "a"
  datamodel := []
  states := [⟨"a", none, false, []⟩]
  endpoints :=
    [{ nodeName := "door_skill", clientName := "door", kind := .topic, rosName := "/d",
       key := ⟨"m", "D"⟩, assignments := [⟨"o", "m_o"⟩], assignedFields := ["o"],
       handlerTargets := ["a"] }]

theorem isTyped_doorModel : IsTyped (Statechart.resolve doorModel Interface.Catalog.empty) :=
  ⟨doorModel, _, .inl ⟨"door.scxml", doorChart, .none, by decide +kernel⟩, rfl⟩

theorem isPlain_doorModel : (Statechart.resolve doorModel Interface.Catalog.empty).IsPlain := by
  have endpoints : ∀ resolved ∈
      (Statechart.resolve doorModel Interface.Catalog.empty).endpoints, resolved.IsPlain := by
    intro resolved member
    obtain rfl := List.mem_singleton.mp member
    exact ⟨by decide +kernel, by decide +kernel, by decide +kernel, by decide +kernel,
      by decide +kernel⟩
  exact ⟨by decide +kernel, by decide +kernel, by decide +kernel, endpoints⟩

theorem noCompound_doorModel :
    ¬ HasCompound (Statechart.resolve doorModel Interface.Catalog.empty) := by
  unfold HasCompound
  decide +kernel

theorem namesDiffer_doorModel :
    ¬ NamesCollide (Statechart.resolve doorModel Interface.Catalog.empty) := by
  unfold NamesCollide
  decide +kernel

/-- The door skill has no dollar sign, so both of its files are generated. -/
theorem generate_outcomes_door :
    IsTyped (Statechart.resolve doorModel Interface.Catalog.empty) ∧
      ∃ sources,
        generate bundledFolder [] {} (Statechart.resolve doorModel Interface.Catalog.empty) =
          .ok sources ∧
        ∀ text ∈ sources.texts, ¬ HoldsMarker text :=
  ⟨isTyped_doorModel, ((generate_outcomes isTyped_doorModel {}).2.2.1 rfl).2.2.2
    isPlain_doorModel noCompound_doorModel namesDiffer_doorModel Options.isPrintable_default⟩

/-- With a timeout of 4301 digits the settings hold and the door skill has a blueprint without
a dollar sign, and yet generation ends with an error that has no place. -/
theorem generate_doorWithLongTimeout :
    IsTyped (Statechart.resolve doorModel Interface.Catalog.empty) ∧
      (Statechart.resolve doorModel Interface.Catalog.empty).IsPlain ∧
      ({ serviceWaitTimeoutMs := 10 ^ 4300 } : Options).fault? = none ∧
      (∃ blueprint, Blueprint.ofModel { serviceWaitTimeoutMs := 10 ^ 4300 }
        (Statechart.resolve doorModel Interface.Catalog.empty) = .ok blueprint) ∧
      generate bundledFolder [] { serviceWaitTimeoutMs := 10 ^ 4300 }
          (Statechart.resolve doorModel Interface.Catalog.empty) = .error longNumberError ∧
      longNumberError.hasPlace = false := by
  have holds : ({ serviceWaitTimeoutMs := 10 ^ 4300 } : Options).fault? = none := by
    decide +kernel
  have unprintable : ({ serviceWaitTimeoutMs := 10 ^ 4300 } : Options).isPrintable = false := by
    decide +kernel
  cases gathers : Blueprint.ofModel { serviceWaitTimeoutMs := 10 ^ 4300 }
      (Statechart.resolve doorModel Interface.Catalog.empty) with
  | error error =>
      exact absurd ((ofModel_fails_iff isTyped_doorModel _).mp ⟨error, gathers⟩)
        (not_or.mpr ⟨noCompound_doorModel, namesDiffer_doorModel⟩)
  | ok blueprint =>
      exact ⟨isTyped_doorModel, isPlain_doorModel, holds, ⟨blueprint, rfl⟩,
        generate_of_not_isPrintable holds gathers unprintable, rfl⟩

/-- The class may be given the name of the method that is called when the door is heard of. -/
example :
    (Blueprint.ofModel { className? := some "onDoorMessage" }
        (Statechart.resolve doorModel Interface.Catalog.empty)).toOption.map
      (fun blueprint => (blueprint.className, blueprint.bindings.map Binding.callbackMethod)) =
        some (("onDoorMessage" : Text), [("onDoorMessage" : Text)]) := by
  decide +kernel

end Generation
end SkillNode
