import SkillNode.Statechart.Loading
import Mathlib.Data.List.Forall2

/-!
# Types of resolved fields

A field of an endpoint is typed by the first field of its name that the interface delivers,
or else by the first variable called after it, or else as a string. A field or variable that
is found first but has an unknown type counts as none; no later one is looked for.

The main statement says this of every field of a resolution, which leaves the rest of a model
as it is, never fails, and whose log is told by the typed fields: one warning for every field
that is a string for want of a type.
-/

namespace SkillNode
namespace Statechart

open Interface (Catalog FieldType Field)

/-! ## First items of a name -/

/-- An item is the first one of a list that has a name. -/
def IsFirstNamed {Item : Type} (nameOf : Item → Text) (items : List Item) (name : Text)
    (item : Item) : Prop :=
  ∃ before after, items = before ++ item :: after ∧ nameOf item = name ∧
    ∀ earlier ∈ before, nameOf earlier ≠ name

theorem isFirstNamed_iff
    {Item : Type}
    {nameOf : Item → Text}
    {items : List Item}
    {name : Text}
    {item : Item} :
    IsFirstNamed nameOf items name item ↔ items.find? (nameOf · = name) = some item := by
  rw [List.find?_eq_some_iff_append]
  unfold IsFirstNamed
  constructor
  · rintro ⟨before, after, split, isNamed, othersDiffer⟩
    exact ⟨decide_eq_true isNamed, before, after, split, fun earlier member => by
      simpa using othersDiffer earlier member⟩
  · rintro ⟨isNamed, before, after, split, othersDiffer⟩
    exact ⟨before, after, split, of_decide_eq_true isNamed, fun earlier member => by
      simpa using othersDiffer earlier member⟩

/-! ## Types of fields -/

/-- The catalog declares a field of what an endpoint receives with a known type. -/
def IsCatalogued (catalog : Catalog) (endpoint : Endpoint) (field : Text) (type : FieldType) :
    Prop :=
  ∃ declared, IsFirstNamed Field.name (catalog.fields endpoint.key endpoint.kind.delivered) field
    declared ∧ declared.fieldType? = some type

/-- The datamodel declares the variable called after a field with a known type. -/
def HasNamesake (model : RawModel) (field : Text) (type : FieldType) : Prop :=
  ∃ declared, IsFirstNamed Variable.id model.datamodel (Naming.variableOfField field) declared ∧
    declared.fieldType? = some type

/-- The type of a field of an endpoint and where it comes from. -/
inductive IsTypeOf (model : RawModel) (catalog : Catalog) (endpoint : Endpoint) (field : Text) :
    FieldType → TypeSource → Prop
  | catalogued {type : FieldType} :
      IsCatalogued catalog endpoint field type →
        IsTypeOf model catalog endpoint field type .catalog
  | namesake {type : FieldType} :
      (∀ type, ¬ IsCatalogued catalog endpoint field type) → HasNamesake model field type →
        IsTypeOf model catalog endpoint field type .datamodel
  | string :
      (∀ type, ¬ IsCatalogued catalog endpoint field type) →
        (∀ type, ¬ HasNamesake model field type) →
          IsTypeOf model catalog endpoint field .string .default

theorem isCatalogued_iff
    {catalog : Catalog}
    {endpoint : Endpoint}
    {field : Text}
    {type : FieldType} :
    IsCatalogued catalog endpoint field type ↔
      catalog.fieldType? endpoint.key field endpoint.kind.delivered = some type := by
  simp only [IsCatalogued, isFirstNamed_iff, Catalog.fieldType?]
  cases (catalog.fields endpoint.key endpoint.kind.delivered).find? (·.name = field) <;> simp

theorem hasNamesake_iff {model : RawModel} {field : Text} {type : FieldType} :
    HasNamesake model field type ↔
      (model.variableNamed? (Naming.variableOfField field)).bind Variable.fieldType? =
        some type := by
  simp only [HasNamesake, isFirstNamed_iff, Model.variableNamed?, Option.bind_eq_some_iff]

/-- A field has one type, from one source. -/
theorem IsTypeOf.unique
    {model : RawModel}
    {catalog : Catalog}
    {endpoint : Endpoint}
    {field : Text}
    {type other : FieldType}
    {source otherSource : TypeSource}
    (isType : IsTypeOf model catalog endpoint field type source)
    (isOther : IsTypeOf model catalog endpoint field other otherSource) :
    type = other ∧ source = otherSource := by
  cases isType with
  | catalogued declared =>
      cases isOther with
      | catalogued otherDeclared =>
          rw [isCatalogued_iff] at declared otherDeclared
          exact ⟨Option.some.inj (declared.symm.trans otherDeclared), rfl⟩
      | namesake notCatalogued | string notCatalogued => exact absurd declared (notCatalogued _)
  | namesake notCatalogued declared =>
      cases isOther with
      | catalogued otherDeclared => exact absurd otherDeclared (notCatalogued _)
      | namesake _ otherDeclared =>
          rw [hasNamesake_iff] at declared otherDeclared
          exact ⟨Option.some.inj (declared.symm.trans otherDeclared), rfl⟩
      | string _ noNamesake => exact absurd declared (noNamesake _)
  | string notCatalogued noNamesake =>
      cases isOther with
      | catalogued otherDeclared => exact absurd otherDeclared (notCatalogued _)
      | namesake _ otherDeclared => exact absurd otherDeclared (noNamesake _)
      | string => exact ⟨rfl, rfl⟩

/-! ## Resolved fields -/

/-- A field is typed: under its name and with the variable that it is assigned to, or else
the one called after it. -/
structure IsTypedField
    (model : RawModel)
    (catalog : Catalog)
    (endpoint : Endpoint)
    (field : Text)
    (resolved : ResolvedField) : Prop where
  name : resolved.name = field
  location : resolved.location =
    (endpoint.locationOf? field).getD (Naming.variableOfField field)
  typed : ∀ type source, IsTypeOf model catalog endpoint field type source ↔
    type = resolved.type ∧ source = resolved.source

/-- The records about a typed field: one if its type is not that of the catalog, which is a
warning if there was no type. -/
def fieldRecords (source : Text) (endpoint : Endpoint) (resolved : ResolvedField) : Log :=
  match resolved.source with
  | .catalog => []
  | .datamodel =>
      [.debug (source ++ ": type of '" ++ endpoint.clientName ++ "." ++ resolved.name ++
        "' taken from datamodel variable '" ++ Naming.variableOfField resolved.name ++ "'")]
  | .default =>
      [.warning (source ++ ": cannot resolve type of field '" ++ resolved.name ++ "' of " ++
        endpoint.interfaceId ++ " (" ++ endpoint.clientName ++ "), assuming string")]

/-- An endpoint is annotated: it has its assigned fields with types in their order, and for a
service the names of the fields of the request. -/
structure IsAnnotated
    (model : RawModel)
    (catalog : Catalog)
    (endpoint : Endpoint)
    (resolved : ResolvedEndpoint) : Prop where
  unchanged : resolved.endpoint = endpoint
  fields : List.Forall₂ (IsTypedField model catalog endpoint) endpoint.assignedFields
    resolved.resolvedFields
  request : resolved.requestFields =
    if endpoint.isService then (catalog.fields endpoint.key .request).map Field.name else []

section Resolution

variable (model : RawModel) (catalog : Catalog) (endpoint : Endpoint)

/-- A field is resolved to its type. -/
theorem isTypeOf_resolveType (field : Text) :
    IsTypeOf model catalog endpoint field (resolveType model catalog endpoint field).1
      (resolveType model catalog endpoint field).2.1 := by
  unfold resolveType
  cases isCatalogued : catalog.fieldType? endpoint.key field endpoint.kind.delivered with
  | some type => exact .catalogued (isCatalogued_iff.mpr isCatalogued)
  | none =>
      have notCatalogued : ∀ type, ¬ IsCatalogued catalog endpoint field type := by
        intro type declared
        rw [isCatalogued_iff, isCatalogued] at declared
        cases declared
      dsimp only
      cases hasNamesake :
          (model.variableNamed? (Naming.variableOfField field)).bind Variable.fieldType? with
      | some type => exact .namesake notCatalogued (hasNamesake_iff.mpr hasNamesake)
      | none =>
          refine .string notCatalogued fun type declared => ?_
          rw [hasNamesake_iff, hasNamesake] at declared
          cases declared

theorem isTypedField_resolveField (field : Text) :
    IsTypedField model catalog endpoint field (resolveField model catalog endpoint field) where
  name := rfl
  location := rfl
  typed _ _ :=
    ⟨fun isType => isType.unique (isTypeOf_resolveType model catalog endpoint field),
      fun ⟨sameType, sameSource⟩ =>
        sameType ▸ sameSource ▸ isTypeOf_resolveType model catalog endpoint field⟩

/-- The records about a field are told by what it is resolved to. -/
theorem records_resolveField (field : Text) :
    (resolveType model catalog endpoint field).2.2 =
      fieldRecords model.source endpoint (resolveField model catalog endpoint field) := by
  unfold fieldRecords resolveField resolveType
  cases catalog.fieldType? endpoint.key field endpoint.kind.delivered with
  | some type => rfl
  | none =>
      dsimp only
      cases (model.variableNamed? (Naming.variableOfField field)).bind Variable.fieldType? <;> rfl

theorem isAnnotated_resolveEndpoint :
    IsAnnotated model catalog endpoint (resolveEndpoint model catalog endpoint) where
  unchanged := rfl
  fields := List.forall₂_map_right_iff.mpr
    (List.forall₂_same.mpr fun field _ => isTypedField_resolveField model catalog endpoint field)
  request := rfl

theorem endpointLog_eq :
    endpointLog model catalog endpoint =
      interfaceWarnings model catalog endpoint ++
        (resolveEndpoint model catalog endpoint).resolvedFields.flatMap
          (fieldRecords model.source endpoint) := by
  unfold endpointLog resolveEndpoint
  dsimp only
  rw [List.flatMap_map]
  exact congrArg _ (List.flatMap_congr fun field _ =>
    records_resolveField model catalog endpoint field)

end Resolution

/-- Resolution only annotates. It never fails and leaves a model as it is but for the types:
every endpoint keeps its place and gets its assigned fields with their types, and the names
of the fields of its request. The log is told by the endpoints: a warning for an interface
that the catalog lacks, and a record for every field without a type in the catalog. -/
theorem typed_annotates (catalog : Catalog) (model : RawModel) :
    ∃ result, (typed catalog model).outcome = .ok result ∧ result.untyped = model ∧
      List.Forall₂ (IsAnnotated model catalog) model.endpoints result.endpoints ∧
      (typed catalog model).log = result.endpoints.flatMap fun resolved =>
        interfaceWarnings model catalog resolved.endpoint ++
          resolved.resolvedFields.flatMap (fieldRecords model.source resolved.endpoint) := by
  refine ⟨resolve model catalog, rfl, untyped_resolve model catalog, ?_, ?_⟩
  · exact List.forall₂_map_right_iff.mpr (List.forall₂_same.mpr fun endpoint _ =>
      isAnnotated_resolveEndpoint model catalog endpoint)
  · change model.endpoints.flatMap (endpointLog model catalog) =
      (model.endpoints.map (resolveEndpoint model catalog)).flatMap _
    rw [List.flatMap_map]
    exact List.flatMap_congr fun endpoint _ => endpointLog_eq model catalog endpoint

end Statechart
end SkillNode
