import SkillNode.Statechart.Model

/-!
# Resolution of field types

Every assigned field of an endpoint gets a type: that which the catalog declares
for it, else that of the datamodel variable called after it, else string. The
log tells of the second and warns of the third and of interfaces that the
catalog lacks.

Resolution never fails and leaves the endpoints themselves as they are; the main
statement says so.
-/

namespace SkillNode
namespace Statechart

open Interface (Catalog)

/-- The type of a field, where it came from, and the records about it. -/
def resolveType (model : RawModel) (catalog : Catalog) (endpoint : Endpoint) (field : Text) :
    Interface.FieldType × TypeSource × Log :=
  match catalog.fieldType? endpoint.key field endpoint.kind.delivered with
  | some type => (type, .catalog, [])
  | none =>
      let namesake := model.variableNamed? (Naming.variableOfField field)
      match namesake.bind Variable.fieldType? with
      | some type =>
          (type, .datamodel,
            [.debug (model.source ++ ": type of '" ++ endpoint.clientName ++ "." ++ field ++
              "' taken from datamodel variable '" ++ Naming.variableOfField field ++ "'")])
      | none =>
          (.string, .default,
            [.warning (model.source ++ ": cannot resolve type of field '" ++ field ++ "' of " ++
              endpoint.interfaceId ++ " (" ++ endpoint.clientName ++ "), assuming string")])

/-- An assigned field with its type. -/
def resolveField (model : RawModel) (catalog : Catalog) (endpoint : Endpoint) (field : Text) :
    ResolvedField :=
  let (type, source, _) := resolveType model catalog endpoint field
  ⟨field, (endpoint.locationOf? field).getD (Naming.variableOfField field), type, source⟩

/-- The warning about an endpoint whose interface the catalog lacks. -/
def interfaceWarnings (model : RawModel) (catalog : Catalog) (endpoint : Endpoint) : Log :=
  if catalog.contains endpoint.key then
    []
  else
    [.warning (model.source ++ ": interface " ++ endpoint.interfaceId ++ " (used by '" ++
      endpoint.clientName ++ "') not found in catalog")]

/-- An endpoint with the types of its fields. -/
def resolveEndpoint (model : RawModel) (catalog : Catalog) (endpoint : Endpoint) :
    ResolvedEndpoint where
  endpoint := endpoint
  resolvedFields := endpoint.assignedFields.map (resolveField model catalog endpoint)
  requestFields :=
    if endpoint.isService then
      (catalog.fields endpoint.key .request).map Interface.Field.name
    else
      []

/-- The records about an endpoint. -/
def endpointLog (model : RawModel) (catalog : Catalog) (endpoint : Endpoint) : Log :=
  interfaceWarnings model catalog endpoint ++
    endpoint.assignedFields.flatMap fun field =>
      (resolveType model catalog endpoint field).2.2

/-- A model with the types of all assigned fields. -/
def resolve (model : RawModel) (catalog : Catalog) : TypedModel where
  name := model.name
  source := model.source
  initial := model.initial
  datamodel := model.datamodel
  states := model.states
  endpoints := model.endpoints.map (resolveEndpoint model catalog)

/-- The records that resolution makes. -/
def resolutionLog (model : RawModel) (catalog : Catalog) : Log :=
  model.endpoints.flatMap (endpointLog model catalog)

/-- A typed model without the types. -/
def Model.untyped (model : TypedModel) : RawModel where
  name := model.name
  source := model.source
  initial := model.initial
  datamodel := model.datamodel
  states := model.states
  endpoints := model.endpoints.map ResolvedEndpoint.endpoint

/-- Resolution adds types and changes nothing else. -/
@[simp] theorem untyped_resolve (model : RawModel) (catalog : Catalog) :
    (resolve model catalog).untyped = model := by
  obtain ⟨name, source, initial, datamodel, states, endpoints⟩ := model
  simp [resolve, Model.untyped, Function.comp_def, resolveEndpoint]

/-- The endpoints stay as they are, in their order. -/
theorem endpoints_resolve (model : RawModel) (catalog : Catalog) :
    (resolve model catalog).endpoints.map ResolvedEndpoint.endpoint = model.endpoints :=
  congrArg Model.endpoints (untyped_resolve model catalog)

theorem clients_resolve (model : RawModel) (catalog : Catalog) :
    (resolve model catalog).endpoints.map (·.endpoint.clientName) =
      model.endpoints.map Endpoint.clientName := by
  rw [← congrArg (List.map Endpoint.clientName) (endpoints_resolve model catalog), List.map_map]
  rfl

end Statechart
end SkillNode
