import SkillNode.Generation.Binding
import SkillNode.Generation.FileHeader
import SkillNode.FileTree.Path
import SkillNode.Sorted

/-!
# Blueprints

A blueprint gathers what the templates are told about a skill: the names of its
class, node and files, its settings, and the bindings of its endpoints.

A blueprint exists if the class has a name, every endpoint has a binding, and no
generated name is taken twice.
-/

namespace SkillNode
namespace Generation

open Statechart (TypedModel ResolvedEndpoint)

/-- What the templates are told about a skill. -/
structure Blueprint where
  model : TypedModel
  options : Options
  className : Text
  nodeName : Text
  bindings : List Binding
  services : List Binding
  topics : List Binding
  deriving DecidableEq, Repr

/-- Put a binding, in place if there is one of its client. -/
def putBinding (new : Binding) : List Binding → List Binding
  | [] => [new]
  | binding :: rest =>
      if binding.clientName = new.clientName then new :: rest else binding :: putBinding new rest

/-- The bindings of some endpoints that belong to clients of bindings. -/
def bindingsFor (bindings : List Binding) (endpoints : List ResolvedEndpoint) : List Binding :=
  endpoints.filterMap fun resolved =>
    bindings.find? (·.clientName = resolved.endpoint.clientName)

/-- The class of a skill: the one set, unless it is empty, or else the derived one. -/
def chooseClassName (options : Options) (skillName : Text) : Except Error Text :=
  match options.className? with
  | some (c :: rest) => .ok (c :: rest)
  | _ =>
      match Naming.className? skillName with
      | some derived => .ok derived
      | none => .error (.unusableName skillName)

/-- The blueprint of a model. Of several faults that of the class name comes first,
then that of a field, then that of two equal names. -/
def Blueprint.ofModel (options : Options) (model : TypedModel) : Except Error Blueprint := do
  let className ← chooseClassName options model.name
  let all ← model.endpoints.mapM Binding.ofResolved
  let bindings := all.foldl (fun bindings binding => putBinding binding bindings) []
  match collision? [] (emittedNames bindings) with
  | some error => throw error
  | none =>
      match Naming.className? model.name with
      | none => throw (.unusableName model.name)
      | some derived =>
          return {
            model := model
            options := options
            className := className
            nodeName := Naming.snakeCase derived
            bindings := bindings
            services := bindingsFor bindings model.services
            topics := bindingsFor bindings model.topics }

namespace Blueprint

/-- The name of the header file. -/
def headerFile (blueprint : Blueprint) : Text := blueprint.className ++ ".h"

/-- The name of the source file. -/
def sourceFile (blueprint : Blueprint) : Text := blueprint.className ++ ".cpp"

/-- The name of the header file of the state machine. -/
def stateMachineHeader (blueprint : Blueprint) : Text := blueprint.className ++ "SM.h"

/-- The symbol that guards the header against being included twice. -/
def headerGuard (blueprint : Blueprint) : Text :=
  Text.upper (Naming.identifier blueprint.className) ++ "_H"

/-- The comment at the top of both files. -/
def fileHeader (blueprint : Blueprint) : Text :=
  Generation.fileHeader (FileTree.Path.ofText blueprint.model.source).name lineComment

/-- The include files of all interfaces, in order and each once. -/
def includes (blueprint : Blueprint) : List Text :=
  Sorted.ofList (blueprint.bindings.map Binding.includePath)

end Blueprint

end Generation
end SkillNode
