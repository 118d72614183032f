import SkillNode.Generation.Blueprint
import SkillNode.Proofs.DistinctKeys
import SkillNode.Proofs.MappedOutcomes
import Mathlib.Data.List.Nodup

/-!
# Gathering blueprints

A blueprint is gathered from the bindings of all endpoints. An endpoint has none
exactly if one of its fields cannot be handed over, and a collision of generated names
is found exactly if there is one.

Services and topics keep the order of their declarations. Where client names are
distinct, every endpoint keeps a binding of its own, and is a service or a topic.
-/

namespace SkillNode
namespace Generation

open Statechart (TypedModel ResolvedEndpoint ResolvedField)

/-! ## Fields -/

theorem mem_of_mem_distinctFields
    {fields : List ResolvedField}
    {field : ResolvedField}
    (member : field ∈ distinctFields fields) :
    field ∈ fields := by
  induction fields with
  | nil => exact member
  | cons first rest restHypothesis =>
      rcases List.mem_cons.mp member with rfl | later
      · exact List.mem_cons_self ..
      · exact List.mem_cons_of_mem _ (restHypothesis (List.mem_of_mem_filter later))

/-- Every field is represented by one of its name. -/
theorem exists_mem_distinctFields
    {fields : List ResolvedField}
    {field : ResolvedField}
    (member : field ∈ fields) :
    ∃ first ∈ distinctFields fields, first.name = field.name := by
  induction fields with
  | nil => simp at member
  | cons head rest restHypothesis =>
      by_cases sameName : head.name = field.name
      · exact ⟨head, List.mem_cons_self .., sameName⟩
      · have later : field ∈ rest := by
          rcases List.mem_cons.mp member with rfl | later
          · exact absurd rfl sameName
          · exact later
        obtain ⟨first, firstMember, firstName⟩ := restHypothesis later
        refine ⟨first, List.mem_cons_of_mem _ (List.mem_filter.mpr ⟨firstMember, ?_⟩), firstName⟩
        simpa [firstName] using Ne.symm sameName

theorem ofResolved_error
    {root : Text}
    {field : ResolvedField}
    {error : Error}
    (refused : ResponseField.ofResolved root field = .error error) :
    error = .compoundField field.name field.location ∧ field.type = .compound := by
  unfold ResponseField.ofResolved at refused
  split at refused
  · cases refused
  · next noAccess =>
      cases refused
      exact ⟨rfl, (Cpp.access?_eq_none_iff field root).mp noAccess⟩

/-- An endpoint has a binding unless one of its distinct fields is compound; the error
then tells of such a field. -/
theorem Binding.ofResolved_cases (resolved : ResolvedEndpoint) :
    (∃ binding, Binding.ofResolved resolved = .ok binding ∧
      ∀ field ∈ distinctFields resolved.resolvedFields, field.type ≠ .compound) ∨
    ∃ field ∈ distinctFields resolved.resolvedFields, field.type = .compound ∧
      Binding.ofResolved resolved = .error (.compoundField field.name field.location) := by
  unfold Binding.ofResolved
  cases mapped : (distinctFields resolved.resolvedFields).mapM
      (ResponseField.ofResolved (rootOf resolved.endpoint)) with
  | error error =>
      obtain ⟨field, member, refused⟩ := exists_of_mapM_error mapped
      obtain ⟨rfl, isCompound⟩ := ofResolved_error refused
      exact .inr ⟨field, member, isCompound, rfl⟩
  | ok fields =>
      refine .inl ⟨_, rfl, fun field member isCompound => ?_⟩
      obtain ⟨_, _, handedOver⟩ := exists_of_mapM_ok mapped member
      have noAccess := (Cpp.access?_eq_none_iff field (rootOf resolved.endpoint)).mpr isCompound
      simp [ResponseField.ofResolved, noAccess] at handedOver

theorem Binding.resolved_of_ofResolved
    {resolved : ResolvedEndpoint}
    {binding : Binding}
    (bound : Binding.ofResolved resolved = .ok binding) :
    binding.resolved = resolved := by
  unfold Binding.ofResolved at bound
  split at bound
  · cases bound
    rfl
  · cases bound

/-! ## One binding per client -/

/-- The bindings of some endpoints, one for each client. -/
def gathered (all : List Binding) : List Binding :=
  all.foldl (fun bindings binding => putBinding binding bindings) []

theorem mem_putBinding
    {new other : Binding}
    {bindings : List Binding}
    (member : other ∈ putBinding new bindings) :
    other = new ∨ other ∈ bindings := by
  induction bindings with
  | nil => simpa [putBinding] using member
  | cons binding rest restHypothesis =>
      unfold putBinding at member
      split at member
      · exact (List.mem_cons.mp member).imp id (List.mem_cons_of_mem _)
      · rcases List.mem_cons.mp member with rfl | later
        · exact .inr (List.mem_cons_self ..)
        · exact (restHypothesis later).imp id (List.mem_cons_of_mem _)

/-- A client has a binding after one is put if it had one or the new one is its own. -/
theorem mem_clientNames_putBinding
    {new : Binding}
    {bindings : List Binding}
    {name : Text} :
    name ∈ (putBinding new bindings).map Binding.clientName ↔
      name = new.clientName ∨ name ∈ bindings.map Binding.clientName := by
  induction bindings with
  | nil => simp [putBinding]
  | cons binding rest restHypothesis =>
      unfold putBinding
      split
      · next sameClient => simp [sameClient]
      · rw [List.map_cons, List.mem_cons, restHypothesis, List.map_cons, List.mem_cons]
        exact or_left_comm

theorem putBinding_of_notMem
    {new : Binding}
    {bindings : List Binding}
    (isNew : new.clientName ∉ bindings.map Binding.clientName) :
    putBinding new bindings = bindings ++ [new] := by
  induction bindings with
  | nil => rfl
  | cons binding rest restHypothesis =>
      rw [List.map_cons, List.mem_cons, not_or] at isNew
      rw [putBinding, if_neg (Ne.symm isNew.1), restHypothesis isNew.2, List.cons_append]

theorem mem_foldl_putBinding
    {all before : List Binding}
    {binding : Binding}
    (member : binding ∈ all.foldl (fun bindings new => putBinding new bindings) before) :
    binding ∈ all ∨ binding ∈ before := by
  induction all generalizing before with
  | nil => exact .inr member
  | cons first rest restHypothesis =>
      rcases restHypothesis member with later | put
      · exact .inl (List.mem_cons_of_mem _ later)
      · rcases mem_putBinding put with rfl | earlier
        · exact .inl (List.mem_cons_self ..)
        · exact .inr earlier

theorem mem_clientNames_foldl_putBinding
    {all before : List Binding}
    {name : Text} :
    name ∈ (all.foldl (fun bindings new => putBinding new bindings) before).map
        Binding.clientName ↔
      name ∈ all.map Binding.clientName ∨ name ∈ before.map Binding.clientName := by
  induction all generalizing before with
  | nil => simp
  | cons first rest restHypothesis =>
      rw [List.foldl_cons, restHypothesis, mem_clientNames_putBinding, List.map_cons,
        List.mem_cons]
      tauto

theorem foldl_putBinding_of_nodup
    {all before : List Binding}
    (distinct : ((before ++ all).map Binding.clientName).Nodup) :
    all.foldl (fun bindings new => putBinding new bindings) before = before ++ all := by
  induction all generalizing before with
  | nil => simp
  | cons first rest restHypothesis =>
      -- A new client comes last, where the fold goes on.
      have isNew : first.clientName ∉ before.map Binding.clientName := by
        intro earlier
        rw [List.map_append, List.map_cons, List.nodup_append] at distinct
        exact distinct.2.2 _ earlier _ (List.mem_cons_self ..) rfl
      rw [List.foldl_cons, putBinding_of_notMem isNew, restHypothesis (by simpa using distinct)]
      simp

theorem mem_of_mem_gathered
    {all : List Binding}
    {binding : Binding}
    (member : binding ∈ gathered all) :
    binding ∈ all :=
  (mem_foldl_putBinding member).resolve_right (by simp)

@[simp] theorem mem_clientNames_gathered {all : List Binding} {name : Text} :
    name ∈ (gathered all).map Binding.clientName ↔ name ∈ all.map Binding.clientName := by
  rw [gathered, mem_clientNames_foldl_putBinding]
  simp

/-- Where clients are distinct, nothing is put in place of another. -/
theorem gathered_of_nodup
    {all : List Binding}
    (distinct : (all.map Binding.clientName).Nodup) :
    gathered all = all :=
  foldl_putBinding_of_nodup distinct

/-- The bindings of endpoints with distinct clients are for distinct clients. -/
theorem clients_of_mapM
    {endpoints : List ResolvedEndpoint}
    {all : List Binding}
    (mapped : endpoints.mapM Binding.ofResolved = .ok all)
    (distinct : (endpoints.map (·.endpoint.clientName)).Nodup) :
    all.map Binding.resolved = endpoints ∧ (all.map Binding.clientName).Nodup := by
  have restored : all.map Binding.resolved = endpoints :=
    map_of_mapM_ok mapped fun _ _ => Binding.resolved_of_ofResolved
  refine ⟨restored, ?_⟩
  rw [← restored, List.map_map] at distinct
  exact distinct

/-! ## Bindings of services and topics -/

theorem mem_of_mem_bindingsFor
    {bindings : List Binding}
    {endpoints : List ResolvedEndpoint}
    {binding : Binding}
    (member : binding ∈ bindingsFor bindings endpoints) :
    binding ∈ bindings := by
  obtain ⟨_, _, found⟩ := List.mem_filterMap.mp member
  exact List.mem_of_find?_eq_some found

/-- Endpoints whose clients have bindings get them in their own order. -/
theorem clientNames_bindingsFor
    {bindings : List Binding}
    {endpoints : List ResolvedEndpoint}
    (haveBindings : ∀ resolved ∈ endpoints,
      resolved.endpoint.clientName ∈ bindings.map Binding.clientName) :
    (bindingsFor bindings endpoints).map Binding.clientName =
      endpoints.map (·.endpoint.clientName) := by
  induction endpoints with
  | nil => rfl
  | cons resolved rest restHypothesis =>
      obtain ⟨binding, member, sameClient⟩ :=
        List.mem_map.mp (haveBindings resolved (List.mem_cons_self ..))
      obtain ⟨found, isFound⟩ : ∃ found,
          bindings.find? (·.clientName = resolved.endpoint.clientName) = some found := by
        rw [← Option.isSome_iff_exists, List.find?_isSome]
        exact ⟨binding, member, by simpa using sameClient⟩
      have foundClient : found.clientName = resolved.endpoint.clientName := by
        simpa using List.find?_some isFound
      have restNames := restHypothesis fun other otherMember =>
        haveBindings other (List.mem_cons_of_mem _ otherMember)
      rw [bindingsFor, List.filterMap_cons, isFound, List.map_cons, List.map_cons, foundClient]
      exact congrArg _ restNames

/-- Where clients are distinct, the bindings for endpoints of a sort are picked out of the
bindings of all endpoints. -/
theorem bindingsFor_filter
    {bindings : List Binding}
    (distinct : (bindings.map Binding.clientName).Nodup)
    (isOfSort : ResolvedEndpoint → Bool) :
    bindingsFor bindings ((bindings.map Binding.resolved).filter isOfSort) =
      bindings.filter fun binding => isOfSort binding.resolved := by
  rw [bindingsFor, List.filter_map, List.filterMap_map]
  exact filterMap_find?_key distinct fun _ => List.mem_of_mem_filter

/-! ## Collisions -/

/-- A collision is found exactly if a name occurs twice or is taken already. -/
theorem collision?_eq_none_iff {taken names : List EmittedName} :
    collision? taken names = none ↔
      (names.map EmittedName.name).Nodup ∧
        ∀ new ∈ names, new.name ∉ taken.map EmittedName.name := by
  induction names generalizing taken with
  | nil => simp [collision?]
  | cons new rest restHypothesis =>
      unfold collision?
      cases isTaken : taken.find? (·.name = new.name) with
      | some earlier =>
          have member := List.mem_of_find?_eq_some isTaken
          have sameName : earlier.name = new.name := by simpa using List.find?_some isTaken
          refine iff_of_false (by simp) fun free => ?_
          exact free.2 new (List.mem_cons_self ..) (sameName ▸ List.mem_map_of_mem member)
      | none =>
          have isFree : new.name ∉ taken.map EmittedName.name := by
            intro member
            obtain ⟨earlier, earlierMember, sameName⟩ := List.mem_map.mp member
            simpa [sameName] using List.find?_eq_none.mp isTaken earlier earlierMember
          simp only [restHypothesis, List.map_cons, List.nodup_cons, List.mem_cons, not_or,
            forall_eq_or_imp]
          constructor
          · rintro ⟨restNodup, restFree⟩
            refine ⟨⟨fun again => ?_, restNodup⟩, isFree, fun other member =>
              (restFree other member).2⟩
            obtain ⟨other, member, sameName⟩ := List.mem_map.mp again
            exact (restFree other member).1 sameName
          · rintro ⟨⟨notAgain, restNodup⟩, _, restFree⟩
            refine ⟨restNodup, fun other member => ⟨fun sameName => ?_, restFree other member⟩⟩
            exact notAgain (sameName ▸ List.mem_map_of_mem member)

theorem collision?_eq_some
    {taken names : List EmittedName}
    {error : Error}
    (collides : collision? taken names = some error) :
    ∃ part clientName earlier name, error = .nameCollision part clientName earlier name := by
  induction names generalizing taken with
  | nil => cases collides
  | cons new rest restHypothesis =>
      unfold collision? at collides
      split at collides
      · cases collides
        exact ⟨_, _, _, _, rfl⟩
      · exact restHypothesis collides

/-! ## Blueprints -/

/-- The blueprint of gathered bindings. -/
def blueprintOf
    (options : Options)
    (model : TypedModel)
    (className derived : Text)
    (bindings : List Binding) : Blueprint where
  model := model
  options := options
  className := className
  nodeName := Naming.snakeCase derived
  bindings := bindings
  services := bindingsFor bindings model.services
  topics := bindingsFor bindings model.topics

/-- A blueprint in three steps: the class gets a name, the endpoints are bound, and their
names are compared. -/
theorem Blueprint.ofModel_eq (options : Options) (model : TypedModel) :
    Blueprint.ofModel options model =
      match chooseClassName options model.name with
      | .error error => .error error
      | .ok className =>
          match model.endpoints.mapM Binding.ofResolved with
          | .error error => .error error
          | .ok all =>
              match collision? [] (emittedNames (gathered all)) with
              | some error => .error error
              | none =>
                  match Naming.className? model.name with
                  | none => .error (.unusableName model.name)
                  | some derived =>
                      .ok (blueprintOf options model className derived (gathered all)) := by
  unfold Blueprint.ofModel
  cases chooseClassName options model.name with
  | error error => rfl
  | ok className =>
      cases model.endpoints.mapM Binding.ofResolved with
      | error error => rfl
      | ok all =>
          have sameBindings :
              all.foldl (fun bindings binding => putBinding binding bindings) [] = gathered all :=
            rfl
          simp only [bind, Except.bind, sameBindings]
          cases collision? [] (emittedNames (gathered all)) with
          | some error => rfl
          | none => cases Naming.className? model.name <;> rfl

/-- What a blueprint was gathered from. -/
theorem Blueprint.ofModel_eq_ok_iff
    {options : Options}
    {model : TypedModel}
    {blueprint : Blueprint} :
    Blueprint.ofModel options model = .ok blueprint ↔
      ∃ className derived all,
        chooseClassName options model.name = .ok className ∧
        Naming.className? model.name = some derived ∧
        model.endpoints.mapM Binding.ofResolved = .ok all ∧
        collision? [] (emittedNames (gathered all)) = none ∧
        blueprint = blueprintOf options model className derived (gathered all) := by
  rw [Blueprint.ofModel_eq]
  cases chooseClassName options model.name with
  | error error => simp
  | ok className =>
      cases model.endpoints.mapM Binding.ofResolved with
      | error error => simp
      | ok all =>
          cases collides : collision? [] (emittedNames (gathered all)) with
          | some error => simp [collides]
          | none => cases Naming.className? model.name <;> simp [collides, eq_comm]

/-- Where clients are distinct, a blueprint has one binding for each endpoint in order, and
the services and the topics are picked out of them. -/
theorem Blueprint.bindings_of_distinct
    {options : Options}
    {model : TypedModel}
    {blueprint : Blueprint}
    (distinct : (model.endpoints.map (·.endpoint.clientName)).Nodup)
    (gathers : Blueprint.ofModel options model = .ok blueprint) :
    blueprint.bindings.map Binding.resolved = model.endpoints ∧
      blueprint.services = blueprint.bindings.filter Binding.isService ∧
        blueprint.topics = blueprint.bindings.filter (! ·.isService) := by
  obtain ⟨className, derived, all, _, _, mapped, _, rfl⟩ :=
    Blueprint.ofModel_eq_ok_iff.mp gathers
  obtain ⟨restored, clients⟩ := clients_of_mapM mapped distinct
  rw [gathered_of_nodup clients]
  refine ⟨restored, ?_, ?_⟩
  · change bindingsFor all (model.endpoints.filter (·.endpoint.isService)) = _
    rw [← restored]
    exact bindingsFor_filter clients (·.endpoint.isService)
  · change bindingsFor all (model.endpoints.filter (! ·.endpoint.isService)) = _
    rw [← restored]
    exact bindingsFor_filter clients (! ·.endpoint.isService)

/-- A blueprint is about its model. Services and topics are bound in the order of their
declarations, each to a binding of some endpoint. -/
theorem Blueprint.bindings_inOrder
    {options : Options}
    {model : TypedModel}
    {blueprint : Blueprint}
    (gathers : Blueprint.ofModel options model = .ok blueprint) :
    blueprint.model = model ∧
      blueprint.options = options ∧
      blueprint.services.map Binding.clientName =
        model.services.map (·.endpoint.clientName) ∧
      blueprint.topics.map Binding.clientName = model.topics.map (·.endpoint.clientName) ∧
      ∀ binding ∈ blueprint.services ++ blueprint.topics,
        binding.resolved ∈ model.endpoints ∧
          Binding.ofResolved binding.resolved = .ok binding := by
  obtain ⟨className, derived, all, _, _, mapped, _, rfl⟩ :=
    Blueprint.ofModel_eq_ok_iff.mp gathers
  have haveBindings : ∀ resolved ∈ model.endpoints,
      resolved.endpoint.clientName ∈ (gathered all).map Binding.clientName := by
    intro resolved member
    obtain ⟨binding, bindingMember, bound⟩ := exists_of_mapM_ok mapped member
    rw [mem_clientNames_gathered, ← Binding.resolved_of_ofResolved bound]
    exact List.mem_map_of_mem bindingMember
  refine ⟨rfl, rfl, clientNames_bindingsFor fun resolved member => ?_,
    clientNames_bindingsFor fun resolved member => ?_, fun binding member => ?_⟩
  · exact haveBindings resolved (List.mem_of_mem_filter member)
  · exact haveBindings resolved (List.mem_of_mem_filter member)
  · have isGathered : binding ∈ gathered all := by
      rcases List.mem_append.mp member with ofService | ofTopic
      · exact mem_of_mem_bindingsFor ofService
      · exact mem_of_mem_bindingsFor ofTopic
    obtain ⟨resolved, resolvedMember, bound⟩ :=
      exists_of_mem_mapM mapped (mem_of_mem_gathered isGathered)
    obtain rfl := Binding.resolved_of_ofResolved bound
    exact ⟨resolvedMember, bound⟩

theorem chooseClassName_of_usable
    (options : Options)
    {skillName derived : Text}
    (usable : Naming.className? skillName = some derived) :
    ∃ className, chooseClassName options skillName = .ok className := by
  unfold chooseClassName
  split
  · exact ⟨_, rfl⟩
  · rw [usable]
    exact ⟨_, rfl⟩

/-- Where a class can be named after the skill, there is no blueprint exactly if an
endpoint has no binding or names collide, and the error is that of the binding or of the
collision. -/
theorem Blueprint.ofModel_eq_error_iff
    {options : Options}
    {model : TypedModel}
    {error : Error}
    (usable : Naming.className? model.name ≠ none) :
    Blueprint.ofModel options model = .error error ↔
      model.endpoints.mapM Binding.ofResolved = .error error ∨
        ∃ all, model.endpoints.mapM Binding.ofResolved = .ok all ∧
          collision? [] (emittedNames (gathered all)) = some error := by
  obtain ⟨derived, named⟩ := Option.ne_none_iff_exists'.mp usable
  obtain ⟨className, chosen⟩ := chooseClassName_of_usable options named
  rw [Blueprint.ofModel_eq, chosen, named]
  cases model.endpoints.mapM Binding.ofResolved with
  | error error => simp
  | ok all => cases collides : collision? [] (emittedNames (gathered all)) <;> simp [collides]

end Generation
end SkillNode
