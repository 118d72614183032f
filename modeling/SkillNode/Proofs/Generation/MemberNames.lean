import SkillNode.Proofs.Generation.Outcomes
import Mathlib.Data.List.Induction
import Mathlib.Data.List.Pairwise

/-!
# Members of the generated class

Every endpoint puts two names into the generated class: a member that holds its client or
subscription, and a method that calls the service or receives the message. A name starts with
what tells its sort, so that names of different sorts are never equal, and neither is one of
them a name that every generated class has.

A blueprint is refused for its names exactly if two services or two topics have the same
method. The main statement says which two are reported, and that nothing collides otherwise.
-/

namespace SkillNode
namespace Generation

open Statechart (TypedModel ResolvedEndpoint IsTyped)

/-! ## Names by their starts -/

/-- What the member or the method of an endpoint starts with. -/
def nameStart (isMember isService : Bool) : Text :=
  match isMember, isService with
  | true, true => "m_client_"
  | true, false => "m_subscription_"
  | false, true => "call"
  | false, false => "on"

/-- The members that every generated class has. -/
def fixedMembers : List Text :=
  ["m_name", "m_node", "m_stateMachine", "m_startupState", "start", "spin", "startupState",
    "waitForService", "failStartup", "convert"]

/-- A name has one start only, which tells its sort. -/
theorem eq_of_nameStart
    {isMember isService isOtherMember isOtherService : Bool}
    {name : Text}
    (starts : nameStart isMember isService <+: name)
    (otherStarts : nameStart isOtherMember isOtherService <+: name) :
    isMember = isOtherMember ∧ isService = isOtherService := by
  have apart : ∀ isMember isService isOtherMember isOtherService : Bool,
      nameStart isMember isService <+: nameStart isOtherMember isOtherService →
        isMember = isOtherMember ∧ isService = isOtherService := by
    decide
  rcases List.prefix_or_prefix_of_prefix starts otherStarts with shorter | longer
  · exact apart _ _ _ _ shorter
  · exact (apart _ _ _ _ longer).imp Eq.symm Eq.symm

/-- No member that every class has starts like the name of an endpoint. -/
theorem notMem_fixedMembers
    {isMember isService : Bool}
    {name : Text}
    (starts : nameStart isMember isService <+: name) :
    name ∉ fixedMembers := by
  have apart : ∀ isMember isService : Bool, ∀ fixed ∈ fixedMembers,
      ¬ nameStart isMember isService <+: fixed := by
    decide
  exact fun isFixed => apart _ _ name isFixed starts

/-! ## Names of endpoints -/

/-- The binding of an endpoint without its fields, which has the names of every binding of
the endpoint. -/
def bare (resolved : ResolvedEndpoint) : Binding := ⟨resolved, []⟩

/-- The identifier that the names of an endpoint are made of. -/
def identifierOf (resolved : ResolvedEndpoint) : Text := (bare resolved).identifier

/-- Two endpoints are both services or both topics, and the words of their identifiers are
equal. -/
def SharesMethod (first second : ResolvedEndpoint) : Prop :=
  first.endpoint.isService = second.endpoint.isService ∧
    Naming.pascalCase (identifierOf first) = Naming.pascalCase (identifierOf second)

instance : DecidableRel SharesMethod := fun first second =>
  inferInstanceAs (Decidable (first.endpoint.isService = second.endpoint.isService ∧
    Naming.pascalCase (identifierOf first) = Naming.pascalCase (identifierOf second)))

theorem SharesMethod.symm
    {first second : ResolvedEndpoint}
    (shares : SharesMethod first second) :
    SharesMethod second first :=
  ⟨shares.1.symm, shares.2.symm⟩

theorem SharesMethod.trans
    {first second third : ResolvedEndpoint}
    (shares : SharesMethod first second)
    (sharesNext : SharesMethod second third) :
    SharesMethod first third :=
  ⟨shares.1.trans sharesNext.1, shares.2.trans sharesNext.2⟩

namespace Binding

/-- The sort of the method of a binding. -/
def methodPart (binding : Binding) : NamePart :=
  if binding.isService then .callMethod else .callbackMethod

/-- The method that calls the service or receives the message of a binding. -/
def methodName (binding : Binding) : Text :=
  if binding.isService then binding.callMethod else binding.callbackMethod

theorem names_eq (binding : Binding) :
    binding.names = [(.member, binding.memberName), (binding.methodPart, binding.methodName)] := by
  unfold names methodPart methodName
  split <;> rfl

theorem memberName_eq (binding : Binding) :
    binding.memberName = nameStart true binding.isService ++ binding.identifier := by
  unfold memberName
  cases binding.isService <;> rfl

/-- The method of a binding is made of the words of its identifier. -/
theorem methodName_eq (binding : Binding) :
    binding.methodName =
      nameStart false binding.isService ++
        (Naming.pascalCase binding.identifier ++
          if binding.isService then [] else ("Message" : Text)) := by
  unfold methodName callMethod callbackMethod
  cases binding.isService with
  | false => exact List.append_assoc ..
  | true => exact congrArg (("call" : Text) ++ ·) (List.append_nil _).symm

theorem memberName_starts (binding : Binding) :
    nameStart true binding.isService <+: binding.memberName :=
  binding.memberName_eq ▸ List.prefix_append ..

theorem methodName_starts (binding : Binding) :
    nameStart false binding.isService <+: binding.methodName :=
  binding.methodName_eq ▸ List.prefix_append ..

/-- A member is never called like a method. -/
theorem memberName_ne_methodName (first second : Binding) :
    first.memberName ≠ second.methodName := by
  intro sameName
  have starts := first.memberName_starts
  rw [sameName] at starts
  cases (eq_of_nameStart starts second.methodName_starts).1

theorem memberName_eq_iff {first second : Binding} :
    first.memberName = second.memberName ↔
      first.isService = second.isService ∧ first.identifier = second.identifier := by
  constructor
  · intro sameName
    have starts := first.memberName_starts
    rw [sameName] at starts
    have sameSort := (eq_of_nameStart starts second.memberName_starts).2
    rw [memberName_eq, memberName_eq, sameSort] at sameName
    exact ⟨sameSort, List.append_cancel_left sameName⟩
  · rintro ⟨sameSort, sameIdentifier⟩
    rw [memberName_eq, memberName_eq, sameSort, sameIdentifier]

theorem methodName_eq_iff {first second : Binding} :
    first.methodName = second.methodName ↔ SharesMethod first.resolved second.resolved := by
  constructor
  · intro sameName
    have starts := first.methodName_starts
    rw [sameName] at starts
    have sameSort := (eq_of_nameStart starts second.methodName_starts).2
    rw [methodName_eq, methodName_eq, sameSort] at sameName
    exact ⟨sameSort, List.append_cancel_right (List.append_cancel_left sameName)⟩
  · rintro ⟨sameSort, sameWords⟩
    change first.isService = second.isService at sameSort
    change Naming.pascalCase first.identifier = Naming.pascalCase second.identifier at sameWords
    rw [methodName_eq, methodName_eq, sameSort, sameWords]

/-- Bindings with one member have one method. -/
theorem sharesMethod_of_memberName
    {first second : Binding}
    (sameName : first.memberName = second.memberName) :
    SharesMethod first.resolved second.resolved := by
  obtain ⟨sameSort, sameIdentifier⟩ := memberName_eq_iff.mp sameName
  exact ⟨sameSort, congrArg Naming.pascalCase sameIdentifier⟩

end Binding

/-! ## Distinct names -/

/-- No two of some endpoints have one method. -/
def HaveOwnMethods (endpoints : List ResolvedEndpoint) : Prop :=
  endpoints.Pairwise fun first second => ¬ SharesMethod first second

/-- Endpoints with methods of their own are equal if they share one. -/
theorem HaveOwnMethods.eq_of_sharesMethod
    {endpoints : List ResolvedEndpoint}
    (own : HaveOwnMethods endpoints)
    {first second : ResolvedEndpoint}
    (isFirst : first ∈ endpoints)
    (isSecond : second ∈ endpoints)
    (shares : SharesMethod first second) :
    first = second := by
  by_contra differ
  have : Std.Symm fun first second => ¬ SharesMethod first second :=
    ⟨fun _ _ notShares shares => notShares shares.symm⟩
  exact List.Pairwise.forall own isFirst isSecond differ shares

/-- The member of a binding as a generated name. -/
def Binding.emittedMember (binding : Binding) : EmittedName :=
  ⟨.member, binding.memberName, binding.clientName⟩

/-- The method of a binding as a generated name. -/
def Binding.emittedMethod (binding : Binding) : EmittedName :=
  ⟨binding.methodPart, binding.methodName, binding.clientName⟩

theorem emittedNames_eq_flatMap (bindings : List Binding) :
    emittedNames bindings =
      bindings.flatMap fun binding => [binding.emittedMember, binding.emittedMethod] := by
  refine List.flatMap_congr fun binding _ => ?_
  rw [binding.names_eq]
  rfl

theorem names_emittedNames (bindings : List Binding) :
    (emittedNames bindings).map EmittedName.name =
      bindings.flatMap fun binding => [binding.memberName, binding.methodName] := by
  rw [emittedNames_eq_flatMap, List.map_flatMap]
  rfl

/-- The names of bindings are distinct exactly if every endpoint has a method of its own. -/
theorem nodup_names_iff {bindings : List Binding} :
    ((emittedNames bindings).map EmittedName.name).Nodup ↔
      HaveOwnMethods (bindings.map Binding.resolved) := by
  rw [names_emittedNames, List.nodup_flatMap, HaveOwnMethods, List.pairwise_map]
  have ownNames : ∀ binding ∈ bindings, [binding.memberName, binding.methodName].Nodup :=
    fun binding _ => by simp [binding.memberName_ne_methodName binding]
  rw [and_iff_right ownNames]
  refine List.Pairwise.iff fun first second => ?_
  rw [← Binding.methodName_eq_iff, Function.onFun_apply, List.disjoint_left]
  constructor
  · intro disjoint sameName
    exact disjoint (List.mem_cons_of_mem _ (List.mem_singleton.mpr rfl))
      (List.mem_cons_of_mem _ (List.mem_singleton.mpr sameName))
  · intro differ name ofFirst ofSecond
    simp only [List.mem_cons, List.not_mem_nil, or_false] at ofFirst ofSecond
    -- Two names of one sort are equal only if the methods are.
    rcases ofFirst with rfl | rfl <;> rcases ofSecond with sameName | sameName
    · exact differ (Binding.methodName_eq_iff.mpr (Binding.sharesMethod_of_memberName sameName))
    · exact Binding.memberName_ne_methodName _ _ sameName
    · exact Binding.memberName_ne_methodName _ _ sameName.symm
    · exact differ sameName

/-! ## The first collision -/

/-- The second of two endpoints is the first one whose method an earlier one has, and the
first of them is that earlier one. -/
def IsFirstClash (endpoints : List ResolvedEndpoint) (first second : ResolvedEndpoint) : Prop :=
  ∃ before after, endpoints = before ++ second :: after ∧ HaveOwnMethods before ∧
    first ∈ before ∧ SharesMethod first second

/-- Where not every endpoint has a method of its own there is a first collision. -/
theorem exists_isFirstClash
    {endpoints : List ResolvedEndpoint}
    (shared : ¬ HaveOwnMethods endpoints) :
    ∃ first second, IsFirstClash endpoints first second := by
  induction endpoints using List.reverseRecOn with
  | nil => exact absurd List.Pairwise.nil shared
  | append_singleton earlier last earlierHypothesis =>
      by_cases own : HaveOwnMethods earlier
      · by_cases clashes : ∃ first ∈ earlier, SharesMethod first last
        · obtain ⟨first, isEarlier, shares⟩ := clashes
          exact ⟨first, last, earlier, [], rfl, own, isEarlier, shares⟩
        · refine absurd (List.pairwise_append.mpr ⟨own, List.pairwise_singleton .., ?_⟩) shared
          intro first isEarlier second isLast shares
          obtain rfl := List.mem_singleton.mp isLast
          exact clashes ⟨first, isEarlier, shares⟩
      · obtain ⟨first, second, before, after, rfl, ownBefore, isEarlier, shares⟩ :=
          earlierHypothesis own
        exact ⟨first, second, before, after ++ [last], by simp, ownBefore, isEarlier, shares⟩

/-- Some two endpoints have one method exactly if there is a first collision. -/
theorem exists_isFirstClash_iff
    {endpoints : List ResolvedEndpoint}
    (distinct : endpoints.Nodup) :
    (∃ first second, IsFirstClash endpoints first second) ↔
      ∃ first ∈ endpoints, ∃ second ∈ endpoints, first ≠ second ∧ SharesMethod first second := by
  constructor
  · rintro ⟨first, second, before, after, rfl, _, isEarlier, shares⟩
    have isSecond : second ∈ before ++ second :: after :=
      List.mem_append_right _ (List.mem_cons_self ..)
    have differ : first ≠ second :=
      List.disjoint_left.mp (List.nodup_append'.mp distinct).2.2 isEarlier ∘
        (· ▸ List.mem_cons_self ..)
    exact ⟨first, List.mem_append_left _ isEarlier, second, isSecond, differ, shares⟩
  · rintro ⟨first, isFirst, second, isSecond, differ, shares⟩
    exact exists_isFirstClash fun own => differ (own.eq_of_sharesMethod isFirst isSecond shares)

/-- The name that two endpoints share which have one method: the member if their
identifiers are equal, which is looked at first, and else the method. -/
def sharedName (first second : ResolvedEndpoint) : NamePart × Text :=
  if identifierOf first = identifierOf second then
    (.member, (bare second).memberName)
  else
    ((bare second).methodPart, (bare second).methodName)

/-- The report of two endpoints that have one method. -/
def clashError (first second : ResolvedEndpoint) : Error :=
  .nameCollision (sharedName first second).1 second.endpoint.clientName first.endpoint.clientName
    (sharedName first second).2

theorem collision?_cons_of_found
    {taken rest : List EmittedName}
    {new earlier : EmittedName}
    (found : taken.find? (·.name = new.name) = some earlier) :
    collision? taken (new :: rest) =
      some (.nameCollision new.part new.clientName earlier.clientName new.name) := by
  rw [collision?, found]

theorem collision?_cons_of_new
    {taken rest : List EmittedName}
    {new : EmittedName}
    (isNew : taken.find? (·.name = new.name) = none) :
    collision? taken (new :: rest) = collision? (new :: taken) rest := by
  rw [collision?, isNew]

theorem collision?_append (taken first second : List EmittedName) :
    collision? taken (first ++ second) =
      (collision? taken first).or (collision? (first.reverse ++ taken) second) := by
  induction first generalizing taken with
  | nil => rfl
  | cons new rest restHypothesis =>
      rw [List.cons_append, collision?, collision?]
      cases taken.find? (·.name = new.name) with
      | some earlier => rfl
      | none => simp [restHypothesis]

/-- Among names before that are distinct, that of a binding is found under its text. -/
theorem find?_emittedNames
    {earlier : List Binding}
    {first : Binding}
    {emitted : EmittedName}
    {name : Text}
    (own : HaveOwnMethods (earlier.map Binding.resolved))
    (isEarlier : first ∈ earlier)
    (isName : emitted ∈ [first.emittedMember, first.emittedMethod])
    (sameName : emitted.name = name) :
    (emittedNames earlier).reverse.find? (·.name = name) = some emitted := by
  have distinct : ((emittedNames earlier).reverse.map EmittedName.name).Nodup := by
    rw [List.map_reverse, List.nodup_reverse]
    exact nodup_names_iff.mpr own
  refine (find?_key_eq_some_iff distinct).mpr ⟨?_, sameName⟩
  rw [List.mem_reverse, emittedNames_eq_flatMap]
  exact List.mem_flatMap.mpr ⟨first, isEarlier, isName⟩

section Next

variable {earlier : List Binding} {first next : Binding}
variable (own : HaveOwnMethods (earlier.map Binding.resolved)) (isEarlier : first ∈ earlier)
variable (shares : SharesMethod first.resolved next.resolved)
include own isEarlier shares

/-- A member of other identifier than the one binding with the method is new. -/
theorem find?_memberName_eq_none
    (otherIdentifier : identifierOf first.resolved ≠ identifierOf next.resolved) :
    (emittedNames earlier).reverse.find? (·.name = next.memberName) = none := by
  rw [List.find?_eq_none]
  intro emitted isTaken
  rw [List.mem_reverse, emittedNames_eq_flatMap] at isTaken
  obtain ⟨binding, isBinding, isName⟩ := List.mem_flatMap.mp isTaken
  simp only [List.mem_cons, List.not_mem_nil, or_false] at isName
  rw [decide_eq_true_eq]
  rcases isName with rfl | rfl
  · intro (sameName : binding.memberName = next.memberName)
    have sharesNext := Binding.sharesMethod_of_memberName sameName
    have sameEndpoint : binding.resolved = first.resolved :=
      own.eq_of_sharesMethod (List.mem_map_of_mem isBinding) (List.mem_map_of_mem isEarlier)
        (sharesNext.trans shares.symm)
    exact otherIdentifier (sameEndpoint ▸ (Binding.memberName_eq_iff.mp sameName).2)
  · exact fun sameName => Binding.memberName_ne_methodName next binding sameName.symm

/-- Where the bindings before have distinct names, the names of the next one collide as those
of the endpoints do. -/
theorem collision?_next :
    collision? (emittedNames earlier).reverse [next.emittedMember, next.emittedMethod] =
      some (clashError first.resolved next.resolved) := by
  unfold clashError sharedName
  by_cases sameIdentifier : identifierOf first.resolved = identifierOf next.resolved
  · have sameMember : first.emittedMember.name = next.emittedMember.name :=
      Binding.memberName_eq_iff.mpr ⟨shares.1, sameIdentifier⟩
    have found := find?_emittedNames own isEarlier (List.mem_cons_self ..) sameMember
    rw [if_pos sameIdentifier]
    exact collision?_cons_of_found found
  · have sameMethod : first.emittedMethod.name = next.emittedMethod.name :=
      Binding.methodName_eq_iff.mpr shares
    have isLast : first.emittedMethod ∈ [first.emittedMember, first.emittedMethod] :=
      List.mem_cons_of_mem _ (List.mem_singleton.mpr rfl)
    have found := find?_emittedNames own isEarlier isLast sameMethod
    have notMember : next.emittedMember.name ≠ next.emittedMethod.name :=
      Binding.memberName_ne_methodName next next
    have foundNext :
        (next.emittedMember :: (emittedNames earlier).reverse).find?
          (·.name = next.emittedMethod.name) = some first.emittedMethod := by
      rw [List.find?_cons_of_neg (by simpa using notMember), found]
    rw [if_neg sameIdentifier, collision?_cons_of_new
      (find?_memberName_eq_none own isEarlier shares sameIdentifier)]
    exact collision?_cons_of_found foundNext

end Next

theorem emittedNames_cons (binding : Binding) (rest : List Binding) :
    emittedNames (binding :: rest) =
      [binding.emittedMember, binding.emittedMethod] ++ emittedNames rest := by
  simp only [emittedNames_eq_flatMap, List.flatMap_cons]

theorem emittedNames_append (first second : List Binding) :
    emittedNames (first ++ second) = emittedNames first ++ emittedNames second :=
  List.flatMap_append

/-- Of bindings with distinct names nothing is reported. -/
theorem collision?_of_haveOwnMethods
    {bindings : List Binding}
    (own : HaveOwnMethods (bindings.map Binding.resolved)) :
    collision? [] (emittedNames bindings) = none :=
  collision?_eq_none_iff.mpr ⟨nodup_names_iff.mpr own, fun _ _ => List.not_mem_nil⟩

/-- The first two endpoints that have one method are reported. -/
theorem collision?_of_isFirstClash
    {bindings : List Binding}
    {first second : ResolvedEndpoint}
    (clash : IsFirstClash (bindings.map Binding.resolved) first second) :
    collision? [] (emittedNames bindings) = some (clashError first second) := by
  obtain ⟨before, after, split, own, isEarlier, shares⟩ := clash
  obtain ⟨earlier, others, rfl, rfl, othersEq⟩ := List.map_eq_append_iff.mp split
  obtain ⟨next, later, rfl, rfl, _⟩ := List.map_eq_cons_iff.mp othersEq
  obtain ⟨firstBinding, isFirst, rfl⟩ := List.mem_map.mp isEarlier
  rw [emittedNames_append, emittedNames_cons, collision?_append,
    collision?_of_haveOwnMethods own, Option.none_or, List.append_nil, collision?_append,
    collision?_next own isFirst shares, Option.some_or]

/-- What is reported of bindings is their first collision. -/
theorem collision?_eq_some_iff {bindings : List Binding} {error : Error} :
    collision? [] (emittedNames bindings) = some error ↔
      ∃ first second, IsFirstClash (bindings.map Binding.resolved) first second ∧
        clashError first second = error := by
  constructor
  · intro collides
    have shared : ¬ HaveOwnMethods (bindings.map Binding.resolved) := fun own => by
      rw [collision?_of_haveOwnMethods own] at collides
      cases collides
    obtain ⟨first, second, clash⟩ := exists_isFirstClash shared
    rw [collision?_of_isFirstClash clash] at collides
    exact ⟨first, second, clash, Option.some.inj collides⟩
  · rintro ⟨first, second, clash, rfl⟩
    exact collision?_of_isFirstClash clash

/-! ## Models -/

/-- Where no response field is compound, every endpoint has a binding. -/
theorem exists_bindings_of_not_hasCompound
    {model : TypedModel}
    (noCompound : ¬ HasCompound model) :
    ∃ all, model.endpoints.mapM Binding.ofResolved = .ok all := by
  cases mapped : model.endpoints.mapM Binding.ofResolved with
  | ok all => exact ⟨all, rfl⟩
  | error error => exact absurd (hasCompound_of_mapM_error mapped) noCompound

/-- Where every endpoint has a binding, a collision is the reason that there is no blueprint
exactly if the class has a name and the collision is the first one. -/
theorem ofModel_eq_nameCollision_iff
    {options : Options}
    {model : TypedModel}
    {all : List Binding}
    {part : NamePart}
    {clientName earlier name : Text}
    (mapped : model.endpoints.mapM Binding.ofResolved = .ok all) :
    Blueprint.ofModel options model = .error (.nameCollision part clientName earlier name) ↔
      (∃ className, chooseClassName options model.name = .ok className) ∧
        collision? [] (emittedNames (gathered all)) =
          some (.nameCollision part clientName earlier name) := by
  rw [Blueprint.ofModel_eq, mapped]
  cases chosen : chooseClassName options model.name with
  | error error =>
      have unusable : error = .unusableName model.name := by
        unfold chooseClassName at chosen
        split at chosen
        · cases chosen
        · split at chosen <;> cases chosen
          rfl
      simp [unusable]
  | ok className =>
      dsimp only
      cases collision? [] (emittedNames (gathered all)) with
      | some found => simp
      | none => cases Naming.className? model.name <;> simp

/-- Where a blueprint is made, its names are distinct from each other and from the members
that every class has. -/
theorem nodup_names_of_ofModel
    {options : Options}
    {model : TypedModel}
    {blueprint : Blueprint}
    (gathers : Blueprint.ofModel options model = .ok blueprint) :
    (blueprint.bindings.flatMap (fun binding => [binding.memberName, binding.methodName]) ++
      fixedMembers).Nodup := by
  obtain ⟨_, _, all, _, _, _, noCollision, rfl⟩ := Blueprint.ofModel_eq_ok_iff.mp gathers
  have distinct := (collision?_eq_none_iff.mp noCollision).1
  rw [names_emittedNames] at distinct
  refine List.Nodup.append distinct (by decide) (List.disjoint_left.mpr fun name isName => ?_)
  obtain ⟨binding, _, isOwn⟩ := List.mem_flatMap.mp isName
  simp only [List.mem_cons, List.not_mem_nil, or_false] at isOwn
  rcases isOwn with rfl | rfl
  · exact notMem_fixedMembers binding.memberName_starts
  · exact notMem_fixedMembers binding.methodName_starts

/-- The placeholder of a shared name is that of the member if the identifiers are equal, and
else that of the method. -/
theorem placeholder_sharedName (first second : ResolvedEndpoint) :
    (sharedName first second).1.placeholder =
      if identifierOf first = identifierOf second then
        "eventData.member_name"
      else if second.endpoint.isService then
        "eventData.call_method"
      else
        "eventData.callback_method" := by
  unfold sharedName
  split
  · rfl
  · change (bare second).methodPart.placeholder = _
    unfold Binding.methodPart
    change (if second.endpoint.isService then NamePart.callMethod else _).placeholder = _
    split <;> rfl

/-- The check of names is exact. A class that can be named is refused for a collision of
names exactly if two services or two topics have equal words in their identifiers. The
report is about the first endpoint whose method an earlier one has, and about that earlier
one; it is the member that is named if the identifiers are equal, and else the method.

In every blueprint all names are distinct, and none is that of a member which every class
has. A model that was read and typed has a class that can be named. -/
theorem nameCheck_exact
    (options : Options)
    {model : TypedModel}
    (distinct : (model.endpoints.map (·.endpoint.clientName)).Nodup)
    (noCompound : ¬ HasCompound model) :
    (∀ part clientName earlier name,
      Blueprint.ofModel options model = .error (.nameCollision part clientName earlier name) ↔
        (∃ className, chooseClassName options model.name = .ok className) ∧
          ∃ first second, IsFirstClash model.endpoints first second ∧
            clientName = second.endpoint.clientName ∧ earlier = first.endpoint.clientName ∧
            (part, name) = sharedName first second) ∧
    ((∃ first second, IsFirstClash model.endpoints first second) ↔
      ∃ first ∈ model.endpoints, ∃ second ∈ model.endpoints,
        first ≠ second ∧ SharesMethod first second) ∧
    (∀ first second,
      (sharedName first second).1.placeholder =
        if identifierOf first = identifierOf second then
          "eventData.member_name"
        else if second.endpoint.isService then
          "eventData.call_method"
        else
          "eventData.callback_method") ∧
    (∀ blueprint, Blueprint.ofModel options model = .ok blueprint →
      blueprint.bindings.map Binding.resolved = model.endpoints ∧
        (blueprint.bindings.flatMap (fun binding => [binding.memberName, binding.methodName]) ++
          fixedMembers).Nodup) ∧
    (IsTyped model → ∃ className, chooseClassName options model.name = .ok className) := by
  refine ⟨fun part clientName earlier name => ?_, exists_isFirstClash_iff (distinct.of_map _),
    placeholder_sharedName, fun blueprint gathers => ?_, fun isTyped => ?_⟩
  · obtain ⟨all, mapped⟩ := exists_bindings_of_not_hasCompound noCompound
    obtain ⟨restored, clients⟩ := clients_of_mapM mapped distinct
    rw [ofModel_eq_nameCollision_iff mapped, gathered_of_nodup clients, collision?_eq_some_iff,
      restored]
    refine and_congr_right' (exists₂_congr fun first second => and_congr_right' ?_)
    simp only [clashError, Error.nameCollision.injEq, Prod.ext_iff]
    grind
  · exact ⟨(Blueprint.bindings_of_distinct distinct gathers).1, nodup_names_of_ofModel gathers⟩
  · obtain ⟨derived, named⟩ := Option.ne_none_iff_exists'.mp isTyped.guarantees.1
    exact chooseClassName_of_usable options named

/-- A service of a skill, without fields. -/
def twin (clientName : Text) : ResolvedEndpoint where
  endpoint :=
    { nodeName := "twins_skill", clientName := clientName, kind := .service, rosName := "/get",
      key := ⟨"p", "T"⟩ }
  resolvedFields := []
  requestFields := []

/-- A skill with two services whose identifiers differ, but whose words do not. -/
def twinsModel : TypedModel where
  name := "Twins"
  source := "twins.scxml"
  initial := []
  datamodel := []
  states := []
  endpoints := [twin "get_int", twin "getInt"]

/-- The two services of the skill are reported for the method that they share. -/
theorem nameCheck_exact_twins :
    (twinsModel.endpoints.map (·.endpoint.clientName)).Nodup ∧ ¬ HasCompound twinsModel ∧
      Blueprint.ofModel {} twinsModel =
        .error (.nameCollision .callMethod "getInt" "get_int" "callGetInt") := by
  have distinct : (twinsModel.endpoints.map (·.endpoint.clientName)).Nodup := by decide
  have noCompound : ¬ HasCompound twinsModel := by
    unfold HasCompound
    decide
  have clash : IsFirstClash twinsModel.endpoints (twin "get_int") (twin "getInt") :=
    ⟨[twin "get_int"], [], rfl, List.pairwise_singleton .., List.mem_singleton.mpr rfl,
      by decide +kernel⟩
  refine ⟨distinct, noCompound, ((nameCheck_exact {} distinct noCompound).1 _ _ _ _).mpr ?_⟩
  exact ⟨⟨"TwinsSkill", by decide +kernel⟩, _, _, clash, rfl, rfl, by decide +kernel⟩

end Generation
end SkillNode
