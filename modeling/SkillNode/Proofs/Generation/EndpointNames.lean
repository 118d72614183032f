import SkillNode.Proofs.Generation.Declarations
import SkillNode.Proofs.Generation.MemberNames
import SkillNode.Proofs.Naming.AsciiIdentifiers
import SkillNode.Proofs.Statechart.References

/-!
# Names of the members of an endpoint

The member of an endpoint and its two methods are called after the client, or after the service
or topic if the client name has no letter and no number. Signs and blanks of such a name do no
harm, and neither do digits at its start, but its letters and numbers are taken over as they
are, of whatever script.

So the names are identifiers exactly if these letters and numbers are of ASCII. The names of a
client that is written with an accent are none.
-/

namespace SkillNode

namespace Text

/-- An identifier goes on as one exactly with ASCII letters, digits and underscores. -/
theorem isCIdentifier_append_iff {start rest : Text} (isName : isCIdentifier start = true) :
    isCIdentifier (start ++ rest) = true ↔ ∀ c ∈ rest, isAsciiWord c = true := by
  cases start with
  | nil => cases isName
  | cons first others =>
      obtain ⟨starts, areWords⟩ := Bool.and_eq_true_iff.mp isName
      rw [List.cons_append, isCIdentifier, starts, Bool.true_and, List.all_append, areWords,
        Bool.true_and, List.all_eq_true]

end Text

namespace Statechart

/-- What the generated names of a declared client are made of: the client name, or the last
segment of the service or topic name if the client name has no letter and no number. -/
def nameSource (client rosName : Text) : Text :=
  if client.any Text.isAlphanumeric then
    client
  else
    (Naming.rosSegments rosName).getLast?.getD []

end Statechart

namespace Generation

open Markup (Document)
open Statechart (IsReading RawModel clientOf declarationsIn declaredClients nameSource
  rosNameAttribute valueOf)

namespace Binding

/-- The member and the methods of an endpoint have the form of identifiers. -/
structure HasIdentifiers (binding : Binding) : Prop where
  member : Text.isCIdentifier binding.memberName = true
  callMethod : Text.isCIdentifier binding.callMethod = true
  callbackMethod : Text.isCIdentifier binding.callbackMethod = true

theorem identifier_eq (binding : Binding) :
    binding.identifier =
      Naming.identifier (nameSource binding.clientName binding.endpoint.rosName) := by
  rw [identifier, nameSource]
  split
  · next isEmpty =>
      have noLetter : binding.clientName.any Text.isAlphanumeric = false := by
        rw [List.any_eq_false]
        intro c member isLetter
        rw [Naming.identifier_eq_nil_iff.mp isEmpty c member] at isLetter
        cases isLetter
      rw [noLetter]
      rfl
  · next c rest stands =>
      have someLetter : binding.clientName.any Text.isAlphanumeric = true := by
        by_contra noLetter
        rw [Bool.not_eq_true, List.any_eq_false] at noLetter
        rw [Naming.identifier_eq_nil_iff.mpr fun d member =>
          Bool.not_eq_true _ ▸ noLetter d member] at stands
        cases stands
      rw [if_pos someLetter, stands]

/-- The names of an endpoint are identifiers exactly if its identifier is of ASCII. -/
theorem hasIdentifiers_iff (binding : Binding) :
    binding.HasIdentifiers ↔ ∀ c ∈ binding.identifier, Text.isAsciiWord c = true := by
  have memberStart : Text.isCIdentifier (nameStart true binding.isService) = true := by
    cases binding.isService <;> decide
  have endsAscii :
      ∀ c ∈ ((if binding.isService then "Response" else "Message" : String) : Text),
        Text.isAsciiWord c = true :=
    List.all_eq_true.mp (by cases binding.isService <;> decide)
  constructor
  · intro has
    exact (Text.isCIdentifier_append_iff memberStart).mp (binding.memberName_eq ▸ has.member)
  · intro areWords
    have methodWords : ∀ c ∈ Naming.pascalCase binding.identifier, Text.isAsciiWord c = true :=
      fun c => Naming.isAsciiWord_of_mem_pascalCase areWords
    exact {
      member := binding.memberName_eq ▸ (Text.isCIdentifier_append_iff memberStart).mpr areWords
      callMethod := (Text.isCIdentifier_append_iff (by decide)).mpr methodWords
      callbackMethod := by
        rw [callbackMethod, List.append_assoc]
        refine (Text.isCIdentifier_append_iff (by decide)).mpr ?_
        exact List.forall_mem_append.mpr ⟨methodWords, endsAscii⟩ }

end Binding

/-- In every blueprint of a document that is accepted, each declared client has a binding, and
the names of the binding are identifiers exactly if the letters and numbers of what they are
made of are of ASCII: those of the client name, explicit or that of the service or topic, or if
there are none, those of the last segment of the service or topic. -/
theorem endpointNames_areIdentifiers_iff
    {source : Text}
    {document : Document}
    {run : Run RawModel}
    {model : RawModel}
    {catalog : Interface.Catalog}
    {options : Options}
    {blueprint : Blueprint}
    (reading : IsReading source document run)
    (accepts : run.outcome = .ok model)
    (gathers : Blueprint.ofModel options (Statechart.resolve model catalog) = .ok blueprint) :
    blueprint.bindings.map (·.endpoint.client) = declaredClients document ∧
      ∀ kind tag, (kind, tag) ∈ declarationsIn document.children →
        ∃ binding ∈ blueprint.bindings, binding.endpoint.IsDeclaredBy kind tag ∧
          (binding.HasIdentifiers ↔ Naming.HasAsciiLetters
            (nameSource (clientOf kind tag) (valueOf tag (rosNameAttribute kind)))) := by
  have clients := reading.clients accepts
  have distinct : ((Statechart.resolve model catalog).endpoints.map
      (·.endpoint.clientName)).Nodup := by
    have declared := reading.distinctClients accepts
    rw [← clients, List.map_map] at declared
    rw [Statechart.clients_resolve]
    exact declared
  have restored : blueprint.bindings.map Binding.endpoint = model.endpoints := by
    rw [← Statechart.endpoints_resolve model catalog,
      ← (Blueprint.bindings_of_distinct distinct gathers).1, List.map_map]
    rfl
  refine ⟨?_, fun kind tag isDeclaration => ?_⟩
  · rw [← clients, ← restored, List.map_map]
    rfl
  · obtain ⟨endpoint, isEndpoint, declared, _⟩ :=
      Statechart.exists_endpoint_modelOf source isDeclaration
    rw [← (reading.eq_modelOf accepts).2, ← restored] at isEndpoint
    obtain ⟨binding, isBinding, rfl⟩ := List.mem_map.mp isEndpoint
    refine ⟨binding, isBinding, declared, ?_⟩
    rw [binding.hasIdentifiers_iff, binding.identifier_eq,
      Naming.forall_isAsciiWord_identifier_iff, ← declared.client, ← declared.rosName]
    rfl

/-- A bar that is listened to under a name. -/
def barChart (name : Text) : Text :=
  "<scxml name='bar'><ros_topic_subscriber name='" ++ name ++ "' topic='/t' type='p/T'/></scxml>"

/-- What is read of it. -/
def barModel (name : Text) : RawModel where
  name := "bar"
  source := "bar.scxml"
  initial := ""
  datamodel := []
  states := []
  endpoints :=
    [{ nodeName := "bar_skill", clientName := name, kind := .topic, rosName := "/t",
       key := ⟨"p", "T"⟩ }]

/-- A digit at the start and a sign do no harm to the names of the bar. -/
theorem endpointNames_areIdentifiers_bar :
    ∃ document blueprint,
      Document.read (Text.utf8 (barChart "2-bar")) = .ok document ∧
        Blueprint.ofModel {} (Statechart.resolve (barModel "2-bar") Interface.Catalog.empty) =
          .ok blueprint ∧
        blueprint.bindings.map Binding.memberName = [("m_subscription__2_bar" : Text)] ∧
        ∃ binding ∈ blueprint.bindings, binding.HasIdentifiers := by
  have accepts : (Statechart.ofText "bar.scxml" (barChart "2-bar")).outcome =
      .ok (barModel "2-bar") := by
    decide +kernel
  have gathered : (Blueprint.ofModel {} (Statechart.resolve (barModel "2-bar")
      Interface.Catalog.empty)).toOption.map (·.bindings.map Binding.memberName) =
        some [("m_subscription__2_bar" : Text)] := by
    decide +kernel
  obtain ⟨document, reads⟩ := Statechart.exists_document_of_ofText accepts
  obtain ⟨blueprint, isGathered, names⟩ := Option.map_eq_some_iff.mp gathered
  have gathers := eq_ok_of_toOption isGathered
  have reading : IsReading "bar.scxml" document _ := .ofText reads
  obtain ⟨_, haveBindings⟩ := endpointNames_areIdentifiers_iff reading accepts gathers
  have isClient : ((.topic : Interface.Kind), ("2-bar" : Text)) ∈ declaredClients document := by
    rw [← reading.clients accepts]
    exact List.mem_singleton.mpr rfl
  obtain ⟨⟨kind, tag⟩, isDeclaration, sameClient⟩ := List.mem_map.mp isClient
  obtain ⟨binding, isBinding, _, identifiersIff⟩ := haveBindings kind tag isDeclaration
  have isNamed : clientOf kind tag = ("2-bar" : Text) := congrArg Prod.snd sameClient
  have ofClient : ∀ rosName, nameSource ("2-bar" : Text) rosName = "2-bar" := fun _ => rfl
  rw [isNamed, ofClient] at identifiersIff
  have checked : ("2-bar" : Text).all (fun c => !Text.isAlphanumeric c || c.isAlphanum) = true := by
    decide
  have hasAscii : Naming.HasAsciiLetters "2-bar" := by
    intro c member isLetter
    simpa [isLetter] using List.all_eq_true.mp checked c member
  exact ⟨document, blueprint, reads, gathers, names, binding, isBinding,
    identifiersIff.mpr hasAscii⟩

/-- The accent of a client name is taken over into the names of the bar. -/
theorem endpointNames_notIdentifiers_cafe :
    (Statechart.ofText "bar.scxml" (barChart "café")).outcome = .ok (barModel "café") ∧
      ∃ blueprint,
        Blueprint.ofModel {} (Statechart.resolve (barModel "café") Interface.Catalog.empty) =
          .ok blueprint ∧
        ∃ binding ∈ blueprint.bindings,
          binding.memberName = ("m_subscription_café" : Text) ∧
            binding.callMethod = ("callCafé" : Text) ∧
              binding.callbackMethod = ("onCaféMessage" : Text) ∧ ¬ binding.HasIdentifiers := by
  have gathered : (Blueprint.ofModel {} (Statechart.resolve (barModel "café")
      Interface.Catalog.empty)).toOption.map (·.bindings.map fun binding =>
        (binding.memberName, binding.callMethod, binding.callbackMethod)) =
      some [(("m_subscription_café" : Text), ("callCafé" : Text), ("onCaféMessage" : Text))] := by
    decide +kernel
  obtain ⟨blueprint, isGathered, names⟩ := Option.map_eq_some_iff.mp gathered
  obtain ⟨binding, isOnly, isNamed⟩ := List.map_eq_singleton_iff.mp names
  obtain ⟨member, callMethod, callbackMethod⟩ : _ ∧ _ ∧ _ := by simpa using isNamed
  refine ⟨by decide +kernel, blueprint, eq_ok_of_toOption isGathered, binding,
    isOnly ▸ List.mem_singleton.mpr rfl, member, callMethod, callbackMethod, fun has => ?_⟩
  have isName := has.member
  rw [member] at isName
  exact absurd isName (by decide)

end Generation
end SkillNode
