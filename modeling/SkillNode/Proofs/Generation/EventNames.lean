import SkillNode.Proofs.Generation.EndpointNames
import SkillNode.Proofs.Naming.RosNames

/-!
# Names of services, topics and events

The service or topic of a declaration is called by segments with slashes between them. The
endpoint is called after the last segment, its server after those before, and its events after
all of them, joined by points. The name is cut once for the endpoint and once for the events,
with and without the blanks around it.

The main statement says that all of these names go by the segments of the attribute as it is
written, so that no other spelling of the attribute changes any of them.
-/

namespace SkillNode
namespace Generation

open Markup (Tag Document)
open Naming (SpellsSame)
open Statechart (Endpoint IsReading RawModel declarationsIn rosNameAttribute)

/-! ## Endpoints and segments -/

/-- An endpoint and its events are called after some segments. -/
structure IsNamedBy (segments : List Text) (endpoint : Endpoint) : Prop where
  notEmpty : segments ≠ []
  function : segments.getLast? = some endpoint.functionName
  server : endpoint.isService = true →
    Text.segments '/' endpoint.serverName ++ [endpoint.functionName] = segments
  call : ∀ binding : Binding, binding.endpoint = endpoint →
    binding.eventCall = Text.join "." segments ++ ".Call"
  answer : ∀ binding : Binding, binding.endpoint = endpoint →
    binding.eventReturn =
      Text.join "." segments ++ if endpoint.isService then ".Return" else ".Sub"

/-- Two endpoints have the same names for their functions, servers and events. -/
structure NamesSame (first second : Endpoint) : Prop where
  function : first.functionName = second.functionName
  server : first.serverName = second.serverName
  events : ∀ firstBinding secondBinding : Binding,
    firstBinding.endpoint = first → secondBinding.endpoint = second →
      firstBinding.eventCall = secondBinding.eventCall ∧
        firstBinding.eventReturn = secondBinding.eventReturn

variable {endpoint : Endpoint} {written : Text}

/-- Trimming the name once more before it is cut changes nothing. -/
theorem rosSegments_trim (written : Text) :
    Naming.rosSegments (Text.trim written) = Text.segments '/' (Text.trim written) := by
  rw [Naming.rosSegments, Text.trim_trim]

theorem segments_serverName
    (isService : endpoint.isService = true) :
    Text.segments '/' endpoint.serverName = (Naming.rosSegments endpoint.rosName).dropLast := by
  rw [Endpoint.serverName, if_pos isService]
  exact Text.segments_join fun segment member =>
    Text.isSegment_of_mem_segments ((List.dropLast_sublist _).mem member)

/-- An endpoint that is declared with some name is called after the segments of that name. -/
theorem isNamedBy_of_rosName
    (declared : endpoint.rosName = Text.trim written)
    (notEmpty : Text.segments '/' (Text.trim written) ≠ []) :
    IsNamedBy (Text.segments '/' (Text.trim written)) endpoint := by
  have cutAlike : Naming.rosSegments endpoint.rosName = Text.segments '/' (Text.trim written) := by
    rw [declared, rosSegments_trim]
  have last : (Text.segments '/' (Text.trim written)).getLast notEmpty = endpoint.functionName := by
    rw [Endpoint.functionName, cutAlike, List.getLast?_eq_getLast_of_ne_nil notEmpty]
    rfl
  have base : ∀ binding : Binding, binding.endpoint = endpoint →
      binding.eventBase = Text.join "." (Text.segments '/' (Text.trim written)) := by
    rintro binding rfl
    rw [Binding.eventBase, declared]
  refine ⟨notEmpty, ?_, fun isService => ?_, fun binding isOf => ?_, fun binding isOf => ?_⟩
  · rw [List.getLast?_eq_getLast_of_ne_nil notEmpty, last]
  · rw [segments_serverName isService, cutAlike, ← last, List.dropLast_append_getLast]
  · rw [Binding.eventCall, base binding isOf]
  · rw [Binding.eventReturn, base binding isOf, Binding.isService, isOf]

/-- Endpoints of one kind whose names spell the same have the same names. -/
theorem namesSame_of_spellsSame
    {other : Endpoint}
    {otherWritten : Text}
    (sameKind : endpoint.kind = other.kind)
    (declared : endpoint.rosName = Text.trim written)
    (otherDeclared : other.rosName = Text.trim otherWritten)
    (same : SpellsSame written otherWritten) :
    NamesSame endpoint other := by
  have segments : Text.segments '/' endpoint.rosName = Text.segments '/' other.rosName := by
    rw [declared, otherDeclared]
    exact same.rosSegments_eq
  have cutAlike : Naming.rosSegments endpoint.rosName = Naming.rosSegments other.rosName := by
    rw [declared, otherDeclared, rosSegments_trim, rosSegments_trim]
    exact same.rosSegments_eq
  have isService : endpoint.isService = other.isService := by
    rw [Endpoint.isService, Endpoint.isService, sameKind]
  refine ⟨?_, ?_, ?_⟩
  · rw [Endpoint.functionName, Endpoint.functionName, cutAlike]
  · rw [Endpoint.serverName, Endpoint.serverName, cutAlike, isService]
  · rintro first second rfl rfl
    have base : first.eventBase = second.eventBase := by
      rw [Binding.eventBase, Binding.eventBase, segments]
    exact ⟨by rw [Binding.eventCall, Binding.eventCall, base],
      by rw [Binding.eventReturn, Binding.eventReturn, base, Binding.isService, Binding.isService,
        isService]⟩

/-! ## Declarations -/

/-- Every declaration of a document that is accepted has an endpoint, and the endpoint and its
events are called after the segments of the service or topic as it is written, of which there
is at least one. Another text has the same segments exactly if it spells the same name, and an
endpoint of this kind that is declared with such a text has the same names. -/
theorem eventNames_followSegments
    {source : Text}
    {document : Document}
    {run : Run RawModel}
    {model : RawModel}
    (reading : IsReading source document run)
    (accepts : run.outcome = .ok model)
    {kind : Interface.Kind}
    {tag : Tag}
    (isDeclaration : (kind, tag) ∈ declarationsIn document.children) :
    ∃ written, tag.attribute? (rosNameAttribute kind) = some written ∧
      ∃ endpoint ∈ model.endpoints, endpoint.IsDeclaredBy kind tag ∧
        IsNamedBy (Text.segments '/' (Text.trim written)) endpoint ∧
        (∀ other, Text.segments '/' (Text.trim written) = Text.segments '/' (Text.trim other) ↔
          SpellsSame written other) ∧
        ∀ other otherEndpoint, SpellsSame written other → otherEndpoint.kind = kind →
          otherEndpoint.rosName = Text.trim other → NamesSame endpoint otherEndpoint := by
  obtain ⟨nothingWrong, rfl⟩ := reading.eq_modelOf accepts
  have complete :=
    (Statechart.complaintsOf_eq_nil_iff.mp nothingWrong).declarations kind tag isDeclaration
  obtain ⟨written, isWritten, _⟩ := complete.rosName
  obtain ⟨endpoint, isEndpoint, declaredBy, _⟩ :=
    Statechart.exists_endpoint_modelOf source isDeclaration
  have trimmed : Statechart.valueOf tag (rosNameAttribute kind) = Text.trim written := by
    rw [Statechart.valueOf, isWritten]
    rfl
  have declared := declaredBy.rosName
  have segment := complete.segment
  rw [trimmed] at declared segment
  rw [rosSegments_trim] at segment
  refine ⟨written, isWritten, endpoint, isEndpoint, declaredBy,
    isNamedBy_of_rosName declared segment, fun other => Naming.rosSegments_eq_iff, ?_⟩
  intro other otherEndpoint same isKind otherDeclared
  exact namesSame_of_spellsSame (declaredBy.sameKind.trans isKind.symm) declared otherDeclared same

/-- An arm with a service whose name is written with blanks and with more slashes than it needs,
and with a segment of nothing but a blank. -/
def armChart : Text :=
  "<scxml name='arm'>" ++ "<ros_service_client name='c' " ++ "service_name=' //arm/ //Get/ ' " ++
    "type='p/T'/></scxml>"

/-- What is read of it. -/
def armModel : RawModel where
  name := "arm"
  source := "arm.scxml"
  initial := ""
  datamodel := []
  states := []
  endpoints :=
    [{ nodeName := "arm_skill", clientName := "c", kind := .service, rosName := "//arm/ //Get/",
       key := ⟨"p", "T"⟩ }]

/-- The segment that is blank is one of the arm's name like the others, and a plainer spelling
of the name leaves all names as they are. -/
theorem eventNames_followSegments_arm :
    ∃ document, Document.read (Text.utf8 armChart) = .ok document ∧
      ∃ endpoint ∈ armModel.endpoints,
        IsNamedBy ["arm", " ", "Get"] endpoint ∧ SpellsSame " //arm/ //Get/ " "arm/ /Get" ∧
          ∀ other : Endpoint, other.kind = .service → other.rosName = ("arm/ /Get" : Text) →
            NamesSame endpoint other := by
  have accepts : (Statechart.ofText "arm.scxml" armChart).outcome = .ok armModel := by
    decide +kernel
  have declarations : (Document.read (Text.utf8 armChart)).toOption.map (fun document =>
      (declarationsIn document.children).map fun declaration =>
        (declaration.1, declaration.2.attribute? (rosNameAttribute declaration.1))) =
      some [((.service : Interface.Kind), some (" //arm/ //Get/ " : Text))] := by
    decide +kernel
  obtain ⟨document, reads⟩ := Statechart.exists_document_of_ofText accepts
  rw [reads] at declarations
  obtain ⟨⟨kind, tag⟩, isOnly, isWritten⟩ :=
    List.map_eq_singleton_iff.mp (Option.some.inj declarations)
  obtain ⟨rfl, isName⟩ := Prod.mk.inj isWritten
  have isDeclaration : (Interface.Kind.service, tag) ∈ declarationsIn document.children :=
    isOnly ▸ List.mem_singleton.mpr rfl
  obtain ⟨written, sameName, endpoint, isEndpoint, _, isNamed, spelled, unchanged⟩ :=
    eventNames_followSegments (.ofText reads) accepts isDeclaration
  obtain rfl : (" //arm/ //Get/ " : Text) = written := Option.some.inj (isName.symm.trans sameName)
  have sameSegments : SpellsSame " //arm/ //Get/ " "arm/ /Get" :=
    (spelled "arm/ /Get").mp (by decide)
  exact ⟨document, reads, endpoint, isEndpoint, isNamed, sameSegments,
    fun other isService declared => unchanged "arm/ /Get" other sameSegments isService declared⟩

end Generation
end SkillNode
