import SkillNode.Proofs.Statechart.HandlerVisits

/-!
# References to clients

A handler or a request refers to a client by a name, which is looked up among the clients
of the declarations without the blanks at its ends. A declaration keeps its own name as it
is written.

A reference that is written like its declaration is therefore found exactly if the name has
no blanks at its ends. The main statement says so, and what becomes of it in either case.
-/

namespace SkillNode
namespace Statechart

open Markup (Tag Node Document)

/-! ## References -/

/-- An element that refers to a client. -/
inductive Reference
  | handler (element : HandlerElement)
  | request (tag : Tag)

namespace Reference

/-- The kind of client that a reference is to. -/
def kind : Reference → Interface.Kind
  | .handler element => element.kind
  | .request _ => .service

/-- The tag of a reference. -/
def tag : Reference → Tag
  | .handler element => element.tag
  | .request tag => tag

/-- The client that a reference is looked up as. -/
def client (reference : Reference) : Text := valueOf reference.tag "name"

/-- A handler stands in a reached state, and a request anywhere. -/
def StandsIn (document : Document) : Reference → Prop
  | .handler element => ∃ state children, Reached document.children state children ∧
      .element element.tag element.children ∈ children ∧
        element.tag.name = handlerTag element.kind
  | .request tag => Below document.children tag ∧ tag.name = requestTag

/-- What is wrong with a reference whose client is not declared. -/
def missing : Reference → Fault
  | .handler element => .noDeclaration element.client element.kind
  | .request tag => .undeclaredClient (valueOf tag "name")

/-- An endpoint has taken what a reference says: the target of a handler and the fields that
its assignments read, or that a request invokes it. -/
def TakenBy (endpoint : Endpoint) : Reference → Prop
  | .handler element => element.target ∈ endpoint.handlerTargets ∧
      ∀ tag ∈ element.assigns, hasDot tag = true →
        (written tag).field ∈ endpoint.assignedFields
  | .request _ => endpoint.isInvoked = true

end Reference

/-- The declaration that a client is looked up as. -/
def declarationOf? (document : Document) (client : Text) : Option (Interface.Kind × Tag) :=
  (declarationsIn document.children).find? fun (kind, tag) => clientOf kind tag = client

theorem kindOf?_ofDocument (document : Document) (client : Text) :
    (Outline.ofDocument document).kindOf? client =
      (declarationOf? document client).map Prod.fst := by
  change ((declarationItems document.children).find? _).map _ = _
  rw [declarationItems_eq, List.find?_map, Option.map_map]
  rfl

/-! ## Complaints about references -/

/-- What is said of a client that is not declared is true, where clients are of some kinds. -/
def Fault.IsJust (kindOf? : Text → Option Interface.Kind) : Fault → Prop
  | .noDeclaration client kind => kindOf? client ≠ some kind
  | .undeclaredClient client => kindOf? client ≠ some .service
  | _ => True

section Just

variable {source element : Text} {line : Nat} {kindOf? : Text → Option Interface.Kind}

theorem Fault.isJust_of_mem_lackOf {name : Text} {value? : Option Text} :
    ∀ fault ∈ lackOf name value?, fault.IsJust kindOf? := by
  unfold lackOf
  split <;> simp [IsJust]

theorem DataItem.isJust_of_mem_faults {item : DataItem} :
    ∀ fault ∈ item.faults, fault.IsJust kindOf? :=
  List.forall_mem_append.mpr ⟨Fault.isJust_of_mem_lackOf, Fault.isJust_of_mem_lackOf⟩

theorem AssignItem.isJust_of_mem_faults {item : AssignItem} :
    ∀ fault ∈ item.faults, fault.IsJust kindOf? :=
  List.forall_mem_append.mpr ⟨Fault.isJust_of_mem_lackOf, Fault.isJust_of_mem_lackOf⟩

theorem DeclarationItem.isJust_of_mem_faults {item : DeclarationItem} :
    ∀ fault ∈ item.faults, fault.IsJust kindOf? := by
  unfold faults
  simp only [List.forall_mem_append]
  refine ⟨Fault.isJust_of_mem_lackOf, Fault.isJust_of_mem_lackOf, ?_, ?_⟩ <;>
    split <;> simp [Fault.IsJust]

theorem HandlerItem.isJust_of_mem_faults {item : HandlerItem} :
    ∀ fault ∈ item.faults kindOf?, fault.IsJust kindOf? := by
  unfold faults
  simp only [List.forall_mem_append]
  refine ⟨⟨Fault.isJust_of_mem_lackOf, Fault.isJust_of_mem_lackOf⟩, ?_⟩
  split <;> simp [Fault.IsJust, *]

/-- The complaints about an element are true if its faults are. -/
theorem Error.isJust_of_mem_map
    {faults : List Fault}
    {error : Error}
    (areJust : ∀ fault ∈ faults, fault.IsJust kindOf?)
    (member : error ∈ faults.map (complaint source element line)) :
    error.fault.IsJust kindOf? := by
  obtain ⟨fault, isFault, rfl⟩ := List.mem_map.mp member
  exact areJust fault isFault

theorem Error.isJust_of_mem_declarationComplaints
    {earlier : List Text}
    {items : List DeclarationItem}
    {error : Error}
    (member : error ∈ declarationComplaints source earlier items) :
    error.fault.IsJust kindOf? := by
  induction items generalizing earlier with
  | nil => cases member
  | cons item rest restHypothesis =>
      rw [declarationComplaints, List.mem_append] at member
      rcases member with first | later
      · refine isJust_of_mem_map (List.forall_mem_append.mpr
          ⟨DeclarationItem.isJust_of_mem_faults, ?_⟩) first
        split <;> simp [Fault.IsJust]
      · exact restHypothesis later

theorem Error.isJust_of_mem_handlerComplaints
    {item : HandlerItem}
    {error : Error}
    (member : error ∈ item.complaints source kindOf?) :
    error.fault.IsJust kindOf? := by
  rcases List.mem_append.mp member with own | inAssign
  · exact isJust_of_mem_map HandlerItem.isJust_of_mem_faults own
  · obtain ⟨assign, _, found⟩ := List.mem_flatMap.mp inAssign
    exact isJust_of_mem_map AssignItem.isJust_of_mem_faults found

theorem Error.isJust_of_mem_requestComplaints
    {item : RequestItem}
    {error : Error}
    (member : error ∈ item.complaints source kindOf?) :
    error.fault.IsJust kindOf? := by
  refine isJust_of_mem_map (List.forall_mem_append.mpr ⟨Fault.isJust_of_mem_lackOf, ?_⟩) member
  split <;> simp [Fault.IsJust, *]

/-- No document is refused for a client that it declares. -/
theorem Error.isJust_of_mem_complaintsOf
    {document : Document}
    {error : Error}
    (member : error ∈ complaintsOf source document) :
    error.fault.IsJust (Outline.ofDocument document).kindOf? := by
  simp only [complaintsOf, Outline.complaints, Outline.itemComplaints, List.mem_append,
    List.mem_flatMap] at member
  rcases member with wrongRoot | unusable | ⟨item, _, inData⟩ | inDeclarations |
    ⟨item, _, inState⟩ | ⟨item, _, inRequest⟩
  · split at wrongRoot
    · cases wrongRoot
    · exact List.mem_singleton.mp wrongRoot ▸ trivial
  · split at unusable
    · exact List.mem_singleton.mp unusable ▸ trivial
    · cases unusable
  · exact isJust_of_mem_map DataItem.isJust_of_mem_faults inData
  · exact isJust_of_mem_declarationComplaints inDeclarations
  · rcases List.mem_append.mp inState with own | inHandler
    · exact isJust_of_mem_map Fault.isJust_of_mem_lackOf own
    · obtain ⟨handler, _, found⟩ := List.mem_flatMap.mp inHandler
      exact isJust_of_mem_handlerComplaints found
  · exact isJust_of_mem_requestComplaints inRequest

end Just

/-! ## References in documents -/

theorem mem_handlersIn_of_mem
    {nodes : List Node}
    {node : Node}
    {handler : HandlerElement}
    (isNode : node ∈ nodes)
    (member : handler ∈ handlersInNode node) :
    handler ∈ handlersIn nodes := by
  induction nodes with
  | nil => cases isNode
  | cons first rest restHypothesis =>
      rw [handlersIn, List.mem_append]
      rcases List.mem_cons.mp isNode with rfl | later
      · exact .inl member
      · exact .inr (restHypothesis later)

/-- The handlers of every reached state are visited. -/
theorem mem_handlersIn_of_reached
    {nodes children : List Node}
    {state : Tag}
    {handler : HandlerElement}
    (reached : Reached nodes state children)
    (member : handler ∈ handlersAmong children) :
    handler ∈ handlersIn nodes := by
  induction reached with
  | here isNode isState =>
      refine mem_handlersIn_of_mem isNode ?_
      rw [handlersInNode, if_pos (List.contains_iff_mem.mpr isState)]
      exact List.mem_append_left _ member
  | deeper isNode isState _ inside =>
      refine mem_handlersIn_of_mem isNode ?_
      rw [handlersInNode, if_pos (List.contains_iff_mem.mpr isState)]
      exact List.mem_append_right _ (inside member)

theorem mem_handlersAmong
    {nodes : List Node}
    {handler : HandlerElement}
    (isNode : .element handler.tag handler.children ∈ nodes)
    (isNamed : handler.tag.name = handlerTag handler.kind) :
    handler ∈ handlersAmong nodes := by
  have tagsDiffer : handlerTag .service ≠ handlerTag .topic := by decide
  unfold handlersAmong
  refine List.mem_filterMap.mpr ⟨(handler.tag, handler.children), mem_elementsOf.mpr isNode, ?_⟩
  dsimp only
  rw [(kindOf?_eq_some_iff tagsDiffer).mpr isNamed]
  rfl

section InDocument

variable {source : Text} {document : Document} {reference : Reference}

theorem mem_handlersIn_of_standsIn
    {handler : HandlerElement}
    (stands : (Reference.handler handler).StandsIn document) :
    handler ∈ handlersIn document.children := by
  obtain ⟨state, children, reached, isChild, isNamed⟩ := stands
  exact mem_handlersIn_of_reached reached (mem_handlersAmong isChild isNamed)

theorem mem_requests_of_standsIn
    {tag : Tag}
    (stands : (Reference.request tag).StandsIn document) :
    ⟨tag.line, tag.attribute? "name"⟩ ∈ (Outline.ofDocument document).requests :=
  List.mem_map.mpr ⟨tag, mem_tagsNamed_iff.mpr stands, rfl⟩

theorem isDeclared_of_declarationOf?
    {client : Text}
    {kind : Interface.Kind}
    (found : (declarationOf? document client).map Prod.fst = some kind) :
    IsDeclared document.children kind client := by
  obtain ⟨⟨_, tag⟩, isFirst, rfl⟩ := Option.map_eq_some_iff.mp found
  exact ⟨tag, List.mem_of_find?_eq_some isFirst, by simpa using List.find?_some isFirst⟩

theorem Reference.isJust_missing_iff {kindOf? : Text → Option Interface.Kind} :
    reference.missing.IsJust kindOf? ↔ kindOf? reference.client ≠ some reference.kind := by
  cases reference <;> exact Iff.rfl

/-- A reference is complained of if its client is not looked up as one of its kind. -/
theorem Reference.complained_of_undeclared
    (stands : reference.StandsIn document)
    (undeclared :
      (declarationOf? document reference.client).map Prod.fst ≠ some reference.kind) :
    complaintsOf source document ≠ [] := by
  intro nothingWrong
  have sound := (Outline.complaints_eq_nil_iff.mp nothingWrong).2.2
  rw [← kindOf?_ofDocument] at undeclared
  cases reference with
  | handler element =>
      have isItem : element.item ∈ (Outline.ofDocument document).handlers := by
        rw [handlers_ofDocument]
        exact List.mem_map_of_mem (mem_handlersIn_of_standsIn stands)
      exact undeclared (HandlerItem.faults_eq_nil_iff.mp (sound.handlers _ isItem)).2.2
  | request tag => exact undeclared (sound.requests _ (mem_requests_of_standsIn stands)).2

end InDocument

/-! ## Endpoints and references -/

/-- An endpoint is that of a declaration of a kind. -/
structure Endpoint.IsDeclaredBy (kind : Interface.Kind) (tag : Tag) (endpoint : Endpoint) :
    Prop where
  sameKind : endpoint.kind = kind
  client : endpoint.clientName = clientOf kind tag
  rosName : endpoint.rosName = valueOf tag (rosNameAttribute kind)

/-- An endpoint has taken nothing of any handler or request. -/
structure Endpoint.IsUnused (endpoint : Endpoint) : Prop where
  targets : endpoint.handlerTargets = []
  fields : endpoint.assignedFields = []
  invoked : endpoint.isInvoked = false

section OfReading

variable {source : Text} {document : Document} {run : Run RawModel} {model : RawModel}

/-- Every declaration has an endpoint, which is invoked if a request refers to its client. -/
theorem exists_endpoint_modelOf
    (source : Text)
    {kind : Interface.Kind}
    {tag : Tag}
    (isDeclaration : (kind, tag) ∈ declarationsIn document.children) :
    ∃ endpoint ∈ (modelOf source document).endpoints, endpoint.IsDeclaredBy kind tag ∧
      endpoint.isInvoked =
        (Outline.ofDocument document).requests.any (·.client = clientOf kind tag) := by
  obtain ⟨nodeName, endpoints⟩ := endpoints_modelOf source document
  rw [endpoints, declarationItems_eq, List.map_map]
  refine ⟨_, List.mem_map_of_mem isDeclaration, ?_⟩
  dsimp only [Function.comp_apply, Endpoint.heed]
  split
  · next invoked => exact ⟨⟨rfl, rfl, rfl⟩, invoked.symm⟩
  · next notInvoked => exact ⟨⟨rfl, rfl, rfl⟩, (Bool.not_eq_true _ ▸ notInvoked).symm⟩

/-- A reference is taken by the endpoint of the client that it is looked up as. -/
theorem Reference.takenBy_of_client
    {reference : Reference}
    {endpoint : Endpoint}
    (stands : reference.StandsIn document)
    (collects : endpoint.Collects document)
    (invoked : endpoint.isInvoked =
      (Outline.ofDocument document).requests.any (·.client = endpoint.clientName))
    (sameClient : reference.client = endpoint.clientName) :
    reference.TakenBy endpoint := by
  cases reference with
  | handler element =>
      have isOwn : element ∈ handlersOf document endpoint.clientName :=
        List.mem_filter.mpr ⟨mem_handlersIn_of_standsIn stands, decide_eq_true sameClient⟩
      refine ⟨collects.targets ▸ List.mem_map_of_mem isOwn, fun tag isAssign dotted => ?_⟩
      rw [collects.fields]
      refine List.mem_map_of_mem (List.mem_filter.mpr ⟨?_, dotted⟩)
      exact List.mem_flatMap.mpr ⟨element, isOwn, isAssign⟩
  | request tag =>
      refine invoked.trans (List.any_eq_true.mpr ⟨_, mem_requests_of_standsIn stands, ?_⟩)
      exact decide_eq_true sameClient

/-- No reference is taken by the endpoint of a client with a blank at an end. -/
theorem Endpoint.isUnused_of_blankEnd
    {endpoint : Endpoint}
    (collects : endpoint.Collects document)
    (invoked : endpoint.isInvoked =
      (Outline.ofDocument document).requests.any (·.client = endpoint.clientName))
    (blankEnd : Text.trim endpoint.clientName ≠ endpoint.clientName) :
    endpoint.IsUnused := by
  have noneRefers : ∀ value? : Option Text, trimmed value? ≠ endpoint.clientName := by
    intro value? sameClient
    exact blankEnd (sameClient ▸ Text.trim_trim _)
  have noHandlers : handlersOf document endpoint.clientName = [] :=
    List.filter_eq_nil_iff.mpr fun element _ sameClient =>
      noneRefers (element.tag.attribute? "name") (of_decide_eq_true sameClient)
  refine ⟨by rw [collects.targets, noHandlers]; rfl, ?_, ?_⟩
  · rw [collects.fields, dottedAssigns, assignsOf, noHandlers]
    rfl
  · rw [invoked, List.any_eq_false]
    exact fun item _ sameClient => noneRefers item.name? (of_decide_eq_true sameClient)

end OfReading

/-! ## References written like declarations -/

/-- A name that is not blank is the name of one declaration and of a reference of its kind,
and no other declaration is of a client called so. -/
structure NamedAlike (document : Document) (tag : Tag) (reference : Reference) (name : Text) :
    Prop where
  only : (declarationsIn document.children).filter (fun (kind, tag) => clientOf kind tag = name) =
    [(reference.kind, tag)]
  declared : tag.attribute? "name" = some name
  stands : reference.StandsIn document
  referred : reference.tag.attribute? "name" = some name
  filled : Text.isAllBlank name = false

section Alike

variable {source : Text} {document : Document} {run : Run RawModel}
variable {tag : Tag} {reference : Reference} {name : Text}

theorem NamedAlike.client_eq (alike : NamedAlike document tag reference name) :
    reference.client = Text.trim name := by
  rw [Reference.client, valueOf, alike.referred]
  rfl

theorem NamedAlike.mem (alike : NamedAlike document tag reference name) :
    (reference.kind, tag) ∈ declarationsIn document.children ∧
      clientOf reference.kind tag = name := by
  have member : (reference.kind, tag) ∈
      (declarationsIn document.children).filter (fun (kind, tag) => clientOf kind tag = name) :=
    alike.only ▸ List.mem_singleton.mpr rfl
  simpa using List.mem_filter.mp member

/-- A reference written like its declaration finds it exactly if no blank is at an end. -/
theorem NamedAlike.found_iff (alike : NamedAlike document tag reference name) :
    declarationOf? document reference.client = some (reference.kind, tag) ↔
      Text.trim name = name := by
  rw [alike.client_eq]
  constructor
  · intro found
    have sameClient : clientOf reference.kind tag = Text.trim name := by
      simpa using List.find?_some found
    rw [← sameClient, alike.mem.2]
  · intro noBlankEnd
    rw [noBlankEnd, declarationOf?, ← List.head?_filter, alike.only]
    rfl

/-- A reference that is written like its declaration, with the same name, finds it exactly
if the name has no blanks at its ends. Then the document is not refused for the reference,
and if it is accepted, the endpoint of the declaration has taken what the reference says.

With blanks at an end the endpoint takes nothing from any reference. The document is refused
unless another declaration of the same kind is of a client called by the name without these
blanks. -/
theorem reference_found_iff
    (reading : IsReading source document run)
    (alike : NamedAlike document tag reference name) :
    (declarationOf? document reference.client = some (reference.kind, tag) ↔
      Text.trim name = name) ∧
    (Text.trim name = name →
      (∀ error, run.outcome = .error (.statechart error) → error.fault ≠ reference.missing) ∧
      ∀ model, run.outcome = .ok model → ∃ endpoint ∈ model.endpoints,
        endpoint.IsDeclaredBy reference.kind tag ∧ reference.TakenBy endpoint) ∧
    (Text.trim name ≠ name →
      (¬ IsDeclared document.children reference.kind (Text.trim name) →
        ∀ model, run.outcome ≠ .ok model) ∧
      ∀ model, run.outcome = .ok model → ∃ endpoint ∈ model.endpoints,
        endpoint.IsDeclaredBy reference.kind tag ∧ endpoint.IsUnused) := by
  have isEndpoint : ∀ model, run.outcome = .ok model → ∃ endpoint ∈ model.endpoints,
      endpoint.IsDeclaredBy reference.kind tag ∧ endpoint.clientName = name ∧
        endpoint.Collects document ∧ endpoint.isInvoked =
          (Outline.ofDocument document).requests.any (·.client = endpoint.clientName) := by
    intro model accepts
    obtain ⟨endpoint, member, declared, invoked⟩ := exists_endpoint_modelOf source alike.mem.1
    rw [← (reading.eq_modelOf accepts).2] at member
    exact ⟨endpoint, member, declared, declared.client.trans alike.mem.2,
      (reading.collects accepts).2 endpoint member, declared.client ▸ invoked⟩
  refine ⟨alike.found_iff, fun noBlankEnd => ⟨fun error refused isMissing => ?_,
    fun model accepts => ?_⟩, fun blankEnd => ⟨fun undeclared model accepts => ?_,
    fun model accepts => ?_⟩⟩
  · obtain ⟨first, later, complaints, isFirst⟩ :=
      ((accepts_iff_isSkill reading).2.1 _).mp refused
    obtain rfl := Failure.statechart.inj isFirst
    have isJust := Error.isJust_of_mem_complaintsOf (complaints ▸ List.mem_cons_self ..)
    rw [isMissing, Reference.isJust_missing_iff, kindOf?_ofDocument,
      alike.found_iff.mpr noBlankEnd] at isJust
    exact isJust rfl
  · obtain ⟨endpoint, member, declared, isClient, collects, invoked⟩ := isEndpoint model accepts
    exact ⟨endpoint, member, declared, reference.takenBy_of_client alike.stands collects invoked
      (alike.client_eq.trans (noBlankEnd.trans isClient.symm))⟩
  · refine Reference.complained_of_undeclared alike.stands (fun found => ?_)
      (reading.eq_modelOf accepts).1
    exact undeclared (alike.client_eq ▸ isDeclared_of_declarationOf? found)
  · obtain ⟨endpoint, member, declared, isClient, collects, invoked⟩ := isEndpoint model accepts
    exact ⟨endpoint, member, declared, endpoint.isUnused_of_blankEnd collects invoked
      (isClient.symm ▸ blankEnd)⟩

end Alike

/-- A skill that listens to a topic under a name. -/
def echoChart (name : Text) : Text :=
  "<scxml name='echo'><ros_topic_subscriber name='" ++ name ++ "' topic='/c' type='p/T'/>" ++
    "<state id='a'><ros_topic_callback name='" ++ name ++ "' target='a'/></state></scxml>"

/-- The outline of the skill. -/
def echoOutline (name : Text) : Outline where
  line := 1
  rootName := "scxml"
  name? := some "echo"
  initial? := none
  data := []
  declarations := [⟨1, .topic, some name, some "/c", some "p/T"⟩]
  states := [⟨1, "state", some "a", none, [], [⟨1, .topic, some name, some "a", []⟩]⟩]
  requests := []

/-- The skill has one declaration, and its handler is written like it. -/
theorem namedAlike_echo
    {document : Document}
    {name : Text}
    (outline : Outline.ofDocument document = echoOutline name)
    (filled : Text.isAllBlank name = false) :
    ∃ tag handler, handler.kind = .topic ∧
      NamedAlike document tag (.handler handler) name := by
  have declarations : (declarationsIn document.children).map declarationItem =
      (echoOutline name).declarations := by
    rw [← declarationItems_eq, ← outline]
    rfl
  obtain ⟨⟨kind, tag⟩, isOnly, isDeclaration⟩ := List.map_eq_singleton_iff.mp declarations
  have isHandler : ⟨1, .topic, some name, some "a", []⟩ ∈
      (Outline.ofDocument document).handlers := by
    rw [outline]
    exact List.mem_singleton.mpr rfl
  obtain ⟨state, children, reached, handlerKind, referring, inner, isChild, isNamed, isItem⟩ :=
    Outline.mem_handlers_ofDocument_iff.mp isHandler
  obtain rfl : kind = .topic := congrArg DeclarationItem.kind isDeclaration
  obtain rfl : handlerKind = .topic := congrArg HandlerItem.kind isItem
  have declared : tag.attribute? "name" = some name := congrArg DeclarationItem.name? isDeclaration
  refine ⟨tag, ⟨.topic, referring, inner⟩, rfl, ?_⟩
  exact {
    only := by
      rw [isOnly]
      refine List.filter_cons_of_pos (decide_eq_true ?_)
      rw [clientOf, declared]
      cases name with
      | nil => cases filled
      | cons c rest => rfl
    declared := declared
    stands := ⟨state, children, reached, isChild, isNamed⟩
    referred := congrArg HandlerItem.name? isItem
    filled := filled }

theorem outline_of_read
    {text : Text}
    {outline : Outline}
    (reads : (Document.read (Text.utf8 text)).toOption.map Outline.ofDocument = some outline) :
    ∃ document, Document.read (Text.utf8 text) = .ok document ∧
      Outline.ofDocument document = outline := by
  cases result : Document.read (Text.utf8 text) with
  | error error =>
      rw [result] at reads
      cases reads
  | ok document =>
      rw [result] at reads
      exact ⟨document, rfl, Option.some.inj reads⟩

/-- Under a name without blanks the handler of the skill is taken. -/
theorem reference_found_echo :
    ∃ document tag handler model,
      Document.read (Text.utf8 (echoChart "c")) = .ok document ∧
        NamedAlike document tag (.handler handler) "c" ∧ Text.trim "c" = "c" ∧
          (ofText "echo.scxml" (echoChart "c")).outcome = .ok model ∧
            ∃ endpoint ∈ model.endpoints, endpoint.IsDeclaredBy .topic tag ∧
              (Reference.handler handler).TakenBy endpoint := by
  have isAccepted : (ofText "echo.scxml" (echoChart "c")).outcome.isOk = true := by
    decide +kernel
  obtain ⟨model, accepts⟩ := exists_ok_of_isOk isAccepted
  have outlined : (Document.read (Text.utf8 (echoChart "c"))).toOption.map Outline.ofDocument =
      some (echoOutline "c") := by
    decide +kernel
  obtain ⟨document, reads, outline⟩ := outline_of_read outlined
  obtain ⟨tag, handler, isTopic, alike⟩ := namedAlike_echo outline rfl
  have found := ((reference_found_iff (.ofText reads) alike).2.1 rfl).2 model accepts
  exact ⟨document, tag, handler, model, reads, alike, rfl, accepts, isTopic ▸ found⟩

/-- With blanks around the name of both, the handler is refused for want of a declaration. -/
theorem reference_notFound_echo :
    ∃ document tag handler error,
      Document.read (Text.utf8 (echoChart " c ")) = .ok document ∧
        NamedAlike document tag (.handler handler) " c " ∧
          (ofText "echo.scxml" (echoChart " c ")).outcome = .error (.statechart error) ∧
            error.fault = (Reference.handler handler).missing := by
  have refused : (ofText "echo.scxml" (echoChart " c ")).outcome =
      .error (.statechart ⟨"echo.scxml", "ros_topic_callback", some 1,
        .noDeclaration "c" .topic⟩) := by
    decide +kernel
  have outlined : (Document.read (Text.utf8 (echoChart " c "))).toOption.map Outline.ofDocument =
      some (echoOutline " c ") := by
    decide +kernel
  obtain ⟨document, reads, outline⟩ := outline_of_read outlined
  obtain ⟨tag, handler, isTopic, alike⟩ := namedAlike_echo outline rfl
  have isClient : handler.client = "c" := alike.client_eq
  refine ⟨document, tag, handler, _, reads, alike, refused, ?_⟩
  change Fault.noDeclaration "c" .topic = .noDeclaration handler.client handler.kind
  rw [isClient, isTopic]

end Statechart
end SkillNode
