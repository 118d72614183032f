import SkillNode.Proofs.FileTree.NormalPaths
import SkillNode.Proofs.Statechart.DocumentTrees
import SkillNode.Proofs.Statechart.ReadModels
import SkillNode.Proofs.Statechart.SoundOutlines

/-!
# Accepted documents

Which documents are read as a model, said of the tree and the attributes of its elements.
Five groups of elements are looked at, each at its own depth: data elements inside
datamodels, declarations, states reached through states, handlers with the assignments
below them, and requests anywhere.

A document that is not accepted is refused with the first complaint about it, which points
to one of its elements.
-/

namespace SkillNode
namespace Statechart

open FileTree (Path Tree)
open Markup (Converters Tag Node Document)

/-! ## The language -/

/-- An attribute is there and not blank. -/
def IsFilled (tag : Tag) (name : Text) : Prop :=
  ∃ value, tag.attribute? name = some value ∧ Text.isAllBlank value = false

/-- The value of an attribute without the blanks at its ends. -/
def valueOf (tag : Tag) (name : Text) : Text := Text.trim ((tag.attribute? name).getD [])

/-- The client that a declaration declares: called by its name as written, or else after
its service or topic. -/
def clientOf (kind : Interface.Kind) (tag : Tag) : Text :=
  ((tag.attribute? "name").filter (!·.isEmpty)).getD (valueOf tag (rosNameAttribute kind))

/-- The skill that a document describes: called by its name as written, or else after the
stem of its source. -/
def skillNameOf (source : Text) (document : Document) : Text :=
  ((document.root.attribute? "name").filter (!·.isEmpty)).getD (Path.ofText source).stem

/-- A client of a kind is declared among nodes. -/
def IsDeclared (nodes : List Node) (kind : Interface.Kind) (client : Text) : Prop :=
  ∃ tag, (kind, tag) ∈ declarationsIn nodes ∧ clientOf kind tag = client

/-- The tag of a complete declaration of a kind. -/
structure IsDeclaration (kind : Interface.Kind) (tag : Tag) : Prop where
  rosName : IsFilled tag (rosNameAttribute kind)
  segment : Naming.rosSegments (valueOf tag (rosNameAttribute kind)) ≠ []
  type : IsFilled tag "type"
  package : (Naming.splitInterfaceId (valueOf tag "type")).1 ≠ []
  typeName : (Naming.splitInterfaceId (valueOf tag "type")).2 ≠ []

/-- A complete handler of a kind with what is in it, where the declarations are among the
nodes. -/
structure IsHandler
    (nodes : List Node)
    (kind : Interface.Kind)
    (tag : Tag)
    (children : List Node) : Prop where
  name : IsFilled tag "name"
  target : IsFilled tag "target"
  declared : IsDeclared nodes kind (valueOf tag "name")
  assigns : ∀ assign, Below children assign → assign.name = assignTag →
    IsFilled assign "location" ∧ IsFilled assign "expr"

/-- A document that describes a skill. -/
structure IsSkill (source : Text) (document : Document) : Prop where
  root : document.root.name = rootTag
  className : Naming.className? (skillNameOf source document) ≠ none
  data : ∀ group members, .element group members ∈ document.children →
    group.name = datamodelTag → ∀ tag children, .element tag children ∈ members →
      tag.name = dataTag → IsFilled tag "id" ∧ IsFilled tag "type"
  declarations : ∀ kind tag, (kind, tag) ∈ declarationsIn document.children →
    IsDeclaration kind tag
  clients : ((declarationsIn document.children).map fun (kind, tag) => clientOf kind tag).Nodup
  states : ∀ tag children, Reached document.children tag children → IsFilled tag "id"
  handlers : ∀ state children, Reached document.children state children →
    ∀ kind tag inner, .element tag inner ∈ children → tag.name = handlerTag kind →
      IsHandler document.children kind tag inner
  requests : ∀ tag, Below document.children tag → tag.name = requestTag →
    IsFilled tag "name" ∧ IsDeclared document.children .service (valueOf tag "name")

/-! ## Items and elements -/

theorem isFilled_iff {tag : Tag} {name : Text} :
    IsFilled tag name ↔ trimmed (tag.attribute? name) ≠ [] := by
  unfold IsFilled trimmed
  cases tag.attribute? name with
  | none => simp [Text.trim_eq_nil_iff, Text.isAllBlank]
  | some value => simp [Text.trim_eq_nil_iff]

theorem DataItem.faults_ofTag_iff {tag : Tag} :
    (DataItem.ofTag tag).faults = [] ↔ IsFilled tag "id" ∧ IsFilled tag "type" := by
  rw [faults_eq_nil_iff, isFilled_iff, isFilled_iff]
  rfl

theorem faults_declarationItem_iff {kind : Interface.Kind} {tag : Tag} :
    (declarationItem (kind, tag)).faults = [] ↔ IsDeclaration kind tag := by
  rw [DeclarationItem.faults_eq_nil_iff]
  constructor
  · rintro ⟨rosName, type, package, typeName, segment⟩
    exact ⟨isFilled_iff.mpr rosName, segment, isFilled_iff.mpr type, package, typeName⟩
  · rintro ⟨rosName, segment, type, package, typeName⟩
    exact ⟨isFilled_iff.mp rosName, isFilled_iff.mp type, package, typeName, segment⟩

theorem AssignItem.faults_ofTag_iff {tag : Tag} :
    (AssignItem.ofTag tag).faults = [] ↔ IsFilled tag "location" ∧ IsFilled tag "expr" := by
  rw [faults_eq_nil_iff, isFilled_iff, isFilled_iff]
  rfl

/-- The assignments of a handler are complete if those below it are. -/
theorem assigns_handlerItem_iff {kind : Interface.Kind} {tag : Tag} {children : List Node} :
    (∀ assign ∈ (handlerItem kind tag children).assigns, assign.faults = []) ↔
      ∀ assign, Below children assign → assign.name = assignTag →
        IsFilled assign "location" ∧ IsFilled assign "expr" := by
  simp only [handlerItem, List.forall_mem_map, mem_tagsNamed_iff, AssignItem.faults_ofTag_iff,
    and_imp]

namespace Outline

/-- Where clients are distinct, the kind of a client is that of any declaration of it. -/
theorem kindOf?_eq_some_iff
    {outline : Outline}
    (distinct : (outline.declarations.map DeclarationItem.clientName).Nodup)
    {client : Text}
    {kind : Interface.Kind} :
    outline.kindOf? client = some kind ↔
      ∃ item ∈ outline.declarations, item.clientName = client ∧ item.kind = kind := by
  unfold kindOf?
  rw [Option.map_eq_some_iff]
  constructor
  · rintro ⟨item, found, isKind⟩
    obtain ⟨member, isClient⟩ := (find?_key_eq_some_iff distinct).mp found
    exact ⟨item, member, isClient, isKind⟩
  · rintro ⟨item, member, isClient, isKind⟩
    exact ⟨item, (find?_key_eq_some_iff distinct).mpr ⟨member, isClient⟩, isKind⟩

variable {document : Document}

theorem clients_ofDocument :
    (ofDocument document).declarations.map DeclarationItem.clientName =
      (declarationsIn document.children).map fun (kind, tag) => clientOf kind tag := by
  change (declarationItems document.children).map DeclarationItem.clientName = _
  rw [declarationItems_eq, List.map_map]
  rfl

theorem kindOf?_ofDocument_iff
    (distinct : ((ofDocument document).declarations.map DeclarationItem.clientName).Nodup)
    {client : Text}
    {kind : Interface.Kind} :
    (ofDocument document).kindOf? client = some kind ↔
      IsDeclared document.children kind client := by
  rw [kindOf?_eq_some_iff distinct]
  change (∃ item ∈ declarationItems document.children, _) ↔ _
  rw [declarationItems_eq]
  constructor
  · rintro ⟨item, member, isClient, isKind⟩
    obtain ⟨⟨declared, tag⟩, isDeclaration, rfl⟩ := List.mem_map.mp member
    obtain rfl : declared = kind := isKind
    exact ⟨tag, isDeclaration, isClient⟩
  · rintro ⟨tag, isDeclaration, isClient⟩
    exact ⟨_, List.mem_map_of_mem isDeclaration, isClient, rfl⟩

/-- A handler of a document is complete, and so are its assignments. -/
theorem handler_ofDocument_iff
    (distinct : ((ofDocument document).declarations.map DeclarationItem.clientName).Nodup)
    {kind : Interface.Kind}
    {tag : Tag}
    {children : List Node} :
    ((handlerItem kind tag children).faults (ofDocument document).kindOf? = [] ∧
        ∀ assign ∈ (handlerItem kind tag children).assigns, assign.faults = []) ↔
      IsHandler document.children kind tag children := by
  rw [assigns_handlerItem_iff, HandlerItem.faults_eq_nil_iff, kindOf?_ofDocument_iff distinct]
  constructor
  · rintro ⟨⟨name, target, declared⟩, assigns⟩
    exact ⟨isFilled_iff.mpr name, isFilled_iff.mpr target, declared, assigns⟩
  · rintro ⟨name, target, declared, assigns⟩
    exact ⟨⟨isFilled_iff.mp name, isFilled_iff.mp target, declared⟩, assigns⟩

/-- The handlers of an outline are the children of reached states with the tag of a handler. -/
theorem mem_handlers_ofDocument_iff {item : HandlerItem} :
    item ∈ (ofDocument document).handlers ↔
      ∃ state children, Reached document.children state children ∧
        ∃ kind tag inner, .element tag inner ∈ children ∧ tag.name = handlerTag kind ∧
          handlerItem kind tag inner = item := by
  unfold handlers
  rw [List.mem_flatMap]
  constructor
  · rintro ⟨stateItem, isState, isHandler⟩
    obtain ⟨outer?, state, children, reached, rfl⟩ := reached_of_mem_stateItems _ isState
    exact ⟨state, children, reached, mem_handlers_iff.mp isHandler⟩
  · rintro ⟨state, children, reached, isHandler⟩
    obtain ⟨outer?, isState⟩ := mem_stateItems_of_reached reached none
    exact ⟨_, isState, mem_handlers_iff.mpr isHandler⟩

theorem data_ofDocument_iff :
    (∀ item ∈ (ofDocument document).data, item.faults = []) ↔
      ∀ group members, .element group members ∈ document.children →
        group.name = datamodelTag → ∀ tag children, .element tag children ∈ members →
          tag.name = dataTag → IsFilled tag "id" ∧ IsFilled tag "type" := by
  constructor
  · intro complete group members isGroup isDatamodel tag children isChild isData
    exact DataItem.faults_ofTag_iff.mp (complete _ (mem_dataItems_iff.mpr
      ⟨group, members, tag, children, isGroup, isDatamodel, isChild, isData, rfl⟩))
  · intro filled item member
    obtain ⟨group, members, tag, children, isGroup, isDatamodel, isChild, isData, rfl⟩ :=
      mem_dataItems_iff.mp member
    exact DataItem.faults_ofTag_iff.mpr
      (filled group members isGroup isDatamodel tag children isChild isData)

theorem declarations_ofDocument_iff :
    (∀ item ∈ (ofDocument document).declarations, item.faults = []) ↔
      ∀ kind tag, (kind, tag) ∈ declarationsIn document.children → IsDeclaration kind tag := by
  change (∀ item ∈ declarationItems document.children, _) ↔ _
  rw [declarationItems_eq, List.forall_mem_map, Prod.forall]
  simp only [faults_declarationItem_iff]

theorem states_ofDocument_iff :
    (∀ item ∈ (ofDocument document).states, trimmed item.id? ≠ []) ↔
      ∀ tag children, Reached document.children tag children → IsFilled tag "id" := by
  constructor
  · intro filled tag children reached
    obtain ⟨outer?, member⟩ := mem_stateItems_of_reached reached none
    exact isFilled_iff.mpr (filled _ member)
  · intro filled item member
    obtain ⟨outer?, tag, children, reached, rfl⟩ := reached_of_mem_stateItems _ member
    exact isFilled_iff.mp (filled tag children reached)

theorem handlers_ofDocument_iff
    (distinct : ((ofDocument document).declarations.map DeclarationItem.clientName).Nodup) :
    (∀ item ∈ (ofDocument document).handlers, item.faults (ofDocument document).kindOf? = [] ∧
        ∀ assign ∈ item.assigns, assign.faults = []) ↔
      ∀ state children, Reached document.children state children →
        ∀ kind tag inner, .element tag inner ∈ children → tag.name = handlerTag kind →
          IsHandler document.children kind tag inner := by
  constructor
  · intro complete state children reached kind tag inner isChild isNamed
    exact (handler_ofDocument_iff distinct).mp (complete _ (mem_handlers_ofDocument_iff.mpr
      ⟨state, children, reached, kind, tag, inner, isChild, isNamed, rfl⟩))
  · intro areHandlers item member
    obtain ⟨state, children, reached, kind, tag, inner, isChild, isNamed, rfl⟩ :=
      mem_handlers_ofDocument_iff.mp member
    exact (handler_ofDocument_iff distinct).mpr
      (areHandlers state children reached kind tag inner isChild isNamed)

theorem requests_ofDocument_iff
    (distinct : ((ofDocument document).declarations.map DeclarationItem.clientName).Nodup) :
    (∀ item ∈ (ofDocument document).requests, trimmed item.name? ≠ [] ∧
        (ofDocument document).kindOf? item.client = some .service) ↔
      ∀ tag, Below document.children tag → tag.name = requestTag →
        IsFilled tag "name" ∧ IsDeclared document.children .service (valueOf tag "name") := by
  change (∀ item ∈ requestItems document.children, _) ↔ _
  simp only [requestItems, List.forall_mem_map, mem_tagsNamed_iff, and_imp, isFilled_iff,
    kindOf?_ofDocument_iff distinct]
  rfl

/-- The outline of a document is sound if its elements are, each at its own depth. -/
theorem isSound_ofDocument_iff {source : Text} :
    document.root.name = rootTag ∧ Naming.className? (skillNameOf source document) ≠ none ∧
      (ofDocument document).IsSound ↔ IsSkill source document := by
  constructor
  · rintro ⟨root, className, sound⟩
    exact {
      root := root
      className := className
      data := data_ofDocument_iff.mp sound.data
      declarations := declarations_ofDocument_iff.mp sound.declarations
      clients := clients_ofDocument ▸ sound.clients
      states := states_ofDocument_iff.mp sound.states
      handlers := (handlers_ofDocument_iff sound.clients).mp fun item member =>
        ⟨sound.handlers item member, sound.assigns item member⟩
      requests := (requests_ofDocument_iff sound.clients).mp sound.requests }
  · intro skill
    -- Kinds of clients can be looked up only where the clients are distinct.
    have distinct : ((ofDocument document).declarations.map DeclarationItem.clientName).Nodup :=
      clients_ofDocument ▸ skill.clients
    have handlers := (handlers_ofDocument_iff distinct).mpr skill.handlers
    exact ⟨skill.root, skill.className, {
      data := data_ofDocument_iff.mpr skill.data
      declarations := declarations_ofDocument_iff.mpr skill.declarations
      clients := distinct
      states := states_ofDocument_iff.mpr skill.states
      handlers := fun item member => (handlers item member).1
      assigns := fun item member => (handlers item member).2
      requests := (requests_ofDocument_iff distinct).mpr skill.requests }⟩

end Outline

/-! ## Complaints and elements -/

/-- An error is about an element of a document. -/
def Error.PointsInto (source : Text) (document : Document) (error : Error) : Prop :=
  ∃ tag, (tag = document.root ∨ Below document.children tag) ∧
    error.source = source ∧ error.element = tag.name ∧ error.line? = some tag.line

theorem Below.of_reached
    {nodes children : List Node}
    {state tag : Tag}
    (reached : Reached nodes state children)
    (below : Below children tag) :
    Below nodes tag := by
  induction reached with
  | here isNode _ => exact .deeper isNode below
  | deeper isNode _ _ inside => exact .deeper isNode (inside below)

theorem Reached.isBelow
    {nodes children : List Node}
    {tag : Tag}
    (reached : Reached nodes tag children) :
    Below nodes tag := by
  induction reached with
  | here isNode _ => exact .here isNode
  | deeper isNode _ _ inside => exact .deeper isNode inside

section

variable {source : Text} {document : Document}

/-- The complaints about an element of a document are about that element. -/
theorem Error.pointsInto_of_mem_map
    {tag : Tag}
    {name : Text}
    {faults : List Fault}
    {error : Error}
    (isTag : tag = document.root ∨ Below document.children tag)
    (isNamed : tag.name = name)
    (member : error ∈ faults.map (complaint source name tag.line)) :
    error.PointsInto source document := by
  obtain ⟨fault, _, rfl⟩ := List.mem_map.mp member
  exact ⟨tag, isTag, rfl, isNamed.symm, rfl⟩

theorem exists_item_of_mem_declarationComplaints
    {earlier : List Text}
    {items : List DeclarationItem}
    {error : Error}
    (member : error ∈ declarationComplaints source earlier items) :
    ∃ item ∈ items, ∃ faults : List Fault,
      error ∈ faults.map (complaint source (declarationTag item.kind) item.line) := by
  induction items generalizing earlier with
  | nil => cases member
  | cons item rest restHypothesis =>
      rw [declarationComplaints, List.mem_append] at member
      rcases member with first | later
      · exact ⟨item, List.mem_cons_self .., _, first⟩
      · obtain ⟨other, isOther, found⟩ := restHypothesis later
        exact ⟨other, List.mem_cons_of_mem _ isOther, found⟩

theorem Error.pointsInto_of_handler
    {state tag : Tag}
    {children inner : List Node}
    {kind : Interface.Kind}
    {kindOf? : Text → Option Interface.Kind}
    {error : Error}
    (reached : Reached document.children state children)
    (isChild : Node.element tag inner ∈ children)
    (isNamed : tag.name = handlerTag kind)
    (member : error ∈ (handlerItem kind tag inner).complaints source kindOf?) :
    error.PointsInto source document := by
  rcases List.mem_append.mp member with own | inAssign
  · exact pointsInto_of_mem_map (.inr (.of_reached reached (.here isChild))) isNamed own
  · obtain ⟨item, isItem, found⟩ := List.mem_flatMap.mp inAssign
    obtain ⟨assign, isAssign, rfl⟩ := List.mem_map.mp isItem
    obtain ⟨below, isAssignTag⟩ := mem_tagsNamed_iff.mp isAssign
    exact pointsInto_of_mem_map (.inr (.of_reached reached (.deeper isChild below))) isAssignTag
      found

/-- Every complaint about the items of a document is about one of its elements. -/
theorem Error.pointsInto_of_itemComplaints
    {error : Error}
    (member : error ∈ (Outline.ofDocument document).itemComplaints source) :
    error.PointsInto source document := by
  simp only [Outline.itemComplaints, List.mem_append, List.mem_flatMap] at member
  rcases member with ⟨item, isItem, found⟩ | inDeclarations | ⟨item, isItem, found⟩ |
    ⟨item, isItem, found⟩
  · obtain ⟨group, members, tag, children, isGroup, _, isChild, isData, rfl⟩ :=
      mem_dataItems_iff.mp isItem
    exact pointsInto_of_mem_map (.inr (.deeper isGroup (.here isChild))) isData found
  · obtain ⟨item, isItem, faults, found⟩ := exists_item_of_mem_declarationComplaints inDeclarations
    change item ∈ declarationItems document.children at isItem
    rw [declarationItems_eq] at isItem
    obtain ⟨⟨kind, tag⟩, isDeclaration, rfl⟩ := List.mem_map.mp isItem
    obtain ⟨isNamed, children, isChild⟩ := mem_declarationsIn_iff.mp isDeclaration
    exact pointsInto_of_mem_map (.inr (.here isChild)) isNamed found
  · obtain ⟨outer?, state, children, reached, rfl⟩ := reached_of_mem_stateItems _ isItem
    rcases List.mem_append.mp found with own | inHandler
    · exact pointsInto_of_mem_map (.inr reached.isBelow) rfl own
    · obtain ⟨handler, isHandler, found⟩ := List.mem_flatMap.mp inHandler
      obtain ⟨kind, tag, inner, isChild, isNamed, rfl⟩ := mem_handlers_iff.mp isHandler
      exact pointsInto_of_handler reached isChild isNamed found
  · obtain ⟨tag, isRequest, rfl⟩ := List.mem_map.mp isItem
    obtain ⟨below, isNamed⟩ := mem_tagsNamed_iff.mp isRequest
    exact pointsInto_of_mem_map (.inr below) isNamed found

end

/-! ## Readings -/

/-- A run that reads a document of a source: from a text held in memory, or from a file that
is called by the source. -/
inductive IsReading (source : Text) (document : Document) : Run RawModel → Prop
  | ofText {text : Text} {converters : Converters} :
      Document.read (Text.utf8 text) converters = .ok document →
        IsReading source document (Statechart.ofText source text converters)
  | ofFile {tree : Tree} {place : Text} {content : Bytes} {converters : Converters} :
      (Path.ofText place).text = source → tree.read (Path.ofText place) = .ok content →
        Document.read content converters = .ok document →
          IsReading source document (Statechart.ofFile tree (Path.ofText place) converters)

/-- The complaints about a document of a source, in the order in which it is looked at: its
root and the name of the skill, then the data elements, the declarations, the states with
their handlers, and the requests. -/
def complaintsOf (source : Text) (document : Document) : List Error :=
  (Outline.ofDocument document).complaints source (Path.ofText source).stem

/-- The model of a document of a source, whatever is wrong with it. -/
def modelOf (source : Text) (document : Document) : RawModel :=
  (Outline.ofDocument document).model source (Path.ofText source).stem

section

variable {source text : Text} {document : Document} {run : Run RawModel}

theorem complaintsOf_eq_nil_iff : complaintsOf source document = [] ↔ IsSkill source document :=
  Outline.complaints_eq_nil_iff.trans Outline.isSound_ofDocument_iff

theorem Error.pointsInto_of_complaintsOf
    {error : Error}
    (member : error ∈ complaintsOf source document) :
    error.PointsInto source document := by
  have atRoot : ∀ fault, Error.PointsInto source document
      (complaint source document.root.name document.root.line fault) := fun _ =>
    ⟨document.root, .inl rfl, rfl, rfl, rfl⟩
  simp only [complaintsOf, Outline.complaints, List.mem_append] at member
  rcases member with wrongRoot | unusable | inItems
  · split at wrongRoot
    · cases wrongRoot
    · exact List.mem_singleton.mp wrongRoot ▸ atRoot _
  · split at unusable
    · exact List.mem_singleton.mp unusable ▸ atRoot _
    · cases unusable
  · exact pointsInto_of_itemComplaints inItems

/-- Whatever a document is read from, its outline is extracted. -/
theorem IsReading.eq_runOf (reading : IsReading source document run) :
    run = runOf (.ok (extractDocument source (Path.ofText source).stem document)) := by
  cases reading with
  | ofText reads => rw [Statechart.ofText, readText, reads]
  | ofFile isSource found reads =>
      rw [Statechart.ofFile, found, ← isSource]
      dsimp only
      rw [readFile, reads, Path.ofText_text_ofText]

/-- A document is read as its model, unless there is a complaint about it. -/
theorem IsReading.outcome_eq (reading : IsReading source document run) :
    run.outcome =
      verdict ((complaintsOf source document).map SkillNode.Failure.statechart)
        (modelOf source document) := by
  have extracts : (extractDocument source (Path.ofText source).stem document).outcome =
      verdict (complaintsOf source document) (modelOf source document) :=
    Outline.outcome_extract ..
  rw [reading.eq_runOf]
  dsimp only [runOf, outcomeOf]
  rw [extracts]
  cases complaintsOf source document <;> rfl

theorem IsReading.eq_modelOf
    {model : RawModel}
    (reading : IsReading source document run)
    (accepts : run.outcome = .ok model) :
    complaintsOf source document = [] ∧ model = modelOf source document := by
  rw [reading.outcome_eq] at accepts
  cases found : complaintsOf source document with
  | nil =>
      rw [found] at accepts
      exact ⟨rfl, (Except.ok.inj accepts).symm⟩
  | cons error later =>
      rw [found] at accepts
      cases accepts

theorem exists_document_of_ofText
    {model : RawModel}
    (accepts : (ofText source text).outcome = .ok model) :
    ∃ document, Document.read (Text.utf8 text) = .ok document := by
  have outcome := outcomeOf_of_runOf accepts
  unfold readText at outcome
  split at outcome
  · next document reads => exact ⟨document, reads⟩
  · cases outcome
  · cases outcome

/-- A document is accepted exactly if it describes a skill. Otherwise it is refused with
the first complaint about it, and every complaint is about an element. -/
theorem accepts_iff_isSkill (reading : IsReading source document run) :
    ((∃ model, run.outcome = .ok model) ↔ IsSkill source document) ∧
      (∀ failure, run.outcome = .error failure ↔
        ∃ first later, complaintsOf source document = first :: later ∧
          failure = .statechart first) ∧
        ∀ error ∈ complaintsOf source document, error.PointsInto source document := by
  rw [← complaintsOf_eq_nil_iff, reading.outcome_eq]
  refine ⟨?_, ?_, fun error => Error.pointsInto_of_complaintsOf⟩
  · cases complaintsOf source document with
    | nil => exact iff_of_true ⟨_, rfl⟩ rfl
    | cons first later => simp [verdict]
  · intro failure
    cases complaintsOf source document with
    | nil => simp [verdict]
    | cons first later => simp [verdict, eq_comm]

/-- A gate that asks for leave before it opens. -/
def gateChart : Text :=
  "<scxml name='gate'><datamodel><data id='m' type='bool'/></datamodel>" ++
    "<ros_service_client name='c' service_name='/g/Ask' type='g/Ask'/>" ++
    "<parallel id='a'><state id='b'><ros_service_send_request name='c'/>" ++
    "<ros_service_handle_response name='c' target='b'><assign location='m' expr='r.ok'/>" ++
    "</ros_service_handle_response></state></parallel></scxml>"

/-- The chart of the gate describes a skill, since it is accepted. -/
theorem gateChart_isSkill :
    ∃ document, Document.read (Text.utf8 gateChart) = .ok document ∧
      IsSkill "gate.scxml" document := by
  have isAccepted : (ofText "gate.scxml" gateChart).outcome.isOk = true := by decide +kernel
  obtain ⟨model, accepts⟩ := exists_ok_of_isOk isAccepted
  obtain ⟨document, reads⟩ := exists_document_of_ofText accepts
  exact ⟨document, reads, (accepts_iff_isSkill (.ofText reads)).1.mp ⟨model, accepts⟩⟩

end

end Statechart
end SkillNode
