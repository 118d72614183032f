import SkillNode.Statechart.Extraction

/-!
# Complaints about items

Every item of an outline is taken in by a total operation, whatever is wrong with it, and
is complained of by a list of errors. A step of an extraction gives what the operation
gives if there is no complaint, and ends with the first complaint otherwise.

An item is complained of by what it says itself and by the clients that the outline
declares, never by what was made of other items.
-/

namespace SkillNode
namespace Statechart

/-! ## Verdicts -/

/-- The result of a task, unless there is something wrong with it. -/
def verdict {Trouble Result : Type} (troubles : List Trouble) (result : Result) :
    Except Trouble Result :=
  match troubles with
  | [] => .ok result
  | trouble :: _ => .error trouble

/-- A step ends with the first complaint about its item, or else gives a known result. -/
def Answers (complaints : List Error) (result : Progress) (outcome : Except Failure Progress) :
    Prop :=
  match complaints with
  | [] => outcome = .ok result
  | complaint :: _ => ∃ progress, outcome = .error ⟨complaint, progress⟩

theorem Answers.of_nil
    {complaints : List Error}
    {result : Progress}
    {outcome : Except Failure Progress}
    (answers : Answers complaints result outcome)
    (nothingWrong : complaints = []) :
    outcome = .ok result := by
  subst nothingWrong
  exact answers

/-- Complaints about a second step come after those about the first. -/
theorem Answers.bind
    {earlier later : List Error}
    {middle result : Progress}
    {outcome : Except Failure Progress}
    {next : Progress → Except Failure Progress}
    (first : Answers earlier middle outcome)
    (second : earlier = [] → Answers later result (next middle)) :
    Answers (earlier ++ later) result (outcome >>= next) := by
  cases earlier with
  | nil =>
      rw [first.of_nil rfl]
      exact second rfl
  | cons complaint others =>
      obtain ⟨progress, fails⟩ := first
      exact ⟨progress, by rw [fails]; rfl⟩

/-- If every step answers to its own item, all steps answer to all items. -/
theorem answers_foldlM
    {Item : Type}
    (Holds : Progress → Prop)
    {complaintsOf : Item → List Error}
    {take : Progress → Item → Progress}
    {step : Progress → Item → Except Failure Progress}
    (answers : ∀ progress item, Holds progress →
      Answers (complaintsOf item) (take progress item) (step progress item))
    (keeps : ∀ progress item, Holds progress → Holds (take progress item))
    (items : List Item)
    {progress : Progress}
    (atStart : Holds progress) :
    Answers (items.flatMap complaintsOf) (items.foldl take progress)
      (items.foldlM step progress) := by
  induction items generalizing progress with
  | nil => rfl
  | cons item items restHypothesis =>
      rw [List.flatMap_cons, List.foldl_cons, List.foldlM_cons]
      exact (answers progress item atStart).bind fun _ =>
        restHypothesis (keeps progress item atStart)

/-- What every step leaves alone is left alone by all steps. -/
theorem foldl_keeps
    {Item Seen : Type}
    (observe : Progress → Seen)
    (take : Progress → Item → Progress)
    (keeps : ∀ progress item, observe (take progress item) = observe progress)
    (items : List Item)
    (progress : Progress) :
    observe (items.foldl take progress) = observe progress := by
  induction items generalizing progress with
  | nil => rfl
  | cons item rest restHypothesis => rw [List.foldl_cons, restHypothesis, keeps]

/-- An error at a place of a source. -/
def complaint (source element : Text) (line : Nat) (fault : Fault) : Error :=
  ⟨source, element, some line, fault⟩

/-! ## Attributes -/

/-- The value of an attribute without the blanks at its ends, empty if it is not there. -/
def trimmed (value? : Option Text) : Text := Text.trim (value?.getD [])

/-- What is wrong with an attribute that has to be there and not blank. -/
def lackOf (name : Text) (value? : Option Text) : List Fault :=
  if trimmed value? = [] then [.missingAttribute name] else []

@[simp] theorem lackOf_eq_nil_iff {name : Text} {value? : Option Text} :
    lackOf name value? = [] ↔ trimmed value? ≠ [] := by
  unfold lackOf
  split <;> simp_all

theorem require_eq (name : Text) (value? : Option Text) :
    require name value? = verdict (lackOf name value?) (trimmed value?) := by
  unfold require required? lackOf trimmed
  cases value? with
  | none => rfl
  | some value => cases isTrimmed : Text.trim value <;> simp [isTrimmed, verdict, Option.filter]

/-- Two attributes that have to be there are asked for in turn. -/
theorem require_both
    {Result : Type}
    (name other : Text)
    (value? other? : Option Text)
    (make : Text → Text → Result) :
    (do
      let value ← require name value?
      let second ← require other other?
      return make value second) =
      verdict (lackOf name value? ++ lackOf other other?)
        (make (trimmed value?) (trimmed other?)) := by
  rw [require_eq, require_eq]
  cases lackOf name value? <;> cases lackOf other other? <;> rfl

/-! ## Data elements -/

/-- What is wrong with a data element. -/
def DataItem.faults (item : DataItem) : List Fault :=
  lackOf "id" item.id? ++ lackOf "type" item.type?

/-- The variable of a data element. -/
def DataItem.variable (item : DataItem) : Variable :=
  ⟨trimmed item.id?, trimmed item.type?, item.expr?.getD []⟩

/-- The complaints about a data element. -/
def DataItem.complaints (source : Text) (item : DataItem) : List Error :=
  item.faults.map (complaint source dataTag item.line)

/-- Take in a data element, whatever is wrong with it. -/
def Progress.takeData (source : Text) (progress : Progress) (item : DataItem) : Progress :=
  { progress with
    datamodel := progress.datamodel ++ [item.variable]
    log := progress.log ++ variableWarnings source item.line progress.datamodel item.variable }

theorem DataItem.declared_eq (item : DataItem) :
    item.declared = verdict item.faults item.variable :=
  require_both "id" "type" item.id? item.type?
    fun id type => Variable.mk id type (item.expr?.getD [])

theorem Progress.answers_addData (source : Text) (progress : Progress) (item : DataItem) :
    Answers (item.complaints source) (progress.takeData source item)
      (progress.addData source item) := by
  unfold Progress.addData DataItem.complaints
  rw [item.declared_eq]
  cases item.faults with
  | nil => rfl
  | cons fault others => exact ⟨progress, rfl⟩

/-! ## Declarations -/

namespace DeclarationItem

/-- The service or topic of a declaration. -/
def rosName (item : DeclarationItem) : Text := trimmed item.rosName?

/-- The package and the type name of the interface of a declaration. -/
def interface (item : DeclarationItem) : Text × Text :=
  Naming.splitInterfaceId (trimmed item.type?)

/-- The client that a declaration declares: called by its name or else after the service
or topic. -/
def clientName (item : DeclarationItem) : Text :=
  (item.name?.filter (!·.isEmpty)).getD item.rosName

/-- What is wrong with a declaration by itself. -/
def faults (item : DeclarationItem) : List Fault :=
  lackOf (rosNameAttribute item.kind) item.rosName? ++
    (lackOf "type" item.type? ++
      ((if item.interface.1 = [] ∨ item.interface.2 = [] then
          [.badInterfaceType (trimmed item.type?)]
        else
          []) ++
        if Naming.rosSegments item.rosName = [] then [.badRosName item.rosName] else []))

/-- The endpoint of a declaration before anything is known of its handlers. -/
def endpoint (nodeName : Text) (item : DeclarationItem) : Endpoint where
  nodeName := nodeName
  clientName := item.clientName
  kind := item.kind
  rosName := item.rosName
  key := ⟨item.interface.1, item.interface.2⟩

theorem declared_eq (nodeName : Text) (item : DeclarationItem) :
    item.declared nodeName = verdict item.faults (item.endpoint nodeName) := by
  unfold declared faults
  rw [require_eq, require_eq]
  cases lackOf (rosNameAttribute item.kind) item.rosName? with
  | cons fault others => rfl
  | nil =>
      cases lackOf "type" item.type? with
      | cons fault others => rfl
      | nil =>
          have typeTest : (item.interface.1.isEmpty || item.interface.2.isEmpty) = true ↔
              item.interface.1 = [] ∨ item.interface.2 = [] := by
            simp [List.isEmpty_iff]
          simp only [verdict, bind, Except.bind, List.nil_append]
          by_cases badType : item.interface.1 = [] ∨ item.interface.2 = []
          · simp only [badType, if_true, List.singleton_append]
            exact if_pos (typeTest.mpr badType)
          · rw [if_neg badType]
            refine (if_neg (mt typeTest.mp badType)).trans ?_
            by_cases badName : Naming.rosSegments item.rosName = []
            · rw [if_pos badName]
              exact if_pos (List.isEmpty_iff.mpr badName)
            · rw [if_neg badName]
              exact if_neg (mt List.isEmpty_iff.mp badName)

/-- The complaints about a declaration that comes after those of some clients. -/
def complaints (source : Text) (earlier : List Text) (item : DeclarationItem) : List Error :=
  (item.faults ++
      if item.clientName ∈ earlier then [Fault.duplicateDeclaration item.clientName] else []).map
    (complaint source (declarationTag item.kind) item.line)

end DeclarationItem

/-- The complaints about declarations that come after those of some clients. -/
def declarationComplaints (source : Text) (earlier : List Text) : List DeclarationItem → List Error
  | [] => []
  | item :: rest =>
      item.complaints source earlier ++
        declarationComplaints source (earlier ++ [item.clientName]) rest

namespace Progress

/-- The clients known so far, in the order of their declarations. -/
def clients (progress : Progress) : List Text := progress.endpoints.map Endpoint.clientName

/-- Take in a declaration, whatever is wrong with it. -/
def takeDeclaration (nodeName : Text) (progress : Progress) (item : DeclarationItem) : Progress :=
  { progress with endpoints := progress.endpoints ++ [item.endpoint nodeName] }

@[simp] theorem clients_takeDeclaration
    (nodeName : Text)
    (progress : Progress)
    (item : DeclarationItem) :
    (progress.takeDeclaration nodeName item).clients = progress.clients ++ [item.clientName] := by
  simp [clients, takeDeclaration, DeclarationItem.endpoint]

theorem answers_addDeclaration
    (source nodeName : Text)
    (progress : Progress)
    (item : DeclarationItem) :
    Answers (item.complaints source progress.clients) (progress.takeDeclaration nodeName item)
      (progress.addDeclaration source nodeName item) := by
  unfold addDeclaration DeclarationItem.complaints
  rw [item.declared_eq]
  cases item.faults with
  | cons fault others => exact ⟨progress, rfl⟩
  | nil =>
      have known : (progress.endpoints.any (·.clientName = item.clientName)) = true ↔
          item.clientName ∈ progress.clients := by
        simp [clients]
      by_cases isKnown : item.clientName ∈ progress.clients
      · rw [if_pos isKnown]
        exact ⟨progress, if_pos (known.mpr isKnown)⟩
      · rw [if_neg isKnown]
        exact if_neg (mt known.mp isKnown)

/-- Declarations answer in turn, each after the clients of those before it. -/
theorem answers_addDeclarations
    (source nodeName : Text)
    (items : List DeclarationItem)
    (progress : Progress) :
    Answers (declarationComplaints source progress.clients items)
      (items.foldl (takeDeclaration nodeName) progress)
      (items.foldlM (addDeclaration source nodeName) progress) := by
  induction items generalizing progress with
  | nil => rfl
  | cons item rest restHypothesis =>
      rw [declarationComplaints, List.foldl_cons, List.foldlM_cons,
        ← clients_takeDeclaration nodeName]
      exact (answers_addDeclaration source nodeName progress item).bind fun _ =>
        restHypothesis (progress.takeDeclaration nodeName item)

/-- The kind of the client with a name, if there is one. -/
def kindOf? (progress : Progress) (name : Text) : Option Interface.Kind :=
  (progress.endpoint? name).map Endpoint.kind

end Progress

/-- The kind of the first declaration of a client. -/
def Outline.kindOf? (outline : Outline) (name : Text) : Option Interface.Kind :=
  (outline.declarations.find? (·.clientName = name)).map DeclarationItem.kind

/-! ## Changes of endpoints -/

namespace Progress

/-- A change of endpoints that keeps their client names shows in a look-up. -/
theorem endpoint?_update
    (progress : Progress)
    (name : Text)
    (change : Endpoint → Endpoint)
    (keepsClient : ∀ endpoint, (change endpoint).clientName = endpoint.clientName)
    (other : Text) :
    (progress.update name change).endpoint? other =
      (progress.endpoint? other).map fun endpoint =>
        if endpoint.clientName = name then change endpoint else endpoint := by
  have sameTest : ∀ endpoint : Endpoint,
      (if endpoint.clientName = name then change endpoint else endpoint).clientName =
        endpoint.clientName := by
    intro endpoint
    split
    · exact keepsClient endpoint
    · rfl
  simp only [endpoint?, update, List.find?_map, Function.comp_def, sameTest]

theorem kindOf?_update
    (progress : Progress)
    (name : Text)
    (change : Endpoint → Endpoint)
    (keepsClient : ∀ endpoint, (change endpoint).clientName = endpoint.clientName)
    (keepsKind : ∀ endpoint, (change endpoint).kind = endpoint.kind) :
    (progress.update name change).kindOf? = progress.kindOf? := by
  funext other
  unfold kindOf?
  rw [endpoint?_update progress name change keepsClient, Option.map_map]
  refine Option.map_congr fun endpoint _ => ?_
  dsimp only [Function.comp]
  split
  · exact keepsKind endpoint
  · rfl

end Progress

/-! ## Assignments -/

namespace AssignItem

/-- The variable that is assigned to. -/
def location (item : AssignItem) : Text := trimmed item.location?

/-- The expression that is assigned. -/
def expr (item : AssignItem) : Text := trimmed item.expr?

/-- What is wrong with an assignment. -/
def faults (item : AssignItem) : List Fault :=
  lackOf "location" item.location? ++ lackOf "expr" item.expr?

/-- The complaints about an assignment. -/
def complaints (source : Text) (item : AssignItem) : List Error :=
  item.faults.map (complaint source assignTag item.line)

/-- What an assignment makes of the response: none if its expression has no dot. -/
def write? (item : AssignItem) : Option Assignment :=
  (fieldRead? item.expr).map fun field => ⟨field, item.location⟩

/-- The record about an assignment whose expression has no dot. -/
def skipRecord (source : Text) (item : AssignItem) : LogRecord :=
  .debug (source ++ ":" ++ Text.ofNat item.line ++ ": assign to '" ++ item.location ++
    "' does not read the response, skipped")

theorem operands_eq (item : AssignItem) :
    item.operands = verdict item.faults (item.location, item.expr) :=
  require_both "location" "expr" item.location? item.expr? Prod.mk

end AssignItem

namespace Progress

/-- Take in an assignment of a handler for a client, whatever is wrong with it. -/
def takeAssign (source client : Text) (progress : Progress) (item : AssignItem) : Progress :=
  match item.write? with
  | none => progress.note [item.skipRecord source]
  | some write =>
      let warnings :=
        match progress.endpoint? client with
        | some endpoint =>
            overrideWarnings source client write.field write.location item.line endpoint
        | none => []
      (progress.note warnings).update client (·.assign write.field write.location)

theorem answers_addAssign
    (source client : Text)
    (progress : Progress)
    (item : AssignItem) :
    Answers (item.complaints source) (progress.takeAssign source client item)
      (progress.addAssign source client item) := by
  unfold addAssign takeAssign AssignItem.complaints AssignItem.write?
  rw [item.operands_eq]
  cases item.faults with
  | cons fault others => exact ⟨progress, rfl⟩
  | nil =>
      dsimp only [verdict]
      cases fieldRead? item.expr <;> rfl

@[simp] theorem kindOf?_takeAssign
    (source client : Text)
    (progress : Progress)
    (item : AssignItem) :
    (progress.takeAssign source client item).kindOf? = progress.kindOf? := by
  unfold takeAssign
  split
  · rfl
  · exact kindOf?_update _ client _ (fun _ => rfl) fun _ => rfl

end Progress

/-! ## Handlers -/

namespace HandlerItem

/-- The client that a handler refers to. -/
def client (item : HandlerItem) : Text := trimmed item.name?

/-- The state that a handler leads to. -/
def target (item : HandlerItem) : Text := trimmed item.target?

/-- What is wrong with a handler itself among clients of some kinds. -/
def faults (kindOf? : Text → Option Interface.Kind) (item : HandlerItem) : List Fault :=
  lackOf "name" item.name? ++ lackOf "target" item.target? ++
    if kindOf? item.client = some item.kind then [] else [.noDeclaration item.client item.kind]

/-- The complaints about a handler and then about its assignments. -/
def complaints (source : Text) (kindOf? : Text → Option Interface.Kind) (item : HandlerItem) :
    List Error :=
  (item.faults kindOf?).map (complaint source (handlerTag item.kind) item.line) ++
    item.assigns.flatMap (AssignItem.complaints source)

theorem operands_eq (item : HandlerItem) :
    item.operands =
      verdict (lackOf "name" item.name? ++ lackOf "target" item.target?)
        (item.client, item.target) :=
  require_both "name" "target" item.name? item.target? Prod.mk

end HandlerItem

/-- An endpoint with one more handler that leads to a state. -/
def Endpoint.addTarget (target : Text) (endpoint : Endpoint) : Endpoint :=
  { endpoint with handlerTargets := endpoint.handlerTargets ++ [target] }

/-- An endpoint that a request invokes. -/
def Endpoint.invoke (endpoint : Endpoint) : Endpoint := { endpoint with isInvoked := true }

namespace Progress

/-- Take in a handler, whatever is wrong with it. -/
def takeHandler (source : Text) (progress : Progress) (item : HandlerItem) : Progress :=
  item.assigns.foldl (takeAssign source item.client)
    (progress.update item.client (Endpoint.addTarget item.target))

@[simp] theorem kindOf?_takeHandler
    (source : Text)
    (progress : Progress)
    (item : HandlerItem) :
    (progress.takeHandler source item).kindOf? = progress.kindOf? :=
  (foldl_keeps kindOf? _ (kindOf?_takeAssign source item.client) item.assigns _).trans
    (kindOf?_update progress item.client _ (fun _ => rfl) fun _ => rfl)

theorem any_kind_iff (progress : Progress) (name : Text) (kind : Interface.Kind) :
    (progress.endpoint? name).any (·.kind = kind) = true ↔ progress.kindOf? name = some kind := by
  unfold kindOf?
  cases progress.endpoint? name <;> simp

theorem answers_addHandler
    (source : Text)
    (progress : Progress)
    (item : HandlerItem) :
    Answers (item.complaints source progress.kindOf?) (progress.takeHandler source item)
      (progress.addHandler source item) := by
  unfold addHandler HandlerItem.complaints HandlerItem.faults
  rw [item.operands_eq]
  cases lackOf "name" item.name? ++ lackOf "target" item.target? with
  | cons fault others => exact ⟨progress, rfl⟩
  | nil =>
      by_cases isDeclared : progress.kindOf? item.client = some item.kind
      · rw [if_pos isDeclared]
        change Answers _ _
          (if (progress.endpoint? item.client).any (·.kind = item.kind) then _ else _)
        rw [if_pos ((any_kind_iff ..).mpr isDeclared)]
        exact answers_foldlM (fun _ => True)
          (fun progress assign _ => answers_addAssign source item.client progress assign)
          (fun _ _ _ => trivial) item.assigns trivial
      · rw [if_neg isDeclared]
        exact ⟨progress, if_neg (mt (any_kind_iff ..).mp isDeclared)⟩

end Progress

/-! ## States -/

namespace StateItem

/-- The id of a state. -/
def id (item : StateItem) : Text := trimmed item.id?

/-- The complaints about a state itself and then about its handlers. -/
def complaints (source : Text) (kindOf? : Text → Option Interface.Kind) (item : StateItem) :
    List Error :=
  (lackOf "id" item.id?).map (complaint source item.tagName item.line) ++
    item.handlers.flatMap (HandlerItem.complaints source kindOf?)

end StateItem

namespace Progress

/-- Take in a state, whatever is wrong with it. -/
def takeState (source : Text) (progress : Progress) (item : StateItem) : Progress :=
  let handled := item.handlers.foldl (takeHandler source) progress
  { handled with states := putState (item.state item.id) handled.states }

theorem kindOf?_takeHandlers
    (source : Text)
    (items : List HandlerItem)
    (progress : Progress) :
    (items.foldl (takeHandler source) progress).kindOf? = progress.kindOf? :=
  foldl_keeps kindOf? _ (kindOf?_takeHandler source) items progress

@[simp] theorem kindOf?_takeState
    (source : Text)
    (progress : Progress)
    (item : StateItem) :
    (progress.takeState source item).kindOf? = progress.kindOf? :=
  kindOf?_takeHandlers source item.handlers progress

theorem answers_addState
    (source : Text)
    (progress : Progress)
    (item : StateItem) :
    Answers (item.complaints source progress.kindOf?) (progress.takeState source item)
      (progress.addState source item) := by
  unfold addState StateItem.complaints
  rw [require_eq]
  cases lackOf "id" item.id? with
  | cons fault others => exact ⟨progress, rfl⟩
  | nil =>
      have handlersAnswer :
          Answers (item.handlers.flatMap (HandlerItem.complaints source progress.kindOf?))
            (item.handlers.foldl (takeHandler source) progress)
            (item.handlers.foldlM (addHandler source) progress) := by
        -- Handlers are complained of by the kinds of clients, which no handler changes.
        refine answers_foldlM (fun current => current.kindOf? = progress.kindOf?)
          (fun current handler sameKinds => ?_) (fun current handler sameKinds => ?_)
          item.handlers rfl
        · exact sameKinds ▸ answers_addHandler source current handler
        · rw [kindOf?_takeHandler, sameKinds]
      cases found : item.handlers.flatMap (HandlerItem.complaints source progress.kindOf?) with
      | nil =>
          rw [handlersAnswer.of_nil found]
          rfl
      | cons first others =>
          rw [found] at handlersAnswer
          obtain ⟨reached, fails⟩ := handlersAnswer
          rw [fails]
          exact ⟨reached, rfl⟩

end Progress

/-! ## Requests -/

namespace RequestItem

/-- The client that a request refers to. -/
def client (item : RequestItem) : Text := trimmed item.name?

/-- The complaints about a request among clients of some kinds. -/
def complaints (source : Text) (kindOf? : Text → Option Interface.Kind) (item : RequestItem) :
    List Error :=
  (lackOf "name" item.name? ++
      if kindOf? item.client = some .service then []
      else [Fault.undeclaredClient item.client]).map
    (complaint source requestTag item.line)

end RequestItem

namespace Progress

/-- Take in a request, whatever is wrong with it. -/
def takeRequest (progress : Progress) (item : RequestItem) : Progress :=
  progress.update item.client Endpoint.invoke

@[simp] theorem kindOf?_takeRequest (progress : Progress) (item : RequestItem) :
    (progress.takeRequest item).kindOf? = progress.kindOf? :=
  kindOf?_update progress item.client _ (fun _ => rfl) fun _ => rfl

theorem answers_addRequest
    (source : Text)
    (progress : Progress)
    (item : RequestItem) :
    Answers (item.complaints source progress.kindOf?) (progress.takeRequest item)
      (progress.addRequest source item) := by
  unfold addRequest RequestItem.complaints
  rw [require_eq]
  cases lackOf "name" item.name? with
  | cons fault others => exact ⟨progress, rfl⟩
  | nil =>
      by_cases isService : progress.kindOf? item.client = some .service
      · rw [if_pos isService]
        exact if_pos ((any_kind_iff ..).mpr isService)
      · rw [if_neg isService]
        exact ⟨progress, if_neg (mt (any_kind_iff ..).mp isService)⟩

end Progress

end Statechart
end SkillNode
