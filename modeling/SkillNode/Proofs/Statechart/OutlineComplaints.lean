import SkillNode.Proofs.Statechart.Complaints

/-!
# Complaints about outlines

All items of an outline are taken in one after the other: the data elements, the
declarations, the states with their handlers, and the requests. The main statement says
that an extraction gives the model that they make if nothing is complained of, and ends
with the first complaint otherwise.
-/

namespace SkillNode
namespace Statechart

theorem Progress.endpoints_takeDeclarations
    (nodeName : Text)
    (items : List DeclarationItem)
    (progress : Progress) :
    (items.foldl (takeDeclaration nodeName) progress).endpoints =
      progress.endpoints ++ items.map (DeclarationItem.endpoint nodeName) := by
  induction items generalizing progress with
  | nil => simp
  | cons item rest restHypothesis =>
      rw [List.foldl_cons, restHypothesis]
      simp [takeDeclaration]

theorem Progress.endpoints_takeDataItems
    (source : Text)
    (items : List DataItem)
    (progress : Progress) :
    (items.foldl (takeData source) progress).endpoints = progress.endpoints :=
  foldl_keeps endpoints (takeData source) (fun _ _ => rfl) items progress

namespace Outline

/-- Take in all data elements and declarations. -/
def takeDeclared (source nodeName : Text) (outline : Outline) : Progress :=
  outline.declarations.foldl (Progress.takeDeclaration nodeName)
    (outline.data.foldl (Progress.takeData source) {})

/-- Take in all items, whatever is wrong with them. -/
def takeAll (source nodeName : Text) (outline : Outline) : Progress :=
  outline.requests.foldl Progress.takeRequest
    (outline.states.foldl (Progress.takeState source) (outline.takeDeclared source nodeName))

theorem endpoints_takeDeclared (source nodeName : Text) (outline : Outline) :
    (outline.takeDeclared source nodeName).endpoints =
      outline.declarations.map (DeclarationItem.endpoint nodeName) := by
  rw [takeDeclared, Progress.endpoints_takeDeclarations, Progress.endpoints_takeDataItems]
  rfl

theorem kindOf?_takeDeclared (source nodeName : Text) (outline : Outline) :
    (outline.takeDeclared source nodeName).kindOf? = outline.kindOf? := by
  funext name
  rw [Progress.kindOf?, Progress.endpoint?, endpoints_takeDeclared, List.find?_map, Option.map_map]
  rfl

/-- The complaints about all items in the order in which they are taken in. -/
def itemComplaints (source : Text) (outline : Outline) : List Error :=
  outline.data.flatMap (DataItem.complaints source) ++
    (declarationComplaints source [] outline.declarations ++
      (outline.states.flatMap (StateItem.complaints source outline.kindOf?) ++
        outline.requests.flatMap (RequestItem.complaints source outline.kindOf?)))

theorem answers_addAll (source nodeName : Text) (outline : Outline) :
    Answers (outline.itemComplaints source) (outline.takeAll source nodeName)
      (Progress.addAll source nodeName outline) := by
  have dataAnswer : Answers (outline.data.flatMap (DataItem.complaints source))
      (outline.data.foldl (Progress.takeData source) {})
      (outline.data.foldlM (Progress.addData source) {}) :=
    answers_foldlM (fun _ => True)
      (fun progress item _ => Progress.answers_addData source progress item)
      (fun _ _ _ => trivial) outline.data trivial
  have noClients : (outline.data.foldl (Progress.takeData source) {}).clients = [] := by
    rw [Progress.clients, Progress.endpoints_takeDataItems]
    rfl
  have declarationsAnswer := Progress.answers_addDeclarations source nodeName outline.declarations
    (outline.data.foldl (Progress.takeData source) {})
  rw [noClients] at declarationsAnswer
  -- From the states on, the clients and their kinds stay those that the outline declares.
  let SameKinds : Progress → Prop := fun progress => progress.kindOf? = outline.kindOf?
  have keepsState : ∀ progress item, SameKinds progress →
      SameKinds (progress.takeState source item) := fun progress item sameKinds =>
    (Progress.kindOf?_takeState source progress item).trans sameKinds
  have keepsRequest : ∀ progress item, SameKinds progress →
      SameKinds (progress.takeRequest item) := fun progress item sameKinds =>
    (Progress.kindOf?_takeRequest progress item).trans sameKinds
  have atStates := kindOf?_takeDeclared source nodeName outline
  have atRequests : SameKinds (outline.states.foldl (Progress.takeState source)
      (outline.takeDeclared source nodeName)) :=
    List.foldlRecOn outline.states _ atStates fun progress sameKinds item _ =>
      keepsState progress item sameKinds
  have statesAnswer := answers_foldlM SameKinds
    (fun progress item sameKinds => sameKinds ▸ Progress.answers_addState source progress item)
    keepsState outline.states atStates
  have requestsAnswer := answers_foldlM SameKinds
    (fun progress item sameKinds => sameKinds ▸ Progress.answers_addRequest source progress item)
    keepsRequest outline.requests atRequests
  exact dataAnswer.bind fun _ => declarationsAnswer.bind fun _ =>
    statesAnswer.bind fun _ => requestsAnswer

/-- The complaints about an outline in order: first about its root element and the name of
the skill, then about its items. -/
def complaints (source fallbackName : Text) (outline : Outline) : List Error :=
  (if outline.rootName = rootTag then []
    else [complaint source outline.rootName outline.line (.wrongRoot outline.rootName)]) ++
  ((if Naming.className? (outline.skillName fallbackName) = none then
      [complaint source outline.rootName outline.line
        (.unusableName (outline.skillName fallbackName))]
    else []) ++
  outline.itemComplaints source)

/-- The progress after all items of an outline whose skill is named. -/
def taken (source fallbackName : Text) (outline : Outline) : Progress :=
  outline.takeAll source ((nodeName? (outline.skillName fallbackName)).getD [])

/-- The model of an outline, whatever is wrong with it. -/
def model (source fallbackName : Text) (outline : Outline) : RawModel :=
  (outline.taken source fallbackName).finish (outline.skillName fallbackName) source
    (outline.initial?.getD [])

/-- The log of an outline that nothing is wrong with. -/
def fullLog (source fallbackName : Text) (outline : Outline) : Log :=
  let progress := outline.taken source fallbackName
  progress.log ++ uninvokedWarnings source progress.endpoints ++
    targetWarnings source progress.states progress.endpoints

/-- An extraction gives the model of the outline if there is no complaint, and the first
complaint otherwise. -/
theorem outcome_extract (source fallbackName : Text) (outline : Outline) :
    (outline.extract source fallbackName).outcome =
      verdict (outline.complaints source fallbackName) (outline.model source fallbackName) := by
  unfold extract complaints model taken
  by_cases isRoot : outline.rootName = rootTag
  · rw [if_pos isRoot, if_neg (not_not_intro isRoot)]
    cases className : Naming.className? (outline.skillName fallbackName) with
    | none => simp [nodeName?, className, verdict, complaint, isRoot]
    | some derived =>
        have answers := outline.answers_addAll source (Naming.snakeCase derived)
        simp only [nodeName?, className, Option.map_some, Option.getD_some, reduceCtorEq, if_false,
          List.nil_append, Memory.progress_start]
        cases found : outline.itemComplaints source with
        | nil =>
            rw [answers.of_nil found]
            rfl
        | cons first others =>
            rw [found] at answers
            obtain ⟨progress, fails⟩ := answers
            rw [fails]
            rfl
  · rw [if_neg isRoot, if_pos isRoot]
    rfl

/-- Where nothing is wrong, the log is that of all items and of the warnings at the end. -/
theorem log_extract
    {source fallbackName : Text}
    {outline : Outline}
    (nothingWrong : outline.complaints source fallbackName = []) :
    (outline.extract source fallbackName).log = outline.fullLog source fallbackName := by
  unfold complaints at nothingWrong
  obtain ⟨isRoot, isNamed, found⟩ :
      outline.rootName = rootTag ∧
        Naming.className? (outline.skillName fallbackName) ≠ none ∧
        outline.itemComplaints source = [] := by
    simpa using nothingWrong
  obtain ⟨derived, className⟩ := Option.ne_none_iff_exists'.mp isNamed
  have answers := outline.answers_addAll source (Naming.snakeCase derived)
  unfold extract fullLog taken
  rw [if_neg (not_not_intro isRoot)]
  simp only [nodeName?, className, Option.map_some, Option.getD_some, Memory.progress_start]
  rw [answers.of_nil found]

end Outline

end Statechart
end SkillNode
