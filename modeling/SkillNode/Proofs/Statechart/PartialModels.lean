import SkillNode.Proofs.Statechart.StateForest
import SkillNode.Proofs.Statechart.TakenItems

/-!
# Partial models

What is known of a document when its extraction ends early. The data elements are taken in
before the states, so the variables are those of a beginning of the data elements; there are
states only if all data elements were taken in, and these are put from a beginning of the state
elements. Nothing is known yet of the endpoints.

The main statement says so of what a reader remembers after a document that it did not accept.
-/

namespace SkillNode
namespace Statechart

open FileTree (Path)
open Markup (Document)

/-- What is known when an extraction of items ends. -/
def progressAt : Except Failure Progress → Progress
  | .ok progress => progress
  | .error failure => failure.progress

/-- An item is taken in, or the extraction ends with what was known before. -/
def Takes (taken known : List Variable × List State) : Except Failure Progress → Prop
  | .ok next => next.surroundings = taken
  | .error failure => failure.progress.surroundings = known

/-! ## Items of one kind -/

section Items

variable {Item : Type} {step : Progress → Item → Except Failure Progress}

/-- Items that change nothing of the variables and states, whether they are taken in or not. -/
theorem surroundings_foldlM
    (keeps : ∀ progress item,
      (progressAt (step progress item)).surroundings = progress.surroundings)
    (items : List Item)
    (progress : Progress) :
    (progressAt (items.foldlM step progress)).surroundings = progress.surroundings := by
  induction items generalizing progress with
  | nil => rfl
  | cons item rest restHypothesis =>
      have first := keeps progress item
      rw [List.foldlM_cons]
      cases taken : step progress item with
      | error failure =>
          rw [taken] at first
          exact first
      | ok next =>
          rw [taken] at first
          exact (restHypothesis next).trans first

/-- A step that changes nothing of the variables and states may follow or not. -/
theorem surroundings_bind
    {next : Progress → Except Failure Progress}
    (keeps : ∀ progress, (progressAt (next progress)).surroundings = progress.surroundings)
    (result : Except Failure Progress) :
    (progressAt (result >>= next)).surroundings = (progressAt result).surroundings := by
  cases result with
  | error failure => rfl
  | ok progress => exact keeps progress

/-- Items of which each is taken in or ends the run are taken in up to the first that ends
it. -/
theorem exists_begun_foldlM
    (take : List Variable × List State → Item → List Variable × List State)
    (takes : ∀ progress item,
      Takes (take progress.surroundings item) progress.surroundings (step progress item))
    (items : List Item)
    (progress : Progress) :
    ∃ begun, begun <+: items ∧
      (progressAt (items.foldlM step progress)).surroundings =
        begun.foldl take progress.surroundings ∧
        ((items.foldlM step progress).isOk = true → begun = items) := by
  induction items generalizing progress with
  | nil => exact ⟨[], List.prefix_rfl, rfl, fun _ => rfl⟩
  | cons item rest restHypothesis =>
      have first := takes progress item
      rw [List.foldlM_cons]
      cases taken : step progress item with
      | error failure =>
          rw [taken] at first
          exact ⟨[], List.nil_prefix, first, fun isOk => nomatch isOk⟩
      | ok next =>
          rw [taken] at first
          have afterFirst : next.surroundings = take progress.surroundings item := first
          obtain ⟨begun, isBegun, known, complete⟩ := restHypothesis next
          refine ⟨item :: begun, List.cons_prefix_cons.mpr ⟨rfl, isBegun⟩, ?_, fun isOk => ?_⟩
          · rw [List.foldl_cons, ← afterFirst]
            exact known
          · rw [complete isOk]

end Items

namespace Progress

/-! ## Single items -/

theorem surroundings_addDeclaration
    (source nodeName : Text)
    (progress : Progress)
    (item : DeclarationItem) :
    (progressAt (progress.addDeclaration source nodeName item)).surroundings =
      progress.surroundings := by
  unfold addDeclaration
  split
  · rfl
  · split <;> rfl

theorem surroundings_addAssign
    (source name : Text)
    (progress : Progress)
    (item : AssignItem) :
    (progressAt (progress.addAssign source name item)).surroundings = progress.surroundings := by
  unfold addAssign
  split
  · rfl
  · split <;> rfl

theorem surroundings_addHandler (source : Text) (progress : Progress) (item : HandlerItem) :
    (progressAt (progress.addHandler source item)).surroundings = progress.surroundings := by
  unfold addHandler
  split
  · rfl
  · split
    · exact surroundings_foldlM (surroundings_addAssign source _) item.assigns _
    · rfl

theorem surroundings_addRequest (source : Text) (progress : Progress) (item : RequestItem) :
    (progressAt (progress.addRequest source item)).surroundings = progress.surroundings := by
  unfold addRequest
  split
  · rfl
  · split <;> rfl

/-- A data element that is taken in adds its variable. -/
theorem takes_addData (source : Text) (progress : Progress) (item : DataItem) :
    Takes (progress.surroundings.1 ++ [item.variable], progress.surroundings.2)
      progress.surroundings (progress.addData source item) := by
  unfold addData
  rw [item.declared_eq]
  cases item.faults <;> rfl

/-- A state that is taken in is put under its id, after its handlers changed no state. -/
theorem takes_addState (source : Text) (progress : Progress) (item : StateItem) :
    Takes (progress.surroundings.1, putState item.made progress.surroundings.2)
      progress.surroundings (progress.addState source item) := by
  have handlers := surroundings_foldlM (surroundings_addHandler source) item.handlers progress
  unfold addState
  rw [require_eq]
  cases lackOf "id" item.id? with
  | cons fault others => rfl
  | nil =>
      dsimp only [verdict]
      split
      · next failure taken =>
          rw [taken] at handlers
          exact handlers
      · next handled taken =>
          rw [taken] at handlers
          rw [← handlers]
          rfl

end Progress

/-! ## Whole outlines -/

/-- What is left of states that are put one after the other. -/
def statesOf (items : List StateItem) : List State :=
  items.foldl (fun known item => putState item.made known) []

/-- The data elements and states that were taken in of an outline when its extraction ended: a
beginning of its data elements, and of its states if no data element is left. -/
structure Outline.Begins (outline : Outline) (data : List DataItem) (states : List StateItem) :
    Prop where
  dataBegun : data <+: outline.data
  statesBegun : states <+: outline.states
  inOrder : states = [] ∨ data = outline.data

theorem foldl_dataItems (items : List DataItem) (known : List Variable × List State) :
    items.foldl (fun known item => (known.1 ++ [item.variable], known.2)) known =
      (known.1 ++ items.map DataItem.variable, known.2) := by
  induction items generalizing known with
  | nil => simp
  | cons item rest restHypothesis => simp [restHypothesis]

theorem foldl_stateItems (items : List StateItem) (known : List Variable × List State) :
    items.foldl (fun known item => (known.1, putState item.made known.2)) known =
      (known.1, items.foldl (fun known item => putState item.made known) known.2) := by
  induction items generalizing known with
  | nil => rfl
  | cons item rest restHypothesis => exact restHypothesis _

section

variable (source nodeName : Text) (outline : Outline)

/-- Of the items after the data elements only the states change what is known of variables and
states. -/
theorem exists_begun_afterData (progress : Progress) :
    ∃ states, states <+: outline.states ∧
      (progressAt (do
        let declared ←
          outline.declarations.foldlM (Progress.addDeclaration source nodeName) progress
        let handled ← outline.states.foldlM (Progress.addState source) declared
        outline.requests.foldlM (Progress.addRequest source) handled)).surroundings =
        (progress.surroundings.1,
          states.foldl (fun known item => putState item.made known) progress.surroundings.2) := by
  have declarations := surroundings_foldlM (Progress.surroundings_addDeclaration source nodeName)
    outline.declarations progress
  cases declared :
      outline.declarations.foldlM (Progress.addDeclaration source nodeName) progress with
  | error failure =>
      rw [declared] at declarations
      exact ⟨[], List.nil_prefix, declarations⟩
  | ok withDeclarations =>
      rw [declared] at declarations
      have sameKnown : withDeclarations.surroundings = progress.surroundings := declarations
      obtain ⟨states, isBegun, known, -⟩ := exists_begun_foldlM
        (fun known item => (known.1, putState item.made known.2))
        (Progress.takes_addState source) outline.states withDeclarations
      refine ⟨states, isBegun, ?_⟩
      rw [← sameKnown, ← foldl_stateItems, ← known]
      exact surroundings_bind
        (surroundings_foldlM (Progress.surroundings_addRequest source) outline.requests) _

/-- The variables and states that are known when an extraction ends are those of the items that
were taken in. -/
theorem exists_begun_addAll :
    ∃ data states, outline.Begins data states ∧
      (progressAt (Progress.addAll source nodeName outline)).surroundings =
        (data.map DataItem.variable, statesOf states) := by
  obtain ⟨data, dataBegun, dataKnown, allData⟩ := exists_begun_foldlM
    (fun known item => (known.1 ++ [item.variable], known.2))
    (Progress.takes_addData source) outline.data {}
  rw [foldl_dataItems] at dataKnown
  cases taken : outline.data.foldlM (Progress.addData source) {} with
  | error failure =>
      rw [taken] at dataKnown
      refine ⟨data, [], ⟨dataBegun, List.nil_prefix, .inl rfl⟩, ?_⟩
      rw [Progress.addAll, taken]
      exact dataKnown
  | ok withData =>
      rw [taken] at dataKnown
      have known : withData.surroundings = (data.map DataItem.variable, []) := dataKnown
      obtain ⟨states, statesBegun, statesKnown⟩ :=
        exists_begun_afterData source nodeName outline withData
      refine ⟨data, states, ⟨dataBegun, statesBegun, .inr (allData (taken ▸ rfl))⟩, ?_⟩
      rw [known] at statesKnown
      rw [Progress.addAll, taken]
      exact statesKnown

end

/-! ## Models -/

/-- A model of a document of a source that was not read to its end: it is called like the
document, has the variables and states of the items that were taken in, and no endpoints. -/
structure IsPartialModel (source : Text) (document : Document) (model : RawModel) : Prop where
  root : document.root.name = rootTag
  name : model.name = skillNameOf source document
  source : model.source = source
  initial : model.initial = (document.root.attribute? "initial").getD []
  begun : ∃ data states, (Outline.ofDocument document).Begins data states ∧
    model.datamodel = data.map DataItem.variable ∧ model.states = statesOf states
  endpoints : model.endpoints = []

section

variable {source : Text} {document : Document}

/-- A document of another kind is refused before a model is started. -/
theorem extractDocument_of_otherRoot
    (source fallbackName : Text)
    (memory : Memory)
    (otherRoot : document.root.name ≠ rootTag) :
    (extractDocument source fallbackName document memory).memory = memory.turnTo source ∧
      ∃ error, (extractDocument source fallbackName document memory).outcome = .error error := by
  unfold extractDocument Outline.extract
  rw [if_pos (show (Outline.ofDocument document).rootName ≠ rootTag from otherRoot)]
  exact ⟨rfl, _, rfl⟩

/-- What is kept of an extraction that ended early is a partial model. -/
theorem isPartialModel_keep
    (root : document.root.name = rootTag)
    {progress : Progress}
    (begun : ∃ data states, (Outline.ofDocument document).Begins data states ∧
      progress.surroundings = (data.map DataItem.variable, statesOf states)) :
    IsPartialModel source document
      { name := skillNameOf source document
        source := source
        initial := (document.root.attribute? "initial").getD []
        datamodel := progress.datamodel
        states := progress.states
        endpoints := [] } := by
  obtain ⟨data, states, begins, known⟩ := begun
  exact {
    root := root
    name := rfl
    source := rfl
    initial := rfl
    begun := ⟨data, states, begins, congrArg Prod.fst known, congrArg Prod.snd known⟩
    endpoints := rfl }

/-- After a document of a skill a reader remembers a model of its source, which is a partial one
if the document is refused. -/
theorem extractDocument_of_root
    (source : Text)
    (memory : Memory)
    {extraction : Extraction}
    (extracts : extractDocument source (Path.ofText source).stem document memory = extraction)
    (root : document.root.name = rootTag) :
    ∃ model, extraction.memory.model? = some model ∧ extraction.memory.source = source ∧
      model.source = source ∧
      ∀ error, extraction.outcome = .error error → IsPartialModel source document model := by
  subst extracts
  unfold extractDocument Outline.extract
  rw [if_neg (not_not_intro (show (Outline.ofDocument document).rootName = rootTag from root))]
  dsimp only
  split
  · have nothing : ∃ data states, (Outline.ofDocument document).Begins data states ∧
        ({} : Progress).surroundings = (data.map DataItem.variable, statesOf states) :=
      ⟨[], [], ⟨List.nil_prefix, List.nil_prefix, .inl rfl⟩, rfl⟩
    exact ⟨_, rfl, rfl, rfl, fun _ _ => isPartialModel_keep root nothing⟩
  · next nodeName named =>
      rw [Memory.progress_start]
      have begun := exists_begun_addAll source nodeName (Outline.ofDocument document)
      split
      · next error progress taken =>
          rw [taken] at begun
          exact ⟨_, rfl, rfl, rfl, fun _ _ => isPartialModel_keep root begun⟩
      · refine ⟨_, rfl, rfl, rfl, fun error fails => ?_⟩
        cases fails

end

end Statechart
end SkillNode
