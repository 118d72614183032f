import SkillNode.Statechart.Loading
import Mathlib.Data.List.Nodup

/-!
# Models that are read

What a model is known to be like when a text or a file was read as it: a class can be
named after its skill, and no two of its endpoints have one client name.

Each step of an extraction either adds an endpoint under a new client name or leaves
the client names alone, so they are distinct at every step.
-/

namespace SkillNode
namespace Statechart

/-- A model that some text or some file is read as. -/
def IsRead (model : RawModel) : Prop :=
  (∃ source text converters, (ofText source text converters).outcome = .ok model) ∨
    ∃ tree path converters, (ofFile tree path converters).outcome = .ok model

/-- A property that every step keeps holds after all steps. -/
theorem foldlM_invariant
    {Item State Trouble : Type}
    {step : State → Item → Except Trouble State}
    {Holds : State → Prop}
    (keeps : ∀ state item next, Holds state → step state item = .ok next → Holds next)
    {items : List Item}
    {start final : State}
    (atStart : Holds start)
    (runs : items.foldlM step start = .ok final) :
    Holds final := by
  induction items generalizing start with
  | nil =>
      cases runs
      exact atStart
  | cons item items restHypothesis =>
      rw [List.foldlM_cons] at runs
      cases first : step start item with
      | error trouble => simp [first, bind, Except.bind] at runs
      | ok next =>
          rw [first] at runs
          exact restHypothesis (keeps start item next atStart first) runs

theorem ok_of_bind
    {First Second Trouble : Type}
    {first : Except Trouble First}
    {second : First → Except Trouble Second}
    {result : Second}
    (runs : first >>= second = .ok result) :
    ∃ middle, first = .ok middle ∧ second middle = .ok result := by
  cases first with
  | error trouble => cases runs
  | ok middle => exact ⟨middle, rfl, runs⟩

namespace Progress

/-- The endpoints known so far have client names of their own. -/
def DistinctClients (progress : Progress) : Prop :=
  (progress.endpoints.map Endpoint.clientName).Nodup

/-- A change of endpoints that keeps client names keeps them distinct. -/
theorem DistinctClients.update
    {progress : Progress}
    (distinct : progress.DistinctClients)
    (name : Text)
    {change : Endpoint → Endpoint}
    (keepsClient : ∀ endpoint, (change endpoint).clientName = endpoint.clientName) :
    (progress.update name change).DistinctClients := by
  have sameClients : (progress.update name change).endpoints.map Endpoint.clientName =
      progress.endpoints.map Endpoint.clientName := by
    unfold Progress.update
    rw [List.map_map]
    refine List.map_congr_left fun endpoint _ => ?_
    dsimp only [Function.comp]
    split
    · exact keepsClient endpoint
    · rfl
  rw [DistinctClients, sameClients]
  exact distinct

variable {source nodeName : Text} {progress next : Progress}

theorem DistinctClients.addData
    {item : DataItem}
    (distinct : progress.DistinctClients)
    (added : progress.addData source item = .ok next) :
    next.DistinctClients := by
  unfold Progress.addData at added
  split at added
  · cases added
  · cases added
    exact distinct

/-- A declaration is taken in only under a new client name. -/
theorem DistinctClients.addDeclaration
    {item : DeclarationItem}
    (distinct : progress.DistinctClients)
    (added : progress.addDeclaration source nodeName item = .ok next) :
    next.DistinctClients := by
  unfold Progress.addDeclaration at added
  split at added
  · cases added
  · next endpoint _ =>
      split at added
      · cases added
      · next isNew =>
          cases added
          have notKnown : endpoint.clientName ∉ progress.endpoints.map Endpoint.clientName := by
            simpa using isNew
          rw [DistinctClients, List.map_append, List.map_cons, List.map_nil]
          refine List.nodup_append.mpr ⟨distinct, List.nodup_singleton _, ?_⟩
          rintro name known other isOther rfl
          exact notKnown (List.mem_singleton.mp isOther ▸ known)

theorem DistinctClients.addAssign
    {name : Text}
    {item : AssignItem}
    (distinct : progress.DistinctClients)
    (added : progress.addAssign source name item = .ok next) :
    next.DistinctClients := by
  unfold Progress.addAssign at added
  split at added
  · cases added
  · split at added
    · cases added
      exact distinct
    · cases added
      have noted : ∀ records, (progress.note records).DistinctClients := fun _ => distinct
      exact (noted _).update name fun _ => rfl

theorem DistinctClients.addHandler
    {item : HandlerItem}
    (distinct : progress.DistinctClients)
    (added : progress.addHandler source item = .ok next) :
    next.DistinctClients := by
  unfold Progress.addHandler at added
  split at added
  · cases added
  · split at added
    · dsimp only at added
      refine foldlM_invariant (fun _ _ _ => DistinctClients.addAssign) ?_ added
      exact distinct.update _ fun _ => rfl
    · cases added

theorem DistinctClients.addState
    {item : StateItem}
    (distinct : progress.DistinctClients)
    (added : progress.addState source item = .ok next) :
    next.DistinctClients := by
  unfold Progress.addState at added
  split at added
  · cases added
  · split at added
    · cases added
    · next handled handles =>
        cases added
        have handledDistinct : handled.DistinctClients :=
          foldlM_invariant (fun _ _ _ => DistinctClients.addHandler) distinct handles
        exact handledDistinct

theorem DistinctClients.addRequest
    {item : RequestItem}
    (distinct : progress.DistinctClients)
    (added : progress.addRequest source item = .ok next) :
    next.DistinctClients := by
  unfold Progress.addRequest at added
  split at added
  · cases added
  · split at added
    · cases added
      exact distinct.update _ fun _ => rfl
    · cases added

theorem DistinctClients.addAll
    {outline : Outline}
    (added : Progress.addAll source nodeName outline = .ok next) :
    next.DistinctClients := by
  unfold Progress.addAll at added
  obtain ⟨withData, dataAdded, added⟩ := ok_of_bind added
  obtain ⟨declared, declarationsAdded, added⟩ := ok_of_bind added
  obtain ⟨handled, statesAdded, requestsAdded⟩ := ok_of_bind added
  -- The items of each kind are taken in after those of the kind before.
  have atStart : ({} : Progress).DistinctClients := List.nodup_nil
  have afterData := foldlM_invariant (fun _ _ _ => DistinctClients.addData) atStart dataAdded
  have afterDeclarations :=
    foldlM_invariant (fun _ _ _ => DistinctClients.addDeclaration) afterData declarationsAdded
  have afterStates :=
    foldlM_invariant (fun _ _ _ => DistinctClients.addState) afterDeclarations statesAdded
  exact foldlM_invariant (fun _ _ _ => DistinctClients.addRequest) afterStates requestsAdded

end Progress

/-- What an extraction that gives a model guarantees. -/
theorem Outline.extract_guarantees
    {outline : Outline}
    {source fallbackName : Text}
    {model : RawModel}
    (extracts : (outline.extract source fallbackName).outcome = .ok model) :
    Naming.className? model.name ≠ none ∧ (model.endpoints.map Endpoint.clientName).Nodup := by
  unfold Outline.extract at extracts
  split at extracts
  · cases extracts
  · dsimp only at extracts
    split at extracts
    · cases extracts
    · next nodeName named =>
        split at extracts
        · cases extracts
        · next progress taken =>
            cases extracts
            refine ⟨fun unusable => ?_, Progress.DistinctClients.addAll taken⟩
            have noClass : Naming.className? (outline.skillName fallbackName) = none := unusable
            have noNode : nodeName? (outline.skillName fallbackName) = none := by
              rw [nodeName?, noClass]
              rfl
            rw [noNode] at named
            cases named

theorem outcomeOf_of_runOf
    {reading : Except Error Extraction}
    {model : RawModel}
    (runs : (runOf reading).outcome = .ok model) :
    outcomeOf reading = .ok model := by
  cases outcome : outcomeOf reading with
  | error error => simp [runOf, outcome] at runs
  | ok found => simpa [runOf, outcome] using runs

/-- A model that was read was extracted from some outline. -/
theorem IsRead.exists_extract {model : RawModel} (isRead : IsRead model) :
    ∃ (outline : Outline) (source fallbackName : Text),
      (outline.extract source fallbackName).outcome = .ok model := by
  rcases isRead with ⟨source, text, converters, reads⟩ | ⟨tree, path, converters, reads⟩
  · have outcome := outcomeOf_of_runOf reads
    unfold readText at outcome
    split at outcome
    · exact ⟨_, _, _, outcome⟩
    · cases outcome
    · cases outcome
  · unfold ofFile at reads
    split at reads
    · have outcome := outcomeOf_of_runOf reads
      unfold readFile at outcome
      split at outcome
      · exact ⟨_, _, _, outcome⟩
      · cases outcome
      · cases outcome
    · cases reads

/-- A model that was read has a usable name and distinct clients. -/
theorem IsRead.guarantees {model : RawModel} (isRead : IsRead model) :
    Naming.className? model.name ≠ none ∧ (model.endpoints.map Endpoint.clientName).Nodup := by
  obtain ⟨outline, source, fallbackName, extracts⟩ := isRead.exists_extract
  exact Outline.extract_guarantees extracts

end Statechart
end SkillNode
