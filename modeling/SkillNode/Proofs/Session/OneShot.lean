import SkillNode.Proofs.Session.Steps
import SkillNode.Proofs.Statechart.Readers
import Mathlib.Data.Option.Defs

/-!
# Sessions and single runs

A session keeps a catalog and a reader through all its steps. What it answers is all the
same what a single run answers that starts afresh from the history of the session: the
descriptions that were accepted, the text that was read last, and what the model was
resolved from that is to be generated.

The history notes nothing of a step that fails, which is how failed steps come to have no
influence. One relation between session and history carries this through a run.
-/

namespace SkillNode
namespace Session

open Generation (Options bundledFolder)
open Interface (Catalog Description)
open Statechart (RawModel TypedModel)

/-! ## Histories -/

/-- What the successful steps of a session were, as far as later ones depend on them. -/
structure History where
  /-- The accepted descriptions in order. -/
  added : List Description := []
  /-- The source and the text that were read last. -/
  read? : Option (Text × Text) := none
  /-- What was there when a model was resolved last. -/
  resolved? : Option Pipeline.Input := none

/-- The history after one more step. -/
def History.after (history : History) : Step → History
  | .addText description =>
      if description.isAccepted then
        { history with added := history.added ++ [description] }
      else
        history
  | .read source text =>
      if (Statechart.ofText source text).outcome.isOk then
        { history with read? := some (source, text) }
      else
        history
  | .resolve =>
      match history.read? with
      | some (source, text) => { history with resolved? := some ⟨source, text, history.added⟩ }
      | none => history
  | _ => history

/-- The history of some steps. -/
def historyOf (steps : List Step) : History := steps.foldl History.after {}

@[simp] theorem historyOf_concat (steps : List Step) (step : Step) :
    historyOf (steps ++ [step]) = (historyOf steps).after step := by
  simp [historyOf]

/-! ## Agreement -/

/-- A session is what single runs make of a history. -/
structure Agrees (session : Session) (history : History) : Prop where
  areAccepted : ∀ description ∈ history.added, description.isAccepted
  catalog : (Catalog.empty.addDescriptions history.added).outcome = .ok session.catalog
  raw : Option.Rel (fun read model => (Statechart.ofText read.1 read.2).outcome = .ok model)
    history.read? session.raw?
  typed : Option.Rel (fun input model => (Pipeline.typedModel input).outcome = .ok model)
    history.resolved? session.typed?

theorem Agrees.start : Agrees start {} where
  areAccepted := by simp
  catalog := rfl
  raw := .none
  typed := .none

/-- The typed model of an input whose parts are at hand. -/
theorem outcome_typedModel
    {source text : Text}
    {descriptions : List Description}
    {model : RawModel}
    {catalog : Catalog}
    (reads : (Statechart.ofText source text).outcome = .ok model)
    (adds : (Catalog.empty.addDescriptions descriptions).outcome = .ok catalog) :
    (Pipeline.typedModel ⟨source, text, descriptions⟩).outcome =
      .ok (Statechart.resolve model catalog) := by
  simp only [Pipeline.typedModel, Run.outcome_bind, reads, adds, Except.bind]
  rfl

/-- What a run gives for the same input is the same. -/
theorem eq_of_rel
    {Input Result : Type}
    {runOf : Input → Except Failure Result}
    {input? : Option Input}
    {first? second? : Option Result}
    (first : Option.Rel (fun input result => runOf input = .ok result) input? first?)
    (second : Option.Rel (fun input result => runOf input = .ok result) input? second?) :
    first? = second? := by
  cases first with
  | none => cases second; rfl
  | some gives =>
      cases second with
      | some givesToo => exact congrArg some (Except.ok.inj (gives.symm.trans givesToo))

/-- Sessions that agree with one history have the same catalog and the same models. -/
theorem Agrees.unique
    {first second : Session}
    {history : History}
    (firstAgrees : Agrees first history)
    (secondAgrees : Agrees second history) :
    first.catalog = second.catalog ∧ first.raw? = second.raw? ∧ first.typed? = second.typed? :=
  ⟨Except.ok.inj (firstAgrees.catalog.symm.trans secondAgrees.catalog),
    eq_of_rel firstAgrees.raw secondAgrees.raw, eq_of_rel firstAgrees.typed secondAgrees.typed⟩

/-! ## One more step -/

/-- The session with the memory that its reader has after a text. -/
def remembering (session : Session) (source text : Text) : Session :=
  { session with
    memory := session.memory.after (Statechart.readText source text session.memory) }

/-- A text is read as by a new reader, and its model is kept if there is one. -/
theorem step_read (session : Session) (source text : Text) :
    session.step (.read source text) =
      ((session.remembering source text).after (Statechart.ofText source text)
          fun session model => { session with raw? := some model },
        do return .raw (← Statechart.ofText source text)) := by
  dsimp only [step, remembering]
  rw [Statechart.runOf_readText]

theorem answer_read (session : Session) (source text : Text) :
    (session.step (.read source text)).2 =
      (do return .raw (← Statechart.ofText source text)) := by
  rw [step_read]

theorem step_resolve
    {session : Session}
    {model : RawModel}
    (isThere : session.raw? = some model) :
    session.step .resolve =
      ({ session with typed? := some (Statechart.resolve model session.catalog) },
        do return .typed (← Statechart.typed session.catalog model)) := by
  obtain ⟨catalog, memory, raw?, typed?⟩ := session
  obtain rfl : raw? = some model := isThere
  rfl

theorem step_resolve_of_none
    {session : Session}
    (isMissing : session.raw? = none) :
    session.step .resolve = (session, .fail .noModel) := by
  obtain ⟨catalog, memory, raw?, typed?⟩ := session
  obtain rfl : raw? = none := isMissing
  rfl

/-- Every step keeps the agreement with the history that goes on with it. -/
theorem Agrees.step
    {session : Session}
    {history : History}
    (agrees : Agrees session history)
    (step : Step) :
    Agrees (session.step step).1 (history.after step) := by
  cases step with
  | addText description =>
      by_cases isAccepted : description.isAccepted
      · obtain ⟨sections, declares⟩ := Description.isAccepted_iff.mp isAccepted
        have makes := Description.entry?_of_sections declares
        have allAccepted : ∀ other ∈ history.added ++ [description], other.isAccepted :=
          List.forall_mem_append.mpr ⟨agrees.areAccepted, by simpa using isAccepted⟩
        have before := agrees.catalog
        rw [Catalog.outcome_addDescriptions agrees.areAccepted, Except.ok.injEq] at before
        rw [step_addText_of_entry session makes, History.after, if_pos isAccepted]
        refine ⟨allAccepted, ?_, agrees.raw, agrees.typed⟩
        rw [Catalog.outcome_addDescriptions allAccepted, List.filterMap_append,
          List.filterMap_cons_some makes, List.filterMap_nil, List.foldl_append, before]
        rfl
      · obtain ⟨error, refuses⟩ := step_addText_of_refused (Bool.eq_false_iff.mpr isAccepted)
        rw [refuses, History.after, if_neg isAccepted]
        exact agrees
  | read source text =>
      rw [step_read, History.after, remembering]
      cases reading : (Statechart.ofText source text).outcome with
      | ok model =>
          simp only [Session.after, reading]
          exact ⟨agrees.areAccepted, agrees.catalog, .some reading, agrees.typed⟩
      | error failure =>
          simp only [Session.after, reading]
          exact ⟨agrees.areAccepted, agrees.catalog, agrees.raw, agrees.typed⟩
  | resolve =>
      obtain ⟨added, read?, resolved?⟩ := history
      cases isThere : session.raw? with
      | none =>
          have raw := agrees.raw
          rw [isThere] at raw
          cases raw
          rw [step_resolve_of_none isThere]
          exact agrees
      | some model =>
          have raw := agrees.raw
          rw [isThere] at raw
          cases raw with
          | some reads =>
              rw [step_resolve isThere]
              exact ⟨agrees.areAccepted, agrees.catalog, isThere ▸ .some reads,
                .some (outcome_typedModel reads agrees.catalog)⟩
  | lookUp | fields | contains | keys | «recall» | variableOf | generate => exact agrees

/-- A session agrees with the history of the steps that led to it. -/
theorem agrees_reached (steps : List Step) : Agrees (start.reached steps) (historyOf steps) := by
  induction steps using List.reverseRecOn with
  | nil => exact .start
  | append_singleton steps step stepsHypothesis =>
      rw [reached_concat, historyOf_concat]
      exact stepsHypothesis.step step

/-! ## Failed steps -/

/-- Steps but the recall of what the reader remembers are answered from the catalog and the
models alone. -/
theorem answer_congr
    {first second : Session}
    (sameCatalog : first.catalog = second.catalog)
    (sameRaw : first.raw? = second.raw?)
    (sameTyped : first.typed? = second.typed?)
    {step : Step}
    (notRecall : step ≠ .recall) :
    (first.step step).2 = (second.step step).2 := by
  cases step with
  | «recall» => exact absurd rfl notRecall
  | read source text => rw [answer_read, answer_read]
  | addText | lookUp | fields | contains | keys | variableOf | resolve | generate =>
      simp only [Session.step, sameCatalog, sameRaw, sameTyped]

/-- A failed step leaves no trace in the history. -/
theorem Agrees.after_eq_of_failed
    {session : Session}
    {history : History}
    (agrees : Agrees session history)
    {step : Step}
    {failure : Failure}
    (failed : (session.step step).2.outcome = .error failure) :
    history.after step = history := by
  cases step with
  | addText description =>
      by_cases isAccepted : description.isAccepted
      · obtain ⟨sections, declares⟩ := Description.isAccepted_iff.mp isAccepted
        rw [step_addText_of_entry session (Description.entry?_of_sections declares)] at failed
        cases failed
      · rw [History.after, if_neg isAccepted]
  | read source text =>
      cases reading : (Statechart.ofText source text).outcome with
      | ok model =>
          have answered : (session.step (.read source text)).2.outcome = .ok (.raw model) := by
            rw [answer_read, Run.outcome_bind, reading]
            rfl
          rw [answered] at failed
          cases failed
      | error error => rw [History.after, reading]; rfl
  | resolve =>
      cases isThere : session.raw? with
      | some model =>
          rw [step_resolve isThere] at failed
          cases failed
      | none =>
          obtain ⟨added, read?, resolved?⟩ := history
          have raw := agrees.raw
          rw [isThere] at raw
          cases raw
          rfl
  | lookUp | fields | contains | keys | «recall» | variableOf | generate => rfl

/-- So no later step but the recall of what the reader remembers is answered otherwise for
a step that failed. -/
theorem answer_eq_of_failed
    {earlier : List Step}
    {failed : Step}
    {failure : Failure}
    (hasFailed : ((start.reached earlier).step failed).2.outcome = .error failure)
    (later : List Step)
    {step : Step}
    (notRecall : step ≠ .recall) :
    ((start.reached (earlier ++ failed :: later)).step step).2 =
      ((start.reached (earlier ++ later)).step step).2 := by
  have sameHistory : historyOf (earlier ++ failed :: later) = historyOf (earlier ++ later) := by
    have failedAdds : (historyOf earlier).after failed = historyOf earlier :=
      (agrees_reached earlier).after_eq_of_failed hasFailed
    simp only [historyOf, List.foldl_append, List.foldl_cons]
    exact congrArg (later.foldl History.after) failedAdds
  have agrees := agrees_reached (earlier ++ failed :: later)
  rw [sameHistory] at agrees
  obtain ⟨sameCatalog, sameRaw, sameTyped⟩ := agrees.unique (agrees_reached (earlier ++ later))
  exact answer_congr sameCatalog sameRaw sameTyped notRecall

/-! ## Answers -/

/-- Resolving goes by what was read last and by the descriptions added so far. -/
theorem Agrees.answer_resolve
    {session : Session}
    {history : History}
    (agrees : Agrees session history)
    {source text : Text}
    (wasRead : history.read? = some (source, text)) :
    ∃ model catalog,
      (Statechart.ofText source text).outcome = .ok model ∧
        (Catalog.empty.addDescriptions history.added).outcome = .ok catalog ∧
          (session.step .resolve).2 = (do return .typed (← Statechart.typed catalog model)) := by
  have raw := agrees.raw
  rw [wasRead] at raw
  obtain ⟨model, isThere, reads⟩ : ∃ model, session.raw? = some model ∧
      (Statechart.ofText source text).outcome = .ok model := by
    revert raw
    generalize session.raw? = raw?
    rintro ⟨reads⟩
    exact ⟨_, rfl, reads⟩
  exact ⟨model, session.catalog, reads, agrees.catalog, by rw [step_resolve isThere]⟩

theorem Agrees.answer_resolve_of_none
    {session : Session}
    {history : History}
    (agrees : Agrees session history)
    (nothingRead : history.read? = none) :
    (session.step .resolve).2 = .fail .noModel := by
  have raw := agrees.raw
  rw [nothingRead] at raw
  have isMissing : session.raw? = none := by
    revert raw
    generalize session.raw? = raw?
    rintro ⟨⟩
    rfl
  rw [step_resolve_of_none isMissing]

/-- Refused settings are refused whether or not there is a model. -/
theorem generate_of_fault
    {options : Options}
    {fault : Generation.OptionFault}
    (isRefused : options.fault? = some fault)
    (model : TypedModel) :
    Generation.generate bundledFolder [] options model = .error (.badOptions fault) := by
  unfold Generation.generate
  rw [isRefused]
  rfl

/-- Generating goes by what was there when a model was resolved last. -/
theorem Agrees.answer_generate
    {session : Session}
    {history : History}
    (agrees : Agrees session history)
    {input : Pipeline.Input}
    (wasResolved : history.resolved? = some input)
    (options : Options) :
    (session.step (.generate options)).2.outcome =
      (Pipeline.sources bundledFolder [] options input).outcome.map .sources := by
  have typed := agrees.typed
  rw [wasResolved] at typed
  obtain ⟨model, isThere, types⟩ : ∃ model, session.typed? = some model ∧
      (Pipeline.typedModel input).outcome = .ok model := by
    revert typed
    generalize session.typed? = typed?
    rintro ⟨types⟩
    exact ⟨_, rfl, types⟩
  simp only [Pipeline.sources, Run.outcome_bind, types, Except.bind, Session.step, isThere]
  cases refused : options.fault? with
  | some fault =>
      rw [generate_of_fault refused]
      rfl
  | none =>
      simp only [need, Run.ofResult, Run.outcome_bind, Except.bind]
      generalize Generation.generate bundledFolder [] options model = generated
      cases generated <;> rfl

/-- Every step of a session is answered as by single runs from its history: a text is read
as by a new reader; a model is resolved as the text read last is, with a new catalog of the
accepted descriptions; and sources are generated as by the whole pipeline from what was
there at the last resolution. A failed step changes no later answer, but for what the reader
remembers of it. -/
theorem run_answers_singly (earlier : List Step) :
    let session := start.reached earlier
    let history := historyOf earlier
    (∀ step, start.run (earlier ++ [step]) = start.run earlier ++ [(session.step step).2]) ∧
      (∀ source text, (session.step (.read source text)).2 =
        (do return .raw (← Statechart.ofText source text))) ∧
      (∀ source text, history.read? = some (source, text) →
        ∃ model catalog,
          (Statechart.ofText source text).outcome = .ok model ∧
            (Catalog.empty.addDescriptions history.added).outcome = .ok catalog ∧
              (session.step .resolve).2 =
                (do return .typed (← Statechart.typed catalog model))) ∧
      (history.read? = none → (session.step .resolve).2 = .fail .noModel) ∧
      (∀ input options, history.resolved? = some input →
        (session.step (.generate options)).2.outcome =
          (Pipeline.sources bundledFolder [] options input).outcome.map .sources) ∧
      ∀ failed later step failure, (session.step failed).2.outcome = .error failure →
        step ≠ .recall →
          ((start.reached (earlier ++ failed :: later)).step step).2 =
            ((start.reached (earlier ++ later)).step step).2 := by
  intro session history
  have agrees : Agrees session history := agrees_reached earlier
  refine ⟨run_concat start earlier, answer_read session, fun _ _ => agrees.answer_resolve,
    agrees.answer_resolve_of_none,
    fun _ options wasResolved => agrees.answer_generate wasResolved options,
    fun _ later _ _ hasFailed notRecall => answer_eq_of_failed hasFailed later notRecall⟩

end Session
end SkillNode
