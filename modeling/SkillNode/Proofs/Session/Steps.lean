import SkillNode.Session
import SkillNode.Proofs.Interface.AcceptedDescriptions

/-!
# Steps of a session

What single steps do to a session, and the session that a list of steps leads to. The
answers of a run are those of its steps, each from the session that the steps before it
lead to.
-/

namespace SkillNode
namespace Session

open Interface (Catalog Description)

/-- The session that steps lead to. -/
def reached (session : Session) (steps : List Step) : Session :=
  steps.foldl (fun session step => (session.step step).1) session

@[simp] theorem reached_nil (session : Session) : session.reached [] = session := rfl

@[simp] theorem reached_cons (session : Session) (step : Step) (steps : List Step) :
    session.reached (step :: steps) = (session.step step).1.reached steps := rfl

@[simp] theorem reached_concat (session : Session) (steps : List Step) (step : Step) :
    session.reached (steps ++ [step]) = ((session.reached steps).step step).1 := by
  simp [reached]

/-- A run answers its last step from the session that the steps before lead to. -/
theorem run_concat (session : Session) (steps : List Step) (step : Step) :
    session.run (steps ++ [step]) =
      session.run steps ++ [((session.reached steps).step step).2] := by
  induction steps generalizing session with
  | nil => rfl
  | cons first rest restHypothesis =>
      simp only [List.cons_append, run, reached_cons, restHypothesis]

/-! ## Single steps -/

/-- An accepted description adds its entry. -/
theorem step_addText_of_entry
    (session : Session)
    {description : Description}
    {entry : Interface.Entry}
    (makes : description.entry? = some entry) :
    session.step (.addText description) =
      ({ session with catalog := session.catalog.insert entry },
        ⟨.ok (.added description.key (session.catalog.insert entry).size),
          session.catalog.additionLog entry⟩) := by
  simp only [step, Catalog.addDescription_of_entry _ makes, after]
  refine Prod.ext rfl ?_
  simp [bind, Run.andThen, pure, Run.ofResult]

/-- A refused description changes nothing. -/
theorem step_addText_of_refused
    {description : Description}
    (isRefused : description.isAccepted = false) :
    ∃ error, ∀ session : Session,
      session.step (.addText description) = (session, .fail (.interface error)) := by
  obtain ⟨error, refuses⟩ := Catalog.addDescription_of_refused isRefused
  refine ⟨error, fun session => ?_⟩
  simp only [step, refuses, after]
  rfl

end Session
end SkillNode
