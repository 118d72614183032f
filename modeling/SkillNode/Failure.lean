import SkillNode.FileTree.Tree
import SkillNode.Generation.Error
import SkillNode.Interface.Field
import SkillNode.Statechart.Error

/-!
# Failures

Whatever can end a run: an error in a behaviour description, in an interface
description, in generation, or in a file. The log that was made until then is
kept.
-/

namespace SkillNode

/-- Why a run ends without a result. -/
inductive Failure
  | statechart (error : Statechart.Error)
  | interface (error : Interface.Error)
  | generation (error : Generation.Error)
  | file (error : FileTree.Error)
  /-- The bytes of an interface file are no text. -/
  | undecodable (fault : Text.Utf8Fault)
  /-- There is no model yet to do this with. -/
  | noModel
  deriving DecidableEq, Repr

/-- What is said of a failure. -/
def Failure.message : Failure → Text
  | .statechart error => error.message
  | .interface error => error.message
  | .generation error => error.message
  | .file error => error.message
  | .undecodable fault => fault.message
  | .noModel => "No model"

/-- Whether the program has an answer to a failure. -/
def Failure.isAnswered : Failure → Bool
  | .generation (.rendering error) => error.fault.isAnswered
  | _ => true

/-- A run that gives a result or fails, and keeps a log in either case. -/
structure Run (α : Type) where
  outcome : Except Failure α
  log : Log

namespace Run

/-- The run that gives a result at once. -/
def ofResult {α : Type} (result : α) : Run α := ⟨.ok result, []⟩

/-- The run that fails at once. -/
def fail {α : Type} (failure : Failure) : Run α := ⟨.error failure, []⟩

/-- The run that makes some records. -/
def tell (log : Log) : Run Unit := ⟨.ok (), log⟩

/-- The run that an outcome without records makes. -/
def ofExcept {α ε : Type} (wrap : ε → Failure) : Except ε α → Run α
  | .ok result => ofResult result
  | .error error => fail (wrap error)

/-- Go on with the result of a run. The records of both stand in order. -/
def andThen {α β : Type} (first : Run α) (next : α → Run β) : Run β :=
  match first.outcome with
  | .ok result => ⟨(next result).outcome, first.log ++ (next result).log⟩
  | .error failure => ⟨.error failure, first.log⟩

instance : Monad Run where
  pure := ofResult
  bind := andThen

@[simp] theorem outcome_pure {α : Type} (result : α) :
    (pure result : Run α).outcome = .ok result := rfl

@[simp] theorem log_pure {α : Type} (result : α) : (pure result : Run α).log = [] := rfl

/-- A run that goes on gives a result if both parts do. -/
theorem outcome_bind
    {α β : Type}
    (first : Run α)
    (next : α → Run β) :
    (first >>= next).outcome = (first.outcome.bind fun result => (next result).outcome) := by
  obtain ⟨outcome, log⟩ := first
  cases outcome <;> rfl

end Run

/-! ## Outcomes that are results -/

theorem exists_ok_of_isOk {Trouble Result : Type} :
    {outcome : Except Trouble Result} → outcome.isOk = true → ∃ result, outcome = .ok result
  | .ok result, _ => ⟨result, rfl⟩

theorem eq_ok_of_toOption {Trouble Result : Type} {result : Result} :
    {outcome : Except Trouble Result} → outcome.toOption = some result → outcome = .ok result
  | .ok _, found => congrArg Except.ok (Option.some.inj found)

end SkillNode
