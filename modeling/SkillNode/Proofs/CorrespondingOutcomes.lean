import SkillNode.Failure

/-!
# Corresponding outcomes

Two runs on the same things, which are only called differently, are compared stage by stage.
Their outcomes correspond if both are results that are alike, or both are failures for the
same reason; a failure may name the source that it was found in.
-/

namespace SkillNode

/-- An error in a behaviour description without its source. -/
def Statechart.Error.unsourced (error : Statechart.Error) : Statechart.Error :=
  { error with source := [] }

/-- An error in an interface description without its source. -/
def Interface.Error.unsourced (error : Interface.Error) : Interface.Error :=
  { error with source := [] }

/-- A failure without the source that it was found in. -/
def Failure.unsourced : Failure → Failure
  | .statechart error => .statechart error.unsourced
  | .interface error => .interface error.unsourced
  | failure => failure

/-- Both outcomes are results that are alike, or both are failures that differ in nothing but
their sources. -/
inductive Corresponding {First Second : Type} (Alike : First → Second → Prop) :
    Except Failure First → Except Failure Second → Prop
  | result {first : First} {second : Second} :
      Alike first second → Corresponding Alike (.ok first) (.ok second)
  | failure {first second : Failure} :
      first.unsourced = second.unsourced → Corresponding Alike (.error first) (.error second)

namespace Corresponding

/-- Stages that correspond can be put one after the other. -/
theorem bind
    {First Second First' Second' : Type}
    {Alike : First → Second → Prop}
    {AlikeAfter : First' → Second' → Prop}
    {first : Except Failure First}
    {second : Except Failure Second}
    {nextFirst : First → Except Failure First'}
    {nextSecond : Second → Except Failure Second'}
    (corresponding : Corresponding Alike first second)
    (next : ∀ firstResult secondResult, Alike firstResult secondResult →
      Corresponding AlikeAfter (nextFirst firstResult) (nextSecond secondResult)) :
    Corresponding AlikeAfter (first.bind nextFirst) (second.bind nextSecond) := by
  cases corresponding with
  | result alike => exact next _ _ alike
  | failure sameReason => exact .failure sameReason

/-- Outcomes with equal results correspond if both are the same result, or both fail. -/
theorem eq_or_fail
    {Result : Type}
    {first second : Except Failure Result}
    (corresponding : Corresponding (· = ·) first second) :
    (∃ result, first = .ok result ∧ second = .ok result) ∨
      ∃ firstFailure secondFailure, first = .error firstFailure ∧
        second = .error secondFailure ∧ firstFailure.unsourced = secondFailure.unsourced := by
  cases corresponding with
  | result same => exact .inl ⟨_, rfl, by rw [same]⟩
  | failure sameReason => exact .inr ⟨_, _, rfl, rfl, sameReason⟩

end Corresponding
end SkillNode
