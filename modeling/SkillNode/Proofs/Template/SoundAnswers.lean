import SkillNode.Proofs.Template.DataValues

/-!
# Sound answers

Answers are sound if none of them says that a name is missing. With sound answers, expressions
have sound outcomes, and the states of loops hold back no fault that blames a name.

The main statement says that no fault of an expansion blames a name then.
-/

namespace SkillNode
namespace Template

/-! ## Sound answers -/

/-- Every answer is a sound value, or a fault that blames no name. -/
def Answers.AreSound (answers : Answers) : Prop := ∀ name, Spares Outcome.IsSound (answers name)

section Sound

variable {answers : Answers} (areSound : answers.AreSound)

include areSound

theorem Answers.AreSound.bind
    {value : Value}
    (isSound : value.IsSound)
    (target : Text) :
    (answers.bind target value).AreSound := by
  intro name
  unfold Answers.bind
  split
  · exact isSound
  · exact areSound name

/-- With sound answers every expression has a sound outcome, if any. -/
theorem Expr.evalWith_spares (line : Nat) (expr : Expr) :
    Spares Outcome.IsSound (expr.evalWith line answers) := by
  have truthIsSound : ∀ truth : Bool, Outcome.IsSound (.value (.bool truth)) := fun _ => .data rfl
  induction expr with
  | name _ found => exact areSound found
  | constant _ value => cases value <;> exact Value.IsSound.data rfl
  | field _ base part baseHypothesis =>
      rw [evalWith]
      refine baseHypothesis.bind fun outcome isSound => ?_
      refine (isSound.use line).bind fun value valueIsSound => ?_
      refine (valueIsSound.field? part).bind fun found? foundAreSound => ?_
      exact Outcome.isSound_ofOption (by simp) foundAreSound
  | item _ base index baseHypothesis indexHypothesis =>
      rw [evalWith]
      refine baseHypothesis.bind fun outcome isSound => ?_
      refine (isSound.use line).bind fun value valueIsSound => ?_
      refine indexHypothesis.bind fun indexOutcome indexIsSound => ?_
      refine (indexIsSound.use line).bind fun place _ => ?_
      exact Outcome.isSound_ofOption (value.missingItem_ne_name place)
        fun found isFound => valueIsSound.item? isFound
  | filter _ base operation baseHypothesis =>
      rw [evalWith]
      refine baseHypothesis.bind fun outcome isSound => ?_
      split
      · next known _ =>
          refine (isSound.use line).bind fun value valueIsSound => ?_
          exact (valueIsSound.apply known).bind fun result resultIsSound => resultIsSound
      · exact Eq.refl false
  | filterWith _ base operation argument baseHypothesis argumentHypothesis =>
      rw [evalWith]
      refine baseHypothesis.bind fun outcome isSound => ?_
      refine argumentHypothesis.bind fun given givenIsSound => ?_
      split
      · next known _ =>
          exact (known.applyWith_spares line isSound givenIsSound).bind fun result resultIsSound =>
            resultIsSound
      · exact Eq.refl false
  | test _ base operation baseHypothesis =>
      rw [evalWith]
      refine baseHypothesis.bind fun outcome _ => ?_
      split
      · exact truthIsSound _
      · exact Eq.refl false
  | not _ operand operandHypothesis =>
      rw [evalWith]
      refine operandHypothesis.bind fun outcome isSound => ?_
      exact (isSound.use line).bind fun value _ => truthIsSound _
  | and _ left right leftHypothesis rightHypothesis =>
      rw [evalWith]
      refine leftHypothesis.bind fun outcome isSound => ?_
      refine (isSound.use line).bind fun value valueIsSound => ?_
      split
      · exact rightHypothesis
      · exact valueIsSound
  | or _ left right leftHypothesis rightHypothesis =>
      rw [evalWith]
      refine leftHypothesis.bind fun outcome isSound => ?_
      refine (isSound.use line).bind fun value valueIsSound => ?_
      split
      · exact valueIsSound
      · exact rightHypothesis
  | equal _ left right leftHypothesis rightHypothesis =>
      rw [evalWith]
      refine leftHypothesis.bind fun leftOutcome leftIsSound => ?_
      refine rightHypothesis.bind fun rightOutcome rightIsSound => ?_
      refine (leftIsSound.use line).bind fun leftValue _ => ?_
      exact (rightIsSound.use line).bind fun rightValue _ => truthIsSound _

theorem Expr.valueWith_spares (expr : Expr) (line : Nat) :
    Spares Value.IsSound (expr.valueWith line answers) :=
  (expr.evalWith_spares areSound line).bind fun _ isSound => isSound.use line

theorem passesWith_spares
    {item : Value}
    (isData : item.isData = true)
    (target : Text)
    (test? : Option Expr) :
    SparesNames (passesWith answers target test? item) := by
  cases test? with
  | none => exact True.intro
  | some test =>
      have boundAreSound := areSound.bind (.data isData) target
      exact (test.valueWith_spares boundAreSound test.line).map fun _ _ => True.intro

end Sound

/-! ## Loops -/

section Loops

variable {candidates : List Candidate}
  (testsSpare : ∀ candidate ∈ candidates, SparesNames candidate.2)

include testsSpare

theorem nonePasses_spares : SparesNames (nonePasses candidates) := by
  induction candidates with
  | nil => exact True.intro
  | cons candidate rest restHypothesis =>
      obtain ⟨first, others⟩ := List.forall_mem_cons.mp testsSpare
      obtain ⟨item, passes⟩ := candidate
      cases passes with
      | error fault => exact first
      | ok passes =>
          cases passes with
          | true => exact True.intro
          | false => exact restHypothesis others

theorem countPassing_spares : SparesNames (countPassing candidates) := by
  induction candidates with
  | nil => exact True.intro
  | cons candidate rest restHypothesis =>
      obtain ⟨first, others⟩ := List.forall_mem_cons.mp testsSpare
      obtain ⟨item, passes⟩ := candidate
      cases passes with
      | error fault => exact first
      | ok passes => exact (restHypothesis others).map fun _ _ => True.intro

/-- The state of a loop holds back what the tests of later items answer, and no more. -/
theorem loopState_isSound (index : Nat) : (loopState index candidates).IsSound :=
  .state (nonePasses_spares testsSpare)
    ((countPassing_spares testsSpare).map fun _ _ => True.intro)

/-- A loop over data blames no name if its tests and its body do not. -/
theorem expandItems_spares
    {body : Value → Value → Except Fault Text}
    (bodySpares : ∀ item state, item.isData = true → state.IsSound → SparesNames (body item state))
    (areData : ∀ candidate ∈ candidates, candidate.1.isData = true)
    (index : Nat) :
    SparesNames (expandItems body index candidates) := by
  induction candidates generalizing index with
  | nil => exact True.intro
  | cons candidate rest restHypothesis =>
      obtain ⟨first, others⟩ := List.forall_mem_cons.mp testsSpare
      obtain ⟨firstIsData, othersAreData⟩ := List.forall_mem_cons.mp areData
      obtain ⟨item, passes⟩ := candidate
      cases passes with
      | error fault => exact first
      | ok passes =>
          cases passes with
          | false => exact restHypothesis others othersAreData index
          | true =>
              have bodyFirst := bodySpares item _ firstIsData (loopState_isSound others index)
              refine bodyFirst.bind fun text _ => ?_
              refine (restHypothesis others othersAreData (index + 1)).bind fun expanded _ => ?_
              exact True.intro

end Loops

/-! ## Nodes -/

mutual

theorem Node.expandWith_spares (escaping : Escaping) {answers : Answers}
    (areSound : answers.AreSound) :
    ∀ node : Node, SparesNames (node.expandWith escaping answers)
  | .text _ => by
      rw [Node.expandWith]
      exact True.intro
  | .output expr => by
      rw [Node.expandWith]
      refine (expr.valueWith_spares areSound expr.line).bind fun value _ => ?_
      exact value.shown_spares.map fun _ _ => True.intro
  | .branch line test body otherwise => by
      rw [Node.expandWith]
      refine (test.valueWith_spares areSound line).bind fun value _ => ?_
      split
      · exact expandAllWith_spares escaping areSound body
      · exact expandAllWith_spares escaping areSound otherwise
  | .loop line target iterable test? body otherwise => by
      rw [Node.expandWith]
      refine (iterable.evalWith_spares areSound line).bind fun outcome isSound => ?_
      refine (isSound.use _).bind fun value valueIsSound => ?_
      split
      · exact Eq.refl false
      · next items areItems =>
          have itemsAreData := valueIsSound.isData_of_items? areItems
          have testsSpare : ∀ candidate ∈ items.map fun item =>
              (item, passesWith answers target test? item), SparesNames candidate.2 := by
            intro candidate member
            obtain ⟨item, isItem, rfl⟩ := List.mem_map.mp member
            exact passesWith_spares areSound (itemsAreData item isItem) target test?
          have candidatesAreData : ∀ candidate ∈ items.map fun item =>
              (item, passesWith answers target test? item), candidate.1.isData = true := by
            intro candidate member
            obtain ⟨item, isItem, rfl⟩ := List.mem_map.mp member
            exact itemsAreData item isItem
          have bodySpares : ∀ item state, item.isData = true → state.IsSound →
              SparesNames (expandAllWith escaping
                ((answers.bind loopName state).bind target item) body) := by
            intro item state isData stateIsSound
            have bodyAreSound := (areSound.bind stateIsSound loopName).bind (.data isData) target
            exact expandAllWith_spares escaping bodyAreSound body
          refine (expandItems_spares testsSpare bodySpares candidatesAreData 0).bind ?_
          rintro ⟨text, count⟩ -
          change SparesNames (if count = 0 then expandAllWith escaping answers otherwise else
            pure text)
          split
          · exact expandAllWith_spares escaping areSound otherwise
          · exact True.intro

/-- With sound answers no fault of an expansion blames a name. -/
theorem expandAllWith_spares (escaping : Escaping) {answers : Answers}
    (areSound : answers.AreSound) :
    ∀ nodes : List Node, SparesNames (expandAllWith escaping answers nodes)
  | [] => by
      rw [expandAllWith]
      exact True.intro
  | node :: rest => by
      rw [expandAllWith]
      refine (Node.expandWith_spares escaping areSound node).bind fun text _ => ?_
      exact (expandAllWith_spares escaping areSound rest).bind fun _ _ => True.intro

end

end Template
end SkillNode
