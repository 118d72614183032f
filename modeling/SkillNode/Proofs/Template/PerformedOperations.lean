import SkillNode.Proofs.Template.Expansion
import SkillNode.Proofs.Template.Operations

/-!
# Operations that an expansion performs

Which operations the evaluation of an expression and the expansion of nodes perform, and on what.
The right side of `and` and `or` is evaluated only if the left one does not settle the matter; a
conditional part is expanded only if its test chooses it; a loop comes to an item only if it got
through the items before; and nothing is done after a fault.

The main statement says that an expansion ends in a misuse exactly if it performs an operation
that does not fit.
-/

namespace SkillNode
namespace Template

/-! ## Operations that do not fit among others -/

/-- One of some operations does not fit. -/
def SomeMisfit (performs : Operation → Prop) : Prop :=
  ∃ operation, performs operation ∧ operation.fits = false

section SomeMisfit

variable {first second : Operation → Prop}

@[simp] theorem not_someMisfit_false : ¬ SomeMisfit fun _ => False := by
  simp [SomeMisfit]

@[simp] theorem someMisfit_or_iff :
    SomeMisfit (fun operation => first operation ∨ second operation) ↔
      SomeMisfit first ∨ SomeMisfit second := by
  simp only [SomeMisfit, or_and_right, exists_or]

@[simp] theorem someMisfit_and_iff {condition : Prop} :
    SomeMisfit (fun operation => condition ∧ first operation) ↔
      condition ∧ SomeMisfit first := by
  simp only [SomeMisfit, and_assoc, exists_and_left]

@[simp] theorem someMisfit_exists_iff {Index : Type} {performs : Index → Operation → Prop} :
    SomeMisfit (fun operation => ∃ index, performs index operation) ↔
      ∃ index, SomeMisfit (performs index) := by
  simp only [SomeMisfit, exists_and_right.symm]
  exact exists_comm

@[simp] theorem someMisfit_eq_iff {performed : Operation} :
    SomeMisfit (fun operation => operation = performed) ↔ performed.fits = false := by
  simp [SomeMisfit]

/-- Whether an operation is performed where the outcome of an evaluation is used: before, or by
the use. -/
def UsePerforms (before : Prop) (evaluated : Except Fault Outcome) (operation : Operation) : Prop :=
  before ∨ ∃ outcome, evaluated = .ok outcome ∧ operation = .use outcome

@[simp] theorem someMisfit_use_iff {evaluated : Except Fault Outcome} :
    SomeMisfit (fun operation => UsePerforms (first operation) evaluated operation) ↔
      SomeMisfit first ∨ ∃ outcome, evaluated = .ok outcome ∧ outcome.canBeUsed = false := by
  simp [UsePerforms, Operation.fits]

end SomeMisfit

/-! ## Expressions -/

/-- Whether the evaluation of an expression at work on a line performs an operation. -/
def Expr.Performs (line : Nat) (scope : Scope) (operation : Operation) : Expr → Prop
  | .name _ _ | .constant _ _ => False
  | .field _ base part =>
      UsePerforms (base.Performs line scope operation) (base.eval line scope) operation ∨
        ∃ value, base.valueOn line scope = .ok value ∧ operation = .part value part
  | .item _ base index =>
      UsePerforms (base.Performs line scope operation) (base.eval line scope) operation ∨
        ∃ value, base.valueOn line scope = .ok value ∧
          (UsePerforms (index.Performs line scope operation) (index.eval line scope) operation ∨
            ∃ place, index.valueOn line scope = .ok place ∧ operation = .item value place)
  | .filter _ base called =>
      base.Performs line scope operation ∨
        ∃ outcome, base.eval line scope = .ok outcome ∧ operation = .filter called outcome
  | .filterWith _ base called argument =>
      base.Performs line scope operation ∨
        ∃ outcome, base.eval line scope = .ok outcome ∧
          (argument.Performs line scope operation ∨
            ∃ given, argument.eval line scope = .ok given ∧
              operation = .filterWith called outcome given)
  | .test _ base called =>
      base.Performs line scope operation ∨
        ∃ outcome, base.eval line scope = .ok outcome ∧ operation = .test called outcome
  | .not _ operand =>
      UsePerforms (operand.Performs line scope operation) (operand.eval line scope) operation
  | .and _ left right =>
      UsePerforms (left.Performs line scope operation) (left.eval line scope) operation ∨
        ∃ value, left.valueOn line scope = .ok value ∧
          value.truth = true ∧ right.Performs line scope operation
  | .or _ left right =>
      UsePerforms (left.Performs line scope operation) (left.eval line scope) operation ∨
        ∃ value, left.valueOn line scope = .ok value ∧
          value.truth = false ∧ right.Performs line scope operation
  | .equal _ left right =>
      left.Performs line scope operation ∨
        ∃ leftOutcome, left.eval line scope = .ok leftOutcome ∧
          (right.Performs line scope operation ∨
            ∃ rightOutcome, right.eval line scope = .ok rightOutcome ∧
              operation = .equal leftOutcome rightOutcome)

/-- Whether an operation is performed where the value of an expression is used. -/
def Expr.PerformsUsed (line : Nat) (scope : Scope) (operation : Operation) (expr : Expr) : Prop :=
  UsePerforms (expr.Performs line scope operation) (expr.eval line scope) operation

section Steps

variable {line : Nat} {outcome given left right : Outcome} {called : Text}

theorem isMisused_filter_iff :
    IsMisused (match Filter.ofName? called with
      | some known => do return Outcome.value (← known.apply (← outcome.use line))
      | none => throw .unknownOperation) ↔
      Operation.fits (.filter called outcome) = false := by
  cases isKnown : Filter.ofName? called with
  | none => simp [Operation.fits, isKnown, Fault.isMisuse]
  | some known =>
      cases outcome with
      | missing lacking =>
          have fits : Operation.fits (.filter called (.missing lacking)) =
              Outcome.canBeUsed (.missing lacking) := by
            simp only [Operation.fits, isKnown]
          rw [fits, ← isMisused_use_iff line]
          simp [isMisused_bind_iff, Outcome.use]
      | value value =>
          simp [Operation.fits, isKnown, isMisused_bind_iff, Outcome.use,
            Filter.isMisused_apply_iff]

theorem isMisused_filterWith_iff :
    IsMisused (match Filter.ofName? called with
      | some known => do return Outcome.value (← known.applyWith line outcome given)
      | none => throw .unknownOperation) ↔
      Operation.fits (.filterWith called outcome given) = false := by
  cases isKnown : Filter.ofName? called with
  | none => simp [Operation.fits, isKnown, Fault.isMisuse]
  | some known =>
      simp [Operation.fits, isKnown, Filter.isMisused_applyWith_iff]

theorem isMisused_test_iff :
    IsMisused (if called = definedTest then return Outcome.value (.bool outcome.isDefined) else
        throw .unknownOperation) ↔
      Operation.fits (.test called outcome) = false := by
  by_cases isKnown : called = definedTest <;> simp [Operation.fits, isKnown, Fault.isMisuse]

theorem isMisused_equal_iff :
    IsMisused (do
        return Outcome.value (.bool ((← left.use line).same (← right.use line)))) ↔
      Operation.fits (.equal left right) = false := by
  cases left with
  | missing lacking =>
      rw [Operation.fits, Bool.and_eq_false_iff, ← isMisused_use_iff line]
      simp [isMisused_bind_iff, Outcome.use, Outcome.isDefined]
  | value value =>
      have fits : Operation.fits (.equal (.value value) right) = right.canBeUsed := rfl
      rw [fits, ← isMisused_use_iff line]
      simp [isMisused_bind_iff, Outcome.use]

end Steps

namespace Expr

variable {line other : Nat} {scope : Scope} {expr : Expr}

theorem valueOn_eq_ok_iff {value : Value} :
    expr.valueOn line scope = .ok value ↔ expr.eval line scope = .ok (.value value) := by
  rw [valueOn]
  cases expr.eval line scope with
  | error fault => simp [bind, Except.bind]
  | ok outcome => cases outcome <;> simp [bind, Except.bind, Outcome.use]

/-- The value of an expression is used and gone on with. -/
theorem isMisused_use_bind_iff
    {Result : Type}
    {next : Value → Except Fault Result} :
    IsMisused (do next (← (← expr.eval line scope).use other)) ↔
      (IsMisused (expr.eval line scope) ∨
          ∃ outcome, expr.eval line scope = .ok outcome ∧ outcome.canBeUsed = false) ∨
        ∃ value, expr.valueOn line scope = .ok value ∧ IsMisused (next value) := by
  rw [isMisused_bind_iff, or_assoc]
  simp only [isMisused_bind_iff, isMisused_use_iff, and_or_left, exists_or, valueOn_eq_ok_iff]
  refine or_congr_right (or_congr_right ⟨?_, ?_⟩)
  · rintro ⟨outcome, isOutcome, value, isUsed, misused⟩
    cases outcome with
    | value found =>
        obtain rfl := Except.ok.inj isUsed
        exact ⟨found, isOutcome, misused⟩
    | missing lacking => cases isUsed
  · rintro ⟨value, isValue, misused⟩
    exact ⟨.value value, isValue, value, rfl, misused⟩

theorem isMisused_valueOn_iff :
    IsMisused (expr.valueOn line scope) ↔
      IsMisused (expr.eval line scope) ∨
        ∃ outcome, expr.eval line scope = .ok outcome ∧ outcome.canBeUsed = false := by
  rw [valueOn, isMisused_bind_iff]
  simp only [isMisused_use_iff]

/-- The evaluation of an expression ends in a misuse exactly if it performs an operation that
does not fit. -/
theorem isMisused_eval_iff :
    IsMisused (expr.eval line scope) ↔
      SomeMisfit fun operation => expr.Performs line scope operation := by
  induction expr with
  | name | constant => simp [eval, Performs]
  | field _ base part baseHypothesis =>
      rw [eval, isMisused_use_bind_iff, baseHypothesis]
      simp [Performs, Value.isMisused_field?_iff, Operation.fits]
  | item _ base index baseHypothesis indexHypothesis =>
      rw [eval, isMisused_use_bind_iff, baseHypothesis]
      simp only [isMisused_use_bind_iff, indexHypothesis]
      simp [Performs, Operation.fits]
  | filter _ base called baseHypothesis =>
      rw [eval, isMisused_bind_iff, baseHypothesis]
      simp only [Performs, someMisfit_or_iff, someMisfit_exists_iff, someMisfit_and_iff,
        someMisfit_eq_iff]
      refine or_congr_right (exists_congr fun outcome => and_congr_right fun _ => ?_)
      exact isMisused_filter_iff
  | filterWith _ base called argument baseHypothesis argumentHypothesis =>
      rw [eval, isMisused_bind_iff, baseHypothesis]
      simp only [Performs, someMisfit_or_iff, someMisfit_exists_iff, someMisfit_and_iff,
        someMisfit_eq_iff]
      refine or_congr_right (exists_congr fun outcome => and_congr_right fun _ => ?_)
      rw [isMisused_bind_iff, argumentHypothesis]
      refine or_congr_right (exists_congr fun given => and_congr_right fun _ => ?_)
      exact isMisused_filterWith_iff
  | test _ base called baseHypothesis =>
      rw [eval, isMisused_bind_iff, baseHypothesis]
      simp only [isMisused_test_iff]
      simp [Performs]
  | not _ operand operandHypothesis =>
      rw [eval, isMisused_use_bind_iff, operandHypothesis]
      simp [Performs]
  | and _ left right leftHypothesis rightHypothesis =>
      rw [eval, isMisused_use_bind_iff, leftHypothesis]
      simp only [isMisused_ite_iff, rightHypothesis]
      simp [Performs]
  | or _ left right leftHypothesis rightHypothesis =>
      rw [eval, isMisused_use_bind_iff, leftHypothesis]
      simp only [isMisused_ite_iff, rightHypothesis]
      simp [Performs]
  | equal _ left right leftHypothesis rightHypothesis =>
      rw [eval, isMisused_bind_iff, leftHypothesis]
      simp only [Performs, someMisfit_or_iff, someMisfit_exists_iff, someMisfit_and_iff,
        someMisfit_eq_iff]
      refine or_congr_right (exists_congr fun leftOutcome => and_congr_right fun _ => ?_)
      rw [isMisused_bind_iff, rightHypothesis]
      refine or_congr_right (exists_congr fun rightOutcome => and_congr_right fun _ => ?_)
      exact isMisused_equal_iff

/-- So does the use of its value. -/
theorem isMisused_valueOn_iff_someMisfit :
    IsMisused (expr.valueOn line scope) ↔
      SomeMisfit fun operation => expr.PerformsUsed line scope operation := by
  rw [isMisused_valueOn_iff, isMisused_eval_iff]
  simp [PerformsUsed]

end Expr

/-! ## Loops -/

/-- A loop that starts with an index and some candidates comes to one of them: every candidate
before it did not pass, or its body was expanded. The index and the later candidates there are
given beside it. -/
inductive ComesTo (body : Value → Value → Except Fault Text) :
    Nat → List Candidate → Nat → Candidate → List Candidate → Prop
  | here {index : Nat} {candidate : Candidate} {later : List Candidate} :
      ComesTo body index (candidate :: later) index candidate later
  | expanded {index place : Nat} {item : Value} {text : Text} {candidate : Candidate}
      {rest later : List Candidate} :
      body item (loopState index rest) = .ok text →
        ComesTo body (index + 1) rest place candidate later →
          ComesTo body index ((item, .ok true) :: rest) place candidate later
  | passedOver {index place : Nat} {item : Value} {candidate : Candidate}
      {rest later : List Candidate} :
      ComesTo body index rest place candidate later →
        ComesTo body index ((item, .ok false) :: rest) place candidate later

section Loops

variable {body : Value → Value → Except Fault Text} {index : Nat} {candidates : List Candidate}

/-- A loop comes to its first candidate, and to those that it comes to after it. -/
theorem comesTo_cons_iff
    {first candidate : Candidate}
    {rest later : List Candidate}
    {place : Nat} :
    ComesTo body index (first :: rest) place candidate later ↔
      (place = index ∧ candidate = first ∧ later = rest) ∨
        (first.2 = .ok true ∧ (∃ text, body first.1 (loopState index rest) = .ok text) ∧
          ComesTo body (index + 1) rest place candidate later) ∨
        first.2 = .ok false ∧ ComesTo body index rest place candidate later := by
  constructor
  · intro comes
    cases comes with
    | here => exact .inl ⟨rfl, rfl, rfl⟩
    | expanded expands comes => exact .inr (.inl ⟨rfl, ⟨_, expands⟩, comes⟩)
    | passedOver comes => exact .inr (.inr ⟨rfl, comes⟩)
  · obtain ⟨item, passes⟩ := first
    rintro (⟨rfl, rfl, rfl⟩ | ⟨rfl, ⟨text, expands⟩, comes⟩ | ⟨rfl, comes⟩)
    · exact .here
    · exact .expanded expands comes
    · exact .passedOver comes

/-- A loop ends in a misuse at its first candidate or after it. -/
theorem isMisused_expandItems_cons_iff {first : Candidate} {rest : List Candidate} :
    IsMisused (expandItems body index (first :: rest)) ↔
      (IsMisused first.2 ∨
          first.2 = .ok true ∧ IsMisused (body first.1 (loopState index rest))) ∨
        (first.2 = .ok true ∧ (∃ text, body first.1 (loopState index rest) = .ok text) ∧
          IsMisused (expandItems body (index + 1) rest)) ∨
        first.2 = .ok false ∧ IsMisused (expandItems body index rest) := by
  obtain ⟨item, passes⟩ := first
  rcases passes with fault | _ | _
  · simp [expandItems]
  · simp [expandItems]
  · simp [expandItems, isMisused_bind_iff, loopState]

/-- A loop ends in a misuse exactly if it comes to an item whose test or body does. -/
theorem isMisused_expandItems_iff :
    IsMisused (expandItems body index candidates) ↔
      ∃ place candidate later, ComesTo body index candidates place candidate later ∧
        (IsMisused candidate.2 ∨
          candidate.2 = .ok true ∧ IsMisused (body candidate.1 (loopState place later))) := by
  -- On the candidates: what the loop comes to after one depends on that one alone.
  induction candidates generalizing index with
  | nil =>
      constructor
      · simp [expandItems]
      · rintro ⟨_, _, _, comes, _⟩
        cases comes
  | cons first rest restHypothesis =>
      rw [isMisused_expandItems_cons_iff, restHypothesis, restHypothesis]
      simp only [comesTo_cons_iff, or_and_right, exists_or, and_assoc, exists_and_left,
        exists_eq_left]

end Loops

/-! ## Nodes -/

/-- Whether the test of a loop performs an operation at an item. -/
def testPerforms (scope : Scope) (target : Text) (operation : Operation) (test? : Option Expr)
    (item : Value) : Prop :=
  ∃ test, test? = some test ∧ test.PerformsUsed test.line ((target, item) :: scope) operation

mutual

/-- Whether the expansion of a node performs an operation. -/
def Node.Performs (escaping : Escaping) (scope : Scope) (operation : Operation) : Node → Prop
  | .text _ => False
  | .output expr =>
      expr.PerformsUsed expr.line scope operation ∨
        ∃ value, expr.valueOn expr.line scope = .ok value ∧ operation = .print value
  | .branch line test body otherwise =>
      test.PerformsUsed line scope operation ∨
        ∃ value, test.valueOn line scope = .ok value ∧
          (value.truth = true ∧ NodesPerform escaping scope operation body ∨
            value.truth = false ∧ NodesPerform escaping scope operation otherwise)
  | .loop line target iterable test? body otherwise =>
      iterable.PerformsUsed line scope operation ∨
        ∃ value, iterable.valueOn line scope = .ok value ∧
          (operation = .loop value ∨
            ∃ items, value.items? = some items ∧
              ((∃ place candidate later,
                  ComesTo (expandBody escaping scope target body) 0
                    (candidatesOf scope target test? items) place candidate later ∧
                  (testPerforms scope target operation test? candidate.1 ∨
                    candidate.2 = .ok true ∧
                      NodesPerform escaping
                        ((target, candidate.1) :: (loopName, loopState place later) :: scope)
                        operation body)) ∨
                ∃ text,
                  expandItems (expandBody escaping scope target body) 0
                      (candidatesOf scope target test? items) = .ok (text, 0) ∧
                    NodesPerform escaping scope operation otherwise))

/-- Whether the expansion of nodes performs an operation. -/
def NodesPerform (escaping : Escaping) (scope : Scope) (operation : Operation) : List Node → Prop
  | [] => False
  | node :: rest =>
      node.Performs escaping scope operation ∨
        ∃ text, node.expand escaping scope = .ok text ∧
          NodesPerform escaping scope operation rest

end

theorem isMisused_passesTest_iff
    {scope : Scope}
    {target : Text}
    {test? : Option Expr}
    {item : Value} :
    IsMisused (passesTest scope target test? item) ↔
      SomeMisfit fun operation => testPerforms scope target operation test? item := by
  cases test? with
  | none => simp [passesTest, testPerforms]
  | some test =>
      rw [passesTest, isMisused_map_iff, Expr.isMisused_valueOn_iff_someMisfit]
      simp [testPerforms]

theorem ComesTo.mem
    {body : Value → Value → Except Fault Text}
    {index place : Nat}
    {candidates later : List Candidate}
    {candidate : Candidate}
    (comes : ComesTo body index candidates place candidate later) :
    candidate ∈ candidates := by
  induction comes with
  | here => exact List.mem_cons_self ..
  | expanded _ _ inRest | passedOver _ inRest => exact List.mem_cons_of_mem _ inRest

/-- A candidate that a loop comes to passes as its test says. -/
theorem ComesTo.passes_eq
    {body : Value → Value → Except Fault Text}
    {scope : Scope}
    {target : Text}
    {test? : Option Expr}
    {index place : Nat}
    {items : List Value}
    {later : List Candidate}
    {candidate : Candidate}
    (comes : ComesTo body index (candidatesOf scope target test? items) place candidate later) :
    candidate.2 = passesTest scope target test? candidate.1 := by
  obtain ⟨item, _, rfl⟩ := List.mem_map.mp comes.mem
  rfl

mutual

theorem Node.isMisused_expand_iff (escaping : Escaping) (scope : Scope) :
    ∀ node : Node, IsMisused (node.expand escaping scope) ↔
      SomeMisfit fun operation => node.Performs escaping scope operation
  | .text _ => by simp [Node.expand, Node.Performs]
  | .output expr => by
      rw [Node.expand, isMisused_bind_iff, Expr.isMisused_valueOn_iff_someMisfit]
      simp [Node.Performs, Value.isMisused_print_iff, Operation.fits]
  | .branch line test body otherwise => by
      rw [Node.expand, isMisused_bind_iff, Expr.isMisused_valueOn_iff_someMisfit]
      simp only [isMisused_ite_iff, isMisused_expandAll_iff escaping scope body,
        isMisused_expandAll_iff escaping scope otherwise]
      simp [Node.Performs]
  | .loop line target iterable test? body otherwise => by
      rw [expand_loop_eq, Expr.isMisused_use_bind_iff, ← Expr.isMisused_valueOn_iff,
        Expr.isMisused_valueOn_iff_someMisfit]
      simp only [Node.Performs, someMisfit_or_iff, someMisfit_exists_iff, someMisfit_and_iff,
        someMisfit_eq_iff]
      refine or_congr_right (exists_congr fun value => and_congr_right fun _ => ?_)
      cases areItems : value.items? with
      | none =>
          have noCollection := Value.items?_eq_none_iff.mp areItems
          simp [Operation.fits, noCollection, Fault.isMisuse]
      | some items =>
          have isCollection : value.isCollection = true := by
            cases isCollection : value.isCollection with
            | true => rfl
            | false =>
                rw [Value.items?_eq_none_iff.mpr isCollection] at areItems
                cases areItems
          have fits : Operation.fits (.loop value) = true := isCollection
          simp only [fits, Bool.true_eq_false, false_or, Option.some.injEq, exists_eq_left']
          rw [isMisused_bind_iff, isMisused_expandItems_iff]
          refine or_congr ?_ ?_
          · refine exists₃_congr fun place candidate later => and_congr_right fun comes => ?_
            rw [comes.passes_eq, isMisused_passesTest_iff, expandBody,
              isMisused_expandAll_iff escaping _ body]
          · constructor
            · rintro ⟨⟨text, count⟩, expands, misused⟩
              obtain ⟨rfl, misused⟩ :
                  count = 0 ∧ IsMisused (expandAll escaping scope otherwise) := by
                simpa [isMisused_ite_iff] using misused
              exact ⟨text, expands, (isMisused_expandAll_iff escaping scope otherwise).mp misused⟩
            · rintro ⟨text, expands, misfit⟩
              refine ⟨(text, 0), expands, ?_⟩
              simpa using (isMisused_expandAll_iff escaping scope otherwise).mpr misfit

/-- An expansion ends in a misuse exactly if it performs an operation that does not fit. -/
theorem isMisused_expandAll_iff (escaping : Escaping) (scope : Scope) :
    ∀ nodes : List Node, IsMisused (expandAll escaping scope nodes) ↔
      SomeMisfit fun operation => NodesPerform escaping scope operation nodes
  | [] => by simp [expandAll, NodesPerform]
  | node :: rest => by
      rw [expandAll, isMisused_bind_iff, Node.isMisused_expand_iff escaping scope node]
      simp only [isMisused_bind_iff, isMisused_expandAll_iff escaping scope rest]
      simp [NodesPerform]

end

end Template
end SkillNode
