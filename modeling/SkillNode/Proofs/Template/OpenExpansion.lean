import SkillNode.Proofs.Template.Expansion

/-!
# Expansion with answers for names

The expansion of a template asks for the values of names and for nothing else. Here it is given
an answer for every name, which may be a value, the word that there is none, or any fault at
all. With the answers of a scope this is the expansion in that scope.

The main statement says that only the answers for free names matter: an answer for any other
name is never asked for, not even if it is a fault.
-/

namespace SkillNode
namespace Template

/-- What evaluation is told when it asks for a name. -/
abbrev Answers := Text → Except Fault Outcome

namespace Answers

/-- The answers of a scope: what has no value is missing. -/
def ofScope (scope : Scope) : Answers := fun name =>
  .ok (.ofOption (.name name) (Value.entry? scope name))

/-- The answers where a name stands for a value. -/
def bind (answers : Answers) (target : Text) (value : Value) : Answers := fun name =>
  if name = target then .ok (.value value) else answers name

variable {first second answers : Answers} {scope : Scope} {target : Text} {value : Value}

@[simp] theorem ofScope_cons :
    ofScope ((target, value) :: scope) = (ofScope scope).bind target value := by
  funext name
  by_cases same : name = target
  · simp [ofScope, bind, Value.entry?_cons, same, Outcome.ofOption]
  · simp [ofScope, bind, Value.entry?_cons, same, Ne.symm same]

theorem bind_congr
    {name : Text}
    (agree : name ≠ target → first name = second name) :
    first.bind target value name = second.bind target value name := by
  by_cases same : name = target
  · simp [bind, same]
  · simp [bind, same, agree same]

end Answers

/-! ## Evaluation -/

/-- The outcome of an expression at work on a line, where names are answered for. -/
def Expr.evalWith (line : Nat) (answers : Answers) : Expr → Except Fault Outcome
  | .name _ found => answers found
  | .constant _ value => .ok (.value value.value)
  | .field _ base part => do
      let value ← (← base.evalWith line answers).use line
      return .ofOption (.part part) (← value.field? part)
  | .item _ base index => do
      let value ← (← base.evalWith line answers).use line
      let place ← (← index.evalWith line answers).use line
      return .ofOption (value.missingItem place) (value.item? place)
  | .filter _ base operation => do
      let outcome ← base.evalWith line answers
      match Filter.ofName? operation with
      | some known => return .value (← known.apply (← outcome.use line))
      | none => throw .unknownOperation
  | .filterWith _ base operation argument => do
      let outcome ← base.evalWith line answers
      let given ← argument.evalWith line answers
      match Filter.ofName? operation with
      | some known => return .value (← known.applyWith line outcome given)
      | none => throw .unknownOperation
  | .test _ base operation => do
      let outcome ← base.evalWith line answers
      if operation = definedTest then
        return .value (.bool outcome.isDefined)
      else
        throw .unknownOperation
  | .not _ operand => do
      let value ← (← operand.evalWith line answers).use line
      return .value (.bool (!value.truth))
  | .and _ left right => do
      let value ← (← left.evalWith line answers).use line
      if value.truth then right.evalWith line answers else return .value value
  | .or _ left right => do
      let value ← (← left.evalWith line answers).use line
      if value.truth then return .value value else right.evalWith line answers
  | .equal _ left right => do
      let leftOutcome ← left.evalWith line answers
      let rightOutcome ← right.evalWith line answers
      return .value (.bool ((← leftOutcome.use line).same (← rightOutcome.use line)))

/-- The value of an expression that is used on a line, where names are answered for. -/
def Expr.valueWith (expr : Expr) (line : Nat) (answers : Answers) : Except Fault Value := do
  (← expr.evalWith line answers).use line

/-- Whether an item passes the test of a loop, if it has one. -/
def passesWith (answers : Answers) (target : Text) (test? : Option Expr) (item : Value) :
    Except Fault Bool :=
  match test? with
  | some test => (test.valueWith test.line (answers.bind target item)).map Value.truth
  | none => .ok true

mutual

/-- The text that a node expands to, where names are answered for. -/
def Node.expandWith (escaping : Escaping) (answers : Answers) : Node → Except Fault Text
  | .text content => .ok content
  | .output expr => do (← expr.valueWith expr.line answers).print escaping
  | .branch line test body otherwise => do
      if (← test.valueWith line answers).truth then
        expandAllWith escaping answers body
      else
        expandAllWith escaping answers otherwise
  | .loop line target iterable test? body otherwise => do
      let outcome ← iterable.evalWith line answers
      let value ← outcome.use ((test?.map Expr.line).getD line)
      match value.items? with
      | none => throw .wrongKind
      | some items =>
          let (text, count) ←
            expandItems
              (fun item state =>
                expandAllWith escaping ((answers.bind loopName state).bind target item) body)
              0 (items.map fun item => (item, passesWith answers target test? item))
          if count = 0 then expandAllWith escaping answers otherwise else return text

/-- The text that nodes expand to, where names are answered for. -/
def expandAllWith (escaping : Escaping) (answers : Answers) : List Node → Except Fault Text
  | [] => .ok []
  | node :: rest => do
      let text ← node.expandWith escaping answers
      return text ++ (← expandAllWith escaping answers rest)

end

/-! ## The answers of a scope -/

section OfScope

variable (line : Nat) (scope : Scope)

theorem Expr.evalWith_ofScope (expr : Expr) :
    expr.evalWith line (.ofScope scope) = expr.eval line scope := by
  induction expr with
  | name | constant => rfl
  | field _ _ _ baseHypothesis | test _ _ _ baseHypothesis | not _ _ baseHypothesis =>
      rw [evalWith, eval, baseHypothesis]
  | filter _ _ _ baseHypothesis =>
      rw [evalWith, baseHypothesis]
      rfl
  | item _ _ _ baseHypothesis otherHypothesis | and _ _ _ baseHypothesis otherHypothesis
  | or _ _ _ baseHypothesis otherHypothesis | equal _ _ _ baseHypothesis otherHypothesis =>
      rw [evalWith, eval, baseHypothesis, otherHypothesis]
  | filterWith _ _ _ _ baseHypothesis otherHypothesis =>
      rw [evalWith, baseHypothesis, otherHypothesis]
      rfl

theorem Expr.valueWith_ofScope (expr : Expr) :
    expr.valueWith line (.ofScope scope) = expr.valueOn line scope := by
  rw [valueWith, valueOn, evalWith_ofScope]

theorem passesWith_ofScope (target : Text) (test? : Option Expr) :
    passesWith (.ofScope scope) target test? = passesTest scope target test? := by
  funext item
  cases test? with
  | none => rfl
  | some test =>
      rw [passesWith, ← Answers.ofScope_cons, Expr.valueWith_ofScope]
      rfl

end OfScope

mutual

theorem Node.expandWith_ofScope (escaping : Escaping) (scope : Scope) :
    ∀ node : Node, node.expandWith escaping (.ofScope scope) = node.expand escaping scope
  | .text _ => by rw [Node.expandWith, Node.expand]
  | .output expr => by rw [Node.expandWith, Node.expand, Expr.valueWith_ofScope]
  | .branch line test body otherwise => by
      rw [Node.expandWith, Node.expand, Expr.valueWith_ofScope,
        expandAllWith_ofScope escaping scope body, expandAllWith_ofScope escaping scope otherwise]
  | .loop line target iterable test? body otherwise => by
      have bodies : ∀ item state,
          expandAllWith escaping (((Answers.ofScope scope).bind loopName state).bind target item)
              body =
            expandBody escaping scope target body item state := by
        intro item state
        rw [← Answers.ofScope_cons, ← Answers.ofScope_cons]
        exact expandAllWith_ofScope escaping _ body
      rw [Node.expandWith, Expr.evalWith_ofScope, passesWith_ofScope,
        expandAllWith_ofScope escaping scope otherwise]
      simp only [bodies]
      exact expand_loop_eq.symm

/-- Answered for by a scope, nodes expand to what they expand to in the scope. -/
theorem expandAllWith_ofScope (escaping : Escaping) (scope : Scope) :
    ∀ nodes : List Node,
      expandAllWith escaping (.ofScope scope) nodes = expandAll escaping scope nodes
  | [] => by rw [expandAllWith, expandAll]
  | node :: rest => by
      rw [expandAllWith, expandAll, Node.expandWith_ofScope escaping scope node,
        expandAllWith_ofScope escaping scope rest]

end

/-! ## Answers that matter -/

variable {first second : Answers}

theorem Expr.evalWith_congr
    (line : Nat)
    {expr : Expr}
    (agree : ∀ name ∈ expr.names, first name = second name) :
    expr.evalWith line first = expr.evalWith line second := by
  induction expr with
  | name _ found => exact agree found (List.mem_singleton_self found)
  | constant => rfl
  | field _ _ _ baseHypothesis | filter _ _ _ baseHypothesis | test _ _ _ baseHypothesis
  | not _ _ baseHypothesis =>
      rw [evalWith, evalWith, baseHypothesis agree]
  | item _ _ _ baseHypothesis otherHypothesis | filterWith _ _ _ _ baseHypothesis otherHypothesis
  | and _ _ _ baseHypothesis otherHypothesis | or _ _ _ baseHypothesis otherHypothesis
  | equal _ _ _ baseHypothesis otherHypothesis =>
      obtain ⟨baseAgree, otherAgree⟩ := List.forall_mem_append.mp agree
      rw [evalWith, evalWith, baseHypothesis baseAgree, otherHypothesis otherAgree]

theorem Expr.valueWith_congr
    (line : Nat)
    {expr : Expr}
    (agree : ∀ name ∈ expr.names, first name = second name) :
    expr.valueWith line first = expr.valueWith line second := by
  rw [valueWith, valueWith, evalWith_congr line agree]

/-- The test of a loop asks for its names but the target. -/
theorem passesWith_congr
    {target : Text}
    {test? : Option Expr}
    (agree : ∀ name ∈ (test?.map Expr.names).getD [], name ≠ target →
      first name = second name) :
    passesWith first target test? = passesWith second target test? := by
  funext item
  cases test? with
  | none => rfl
  | some test =>
      have boundAgree : ∀ name ∈ test.names,
          first.bind target item name = second.bind target item name := fun name member =>
        Answers.bind_congr (agree name member)
      simp only [passesWith, Expr.valueWith_congr test.line boundAgree]

mutual

theorem Node.expandWith_congr (escaping : Escaping) {first second : Answers} :
    ∀ node : Node, (∀ name ∈ node.freeNames, first name = second name) →
      node.expandWith escaping first = node.expandWith escaping second
  | .text _, _ => by rw [Node.expandWith, Node.expandWith]
  | .output expr, agree => by
      rw [Node.expandWith, Node.expandWith,
        Expr.valueWith_congr expr.line (by simpa [Node.freeNames] using agree)]
  | .branch line test body otherwise, agree => by
      simp only [Node.freeNames, List.forall_mem_append] at agree
      obtain ⟨⟨testAgree, bodyAgree⟩, otherwiseAgree⟩ := agree
      rw [Node.expandWith, Node.expandWith, Expr.valueWith_congr line testAgree,
        expandAllWith_congr escaping body bodyAgree,
        expandAllWith_congr escaping otherwise otherwiseAgree]
  | .loop line target iterable test? body otherwise, agree => by
      simp only [Node.freeNames, List.forall_mem_append, List.mem_filter, and_imp,
        Bool.and_eq_true, decide_eq_true_eq] at agree
      obtain ⟨⟨⟨iterableAgree, testAgree⟩, bodyAgree⟩, otherwiseAgree⟩ := agree
      have bodies : ∀ item state,
          expandAllWith escaping ((first.bind loopName state).bind target item) body =
            expandAllWith escaping ((second.bind loopName state).bind target item) body := by
        intro item state
        apply expandAllWith_congr escaping body
        intro name member
        -- The target and the loop are answered for alike; any other name is free in the loop.
        apply Answers.bind_congr
        intro notTarget
        apply Answers.bind_congr
        exact bodyAgree name member notTarget
      rw [Node.expandWith, Node.expandWith, Expr.evalWith_congr line iterableAgree,
        passesWith_congr testAgree, expandAllWith_congr escaping otherwise otherwiseAgree]
      simp only [bodies]

/-- Answers that agree on the free names of nodes expand the nodes to the same text. -/
theorem expandAllWith_congr (escaping : Escaping) {first second : Answers} :
    ∀ nodes : List Node, (∀ name ∈ freeNamesOf nodes, first name = second name) →
      expandAllWith escaping first nodes = expandAllWith escaping second nodes
  | [], _ => by rw [expandAllWith, expandAllWith]
  | node :: rest, agree => by
      obtain ⟨nodeAgree, restAgree⟩ := List.forall_mem_append.mp agree
      rw [expandAllWith, expandAllWith, Node.expandWith_congr escaping node nodeAgree,
        expandAllWith_congr escaping rest restAgree]

end

end Template
end SkillNode
