import SkillNode.Template.Syntax
import SkillNode.Cpp.Literal

/-!
# Evaluation of templates

A template is expanded in a scope that gives values to names. A part that is
missing has no value; it may be tested for, but whoever uses it gets a fault on
the line of the expression at work.

Loops with a test look at their items one by one, so that the tests of later
items matter only if the loop comes to them or its state is asked about them.
-/

namespace SkillNode
namespace Template

/-- The values of names, the innermost first. -/
abbrev Scope := List (Text × Value)

/-- The outcome of an expression: a value, or something that is missing. -/
inductive Outcome
  | value (value : Value)
  | missing (lacking : Missing)

namespace Outcome

/-- The outcome of looking for a part. -/
def ofOption (lacking : Missing) : Option Value → Outcome
  | some found => .value found
  | none => .missing lacking

/-- The value of an outcome that is used on a line. -/
def use (line : Nat) : Outcome → Except Fault Value
  | .value found => .ok found
  | .missing lacking => .error (lacking.fault line)

/-- Whether there is a value. -/
def isDefined : Outcome → Bool
  | .value _ => true
  | .missing _ => false

end Outcome

/-! ## Named parts -/

/-- A part of the state of a loop. -/
def loopField? (index : Nat) (isLast : Except Fault Bool) (length : Except Fault Nat)
    (name : Text) : Except Fault (Option Value) :=
  if name = "index" then .ok (some (.int (index + 1)))
  else if name = "index0" then .ok (some (.int index))
  else if name = "first" then .ok (some (.bool (index = 0)))
  else if name = "last" then isLast.map fun value => some (.bool value)
  else if name = "length" then length.map fun value => some (.int value)
  else if name = "revindex" then length.map fun value => some (.int (value - index : Int))
  else if name = "revindex0" then length.map fun value => some (.int (value - index - 1 : Int))
  else if name = "depth" then .ok (some (.int 1))
  else if name = "depth0" then .ok (some (.int 0))
  else .ok none

/-- A named part of a value, if it has one. A member of the type of a record comes before its
entries. -/
def Value.field? (value : Value) (name : Text) : Except Fault (Option Value) :=
  match value with
  | .record entries | .view entries =>
      .ok ((value.member? name).or (Value.entry? entries name))
  | .object _ fields derived => .ok (Value.entry? (fields ++ derived) name)
  | .symbol _ member value derived =>
      .ok (Value.entry? (Value.parts member value derived) name)
  | .loop index isLast length => loopField? index isLast length name
  | value => .ok (value.member? name)

/-! ## Filters -/

/-- Number of parts of a value. -/
def Value.length (value : Value) : Except Fault Nat :=
  match value with
  | .loop _ _ length => length
  | value =>
      match value.items? with
      | some items => .ok items.length
      | none => .error .wrongKind

/-- A value as text inside a literal of C++. A value that counts as false makes an
empty text. -/
def Value.escapeCpp (value : Value) : Except Fault Text :=
  if !value.truth then
    .ok []
  else
    match value with
    | .text content => .ok (Cpp.escape content)
    | _ => .error .notText

/-- The printed items of a value with a separator between them. -/
def Value.joinWith (value : Value) (separator : Text) : Except Fault Text :=
  match value.items? with
  | some items =>
      if Value.arePrintable items then
        .ok (Text.join separator (items.map Value.display))
      else
        .error .longNumber
  | none => .error .wrongKind

/-- Apply a filter to a value. -/
def Filter.apply (filter : Filter) (value : Value) : Except Fault Value :=
  match filter with
  | .escapeCpp => value.escapeCpp.map .text
  | .upper => value.shown.map fun shown => .text (Text.upper shown)
  | .lower => value.shown.map fun shown => .text (Text.lower shown)
  | .length => value.length.map fun length => .int length
  | .join => (value.joinWith []).map .text

/-- Apply a filter with an argument to outcomes that are used on a line; only joining takes one,
and looks at its argument first. Another filter is refused whatever is given to it. -/
def Filter.applyWith (filter : Filter) (line : Nat) (outcome argument : Outcome) :
    Except Fault Value :=
  match filter with
  | .join => do
      let separator ← (← argument.use line).shown
      return .text (← (← outcome.use line).joinWith separator)
  | _ => .error .wrongKind

/-! ## Expressions -/

/-- The outcome of an expression that is at work on a line. -/
def Expr.eval (line : Nat) (scope : Scope) : Expr → Except Fault Outcome
  | .name _ found => .ok (.ofOption (.name found) (Value.entry? scope found))
  | .constant _ value => .ok (.value value.value)
  | .field _ base part => do
      let value ← (← base.eval line scope).use line
      return .ofOption (.part part) (← value.field? part)
  | .item _ base index => do
      let value ← (← base.eval line scope).use line
      let place ← (← index.eval line scope).use line
      return .ofOption (value.missingItem place) (value.item? place)
  | .filter _ base operation => do
      let outcome ← base.eval line scope
      match Filter.ofName? operation with
      | some known => return .value (← known.apply (← outcome.use line))
      | none => throw .unknownOperation
  | .filterWith _ base operation argument => do
      let outcome ← base.eval line scope
      let given ← argument.eval line scope
      match Filter.ofName? operation with
      | some known => return .value (← known.applyWith line outcome given)
      | none => throw .unknownOperation
  | .test _ base operation => do
      let outcome ← base.eval line scope
      if operation = definedTest then
        return .value (.bool outcome.isDefined)
      else
        throw .unknownOperation
  | .not _ operand => do
      let value ← (← operand.eval line scope).use line
      return .value (.bool (!value.truth))
  | .and _ left right => do
      let value ← (← left.eval line scope).use line
      if value.truth then right.eval line scope else return .value value
  | .or _ left right => do
      let value ← (← left.eval line scope).use line
      if value.truth then return .value value else right.eval line scope
  | .equal _ left right => do
      let leftOutcome ← left.eval line scope
      let rightOutcome ← right.eval line scope
      return .value (.bool ((← leftOutcome.use line).same (← rightOutcome.use line)))

/-- The value of an expression that is used on a line. -/
def Expr.valueOn (expr : Expr) (line : Nat) (scope : Scope) : Except Fault Value := do
  (← expr.eval line scope).use line

/-! ## Loops -/

/-- An item of a loop and whether it passes the test of the loop. -/
abbrev Candidate := Value × Except Fault Bool

/-- Whether no later item passes. -/
def nonePasses : List Candidate → Except Fault Bool
  | [] => .ok true
  | (_, .ok true) :: _ => .ok false
  | (_, .ok false) :: rest => nonePasses rest
  | (_, .error fault) :: _ => .error fault

/-- Number of later items that pass. -/
def countPassing : List Candidate → Except Fault Nat
  | [] => .ok 0
  | (_, .ok passes) :: rest =>
      (countPassing rest).map fun count => if passes then count + 1 else count
  | (_, .error fault) :: _ => .error fault

/-- Expand the body of a loop for every item that passes, from an index on. The
number of passing items is given beside the text. -/
def expandItems (body : Value → Value → Except Fault Text) :
    Nat → List Candidate → Except Fault (Text × Nat)
  | index, [] => .ok ([], index)
  | index, (item, .ok true) :: rest => do
      let state :=
        Value.loop index (nonePasses rest) ((countPassing rest).map (index + 1 + ·))
      let text ← body item state
      let (restText, count) ← expandItems body (index + 1) rest
      return (text ++ restText, count)
  | index, (_, .ok false) :: rest => expandItems body index rest
  | _, (_, .error fault) :: _ => .error fault

/-! ## Nodes -/

/-- Whether values are printed with the marks of markup escaped. -/
abbrev Escaping := Bool

/-- A character with the marks of markup escaped. -/
def escapeMarkupChar (c : Char) : Text :=
  if c = '&' then "&amp;"
  else if c = '<' then "&lt;"
  else if c = '>' then "&gt;"
  else if c = '\'' then "&#39;"
  else if c = '"' then "&#34;"
  else [c]

/-- The printed form of a value in the output. -/
def Value.print (escaping : Escaping) (value : Value) : Except Fault Text :=
  value.shown.map fun shown => if escaping then shown.flatMap escapeMarkupChar else shown

mutual

/-- The text that a node expands to. -/
def Node.expand (escaping : Escaping) (scope : Scope) : Node → Except Fault Text
  | .text content => .ok content
  | .output expr => do (← expr.valueOn expr.line scope).print escaping
  | .branch line test body otherwise => do
      if (← test.valueOn line scope).truth then
        expandAll escaping scope body
      else
        expandAll escaping scope otherwise
  | .loop line target iterable test? body otherwise => do
      let outcome ← iterable.eval line scope
      let value ← outcome.use ((test?.map Expr.line).getD line)
      match value.items? with
      | none => throw .wrongKind
      | some items =>
          let passes (item : Value) : Except Fault Bool :=
            match test? with
            | some test => (test.valueOn test.line ((target, item) :: scope)).map Value.truth
            | none => .ok true
          let (text, count) ←
            expandItems
              (fun item state =>
                expandAll escaping ((target, item) :: (loopName, state) :: scope) body)
              0 (items.map fun item => (item, passes item))
          if count = 0 then expandAll escaping scope otherwise else return text

/-- The text that nodes expand to. -/
def expandAll (escaping : Escaping) (scope : Scope) : List Node → Except Fault Text
  | [] => .ok []
  | node :: rest => do
      let text ← node.expand escaping scope
      return text ++ (← expandAll escaping scope rest)

end

end Template
end SkillNode
