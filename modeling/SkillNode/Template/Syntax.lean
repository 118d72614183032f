import SkillNode.Template.Value

/-!
# Templates

A template is a list of nodes: text to copy, expressions to print, conditional
parts and loops. Every expression knows the line that an error in it is reported
on when it stands alone.
-/

namespace SkillNode
namespace Template

/-- A constant of an expression. -/
inductive Constant
  | null
  | bool (value : Bool)
  | int (value : Int)
  | text (value : Text)
  deriving DecidableEq, Repr

/-- The value of a constant. -/
def Constant.value : Constant → Value
  | .null => .null
  | .bool value => .bool value
  | .int value => .int value
  | .text value => .text value

/-- An expression. -/
inductive Expr
  | name (line : Nat) (name : Text)
  | constant (line : Nat) (value : Constant)
  /-- A named part. -/
  | field (line : Nat) (base : Expr) (name : Text)
  /-- An item at an index or under a name. -/
  | item (line : Nat) (base index : Expr)
  /-- A filter. -/
  | filter (line : Nat) (base : Expr) (filter : Text)
  /-- A filter with an argument. -/
  | filterWith (line : Nat) (base : Expr) (filter : Text) (argument : Expr)
  /-- A test. -/
  | test (line : Nat) (base : Expr) (test : Text)
  | not (line : Nat) (operand : Expr)
  | and (line : Nat) (left right : Expr)
  | or (line : Nat) (left right : Expr)
  | equal (line : Nat) (left right : Expr)
  deriving DecidableEq, Repr

/-- The line of an expression. -/
def Expr.line : Expr → Nat
  | .name line _ | .constant line _ | .field line _ _ | .item line _ _ | .filter line _ _
  | .filterWith line _ _ _ | .test line _ _ | .not line _ | .and line _ _ | .or line _ _
  | .equal line _ _ => line

/-- A part of a template. -/
inductive Node
  /-- Text that is copied. -/
  | text (content : Text)
  /-- An expression whose value is printed. -/
  | output (expr : Expr)
  /-- A part that stands if a test holds, and one that stands otherwise. -/
  | branch (line : Nat) (test : Expr) (body otherwise : List Node)
  /-- A part for every item that passes a test, and one for no item. -/
  | loop (line : Nat) (target : Text) (iterable : Expr) (test? : Option Expr)
      (body otherwise : List Node)
  deriving Repr

/-- The name that stands for the state of the loop around. -/
def loopName : Text := "loop"

/-! ## Filters and tests -/

/-- The filters that exist. -/
inductive Filter
  | escapeCpp
  | upper
  | lower
  | length
  | join
  deriving DecidableEq, Repr

/-- The filter of a name. -/
def Filter.ofName? (name : Text) : Option Filter :=
  if name = "escape_cpp" then some .escapeCpp
  else if name = "upper" then some .upper
  else if name = "lower" then some .lower
  else if name = "length" then some .length
  else if name = "join" then some .join
  else none

/-- The test for a part that exists. -/
def definedTest : Text := "defined"

/-! ## Free names -/

/-- The names that an expression looks up. -/
def Expr.names : Expr → List Text
  | .name _ found => [found]
  | .constant _ _ => []
  | .field _ base _ | .filter _ base _ | .test _ base _ => base.names
  | .item _ base index => base.names ++ index.names
  | .filterWith _ base _ argument => base.names ++ argument.names
  | .not _ operand => operand.names
  | .and _ left right | .or _ left right | .equal _ left right => left.names ++ right.names

mutual

/-- The names that a node looks up and does not bind. The target of a loop is bound
in its test and body, the loop state in its body only. -/
def Node.freeNames : Node → List Text
  | .text _ => []
  | .output expr => expr.names
  | .branch _ test body otherwise => test.names ++ freeNamesOf body ++ freeNamesOf otherwise
  | .loop _ target iterable test? body otherwise =>
      iterable.names ++
        (((test?.map Expr.names).getD []).filter (· ≠ target)) ++
        ((freeNamesOf body).filter fun name => name ≠ target && name ≠ loopName) ++
        freeNamesOf otherwise

/-- The names that nodes look up and do not bind. -/
def freeNamesOf : List Node → List Text
  | [] => []
  | node :: rest => node.freeNames ++ freeNamesOf rest

end

/-- The name that stands for the template itself. -/
def selfName : Text := "self"

/-- Names that every template may use without a value from its context. -/
def builtinNames : List Text :=
  [selfName, "range", "dict", "lipsum", "cycler", "joiner", "namespace"]

/-! ## Operations that must exist -/

/-- The line of the first filter or test of an expression that does not exist. -/
def Expr.unknownOperation? : Expr → Option Nat
  | .name _ _ | .constant _ _ => none
  | .field _ base _ => base.unknownOperation?
  | .item _ base index => base.unknownOperation?.or index.unknownOperation?
  | .filter line base operation =>
      if (Filter.ofName? operation).isNone then some line else base.unknownOperation?
  | .filterWith line base operation argument =>
      if (Filter.ofName? operation).isNone then
        some line
      else
        base.unknownOperation?.or argument.unknownOperation?
  | .test line base operation =>
      if operation ≠ definedTest then some line else base.unknownOperation?
  | .not _ operand => operand.unknownOperation?
  | .and _ left right | .or _ left right | .equal _ left right =>
      left.unknownOperation?.or right.unknownOperation?

mutual

/-- The line of the first unknown operation of a node that is refused before
evaluation. One in a conditional part is met only if the part is evaluated, one
in a loop is always refused. -/
def Node.unknownOperation? (conditional : Bool) : Node → Option Nat
  | .text _ => none
  | .output expr => if conditional then none else expr.unknownOperation?
  | .branch _ _ body otherwise =>
      (unknownOperationIn? true body).or (unknownOperationIn? true otherwise)
  | .loop _ _ iterable test? body otherwise =>
      ((test?.bind Expr.unknownOperation?).or
        (if conditional then none else iterable.unknownOperation?)).or
        ((unknownOperationIn? false body).or (unknownOperationIn? false otherwise))

/-- The line of the first unknown operation of nodes that is refused before
evaluation. -/
def unknownOperationIn? (conditional : Bool) : List Node → Option Nat
  | [] => none
  | node :: rest =>
      (node.unknownOperation? conditional).or (unknownOperationIn? conditional rest)

end

end Template
end SkillNode
