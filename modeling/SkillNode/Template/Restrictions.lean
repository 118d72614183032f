import SkillNode.Template.Evaluation

/-!
# Restrictions on templates

Not every template that is well formed is made ready for expansion. Some uses are left out of the
language: names between double underscores, which mean something to every object, and the state of
a loop other than for what it tells of the loop itself. Other templates are stopped by an obstacle
that is no error of the template language: a number of too many digits, loops that stand too deep
inside one another, and a constant that is asked for a part that it lacks, since constants are put
together before anything is expanded.
-/

namespace SkillNode
namespace Template

/-- Why a template that is well formed is not made ready for expansion. -/
inductive Obstacle
  /-- A number has too many digits to be read or printed. -/
  | longNumber
  /-- Too many loops stand inside one another. -/
  | deepLoops
  /-- A constant lacks a part that has to be there before anything is expanded. -/
  | missingConstant
  deriving DecidableEq, Repr

/-- Why a text cannot be read as a template. -/
inductive ReadFault
  /-- It is no template, on a line. -/
  | malformed (line : Nat)
  | obstructed (obstacle : Obstacle)
  deriving DecidableEq, Repr

/-! ## Uses that are left out -/

/-- Whether a name stands between double underscores. -/
def isInternalName (name : Text) : Bool :=
  ("__" : Text).isPrefixOf name && ("__" : Text).isSuffixOf name

/-- What the state of a loop knows beside the place of the item in the loop. -/
def innerLoopParts : List Text := ["previtem", "nextitem", "cycle", "changed"]

/-- Whether the state of a loop may be asked for a part. -/
def isLoopPart (name : Text) : Bool :=
  name.head? ≠ some '_' && !innerLoopParts.contains name

/-- Whether an expression is a name or a constant. -/
def Expr.isPlain : Expr → Bool
  | .name _ _ | .constant _ _ => true
  | _ => false

/-- Whether an expression is a constant name between double underscores. -/
def Expr.isInternalIndex : Expr → Bool
  | .constant _ (.text found) => isInternalName found
  | _ => false

/-- The line of the first use in an expression that is left out of the language. Inside a loop the
name of its state stands for nothing but the parts of the state, and the argument of a filter is a
name or a constant. -/
def Expr.excluded? (inLoop : Bool) : Expr → Option Nat
  | .name line found => if inLoop && found = loopName then some line else none
  | .constant _ _ => none
  | .field line (.name _ found) part =>
      if isInternalName part || inLoop && found = loopName && !isLoopPart part then
        some line
      else
        none
  | .field line base part =>
      if isInternalName part then some line else base.excluded? inLoop
  | .item line base index =>
      if index.isInternalIndex then
        some line
      else
        (base.excluded? inLoop).or (index.excluded? inLoop)
  | .filter _ base _ | .test _ base _ | .not _ base => base.excluded? inLoop
  | .filterWith line base _ argument =>
      if argument.isPlain then
        (base.excluded? inLoop).or (argument.excluded? inLoop)
      else
        some line
  | .and _ left right | .or _ left right | .equal _ left right =>
      (left.excluded? inLoop).or (right.excluded? inLoop)

mutual

/-- The line of the first use in a node that is left out of the language. -/
def Node.excluded? (inLoop : Bool) : Node → Option Nat
  | .text _ => none
  | .output expr => expr.excluded? inLoop
  | .branch _ test body otherwise =>
      (test.excluded? inLoop).or ((excludedIn? inLoop body).or (excludedIn? inLoop otherwise))
  | .loop _ _ iterable test? body otherwise =>
      ((iterable.excluded? inLoop).or (test?.bind (Expr.excluded? inLoop))).or
        ((excludedIn? true body).or (excludedIn? inLoop otherwise))

/-- The line of the first use in nodes that is left out of the language. -/
def excludedIn? (inLoop : Bool) : List Node → Option Nat
  | [] => none
  | node :: rest => (node.excluded? inLoop).or (excludedIn? inLoop rest)

end

/-! ## Obstacles -/

/-- Whether an expression looks up no name and finds nothing. -/
def Expr.isMissingConstant (expr : Expr) : Bool :=
  expr.names.isEmpty &&
    match expr.eval 0 [] with
    | .ok (.missing _) => true
    | _ => false

/-- Whether a constant that lacks a part decides in an expression about what stands right of it. -/
def Expr.meetsMissing : Expr → Bool
  | .name _ _ | .constant _ _ => false
  | .field _ base _ | .filter _ base _ | .test _ base _ | .not _ base => base.meetsMissing
  | .item _ left right | .filterWith _ left _ right | .equal _ left right =>
      left.meetsMissing || right.meetsMissing
  | .and _ left right | .or _ left right =>
      left.isMissingConstant || left.meetsMissing || right.meetsMissing

mutual

/-- Whether a constant that lacks a part is needed in a node before its expansion. -/
def Node.meetsMissing : Node → Bool
  | .text _ => false
  | .output expr => expr.isMissingConstant || expr.meetsMissing
  | .branch _ test body otherwise =>
      test.meetsMissing || meetMissing body || meetMissing otherwise
  | .loop _ _ iterable test? body otherwise =>
      iterable.meetsMissing || test?.any Expr.meetsMissing || meetMissing body ||
        meetMissing otherwise

/-- Whether a constant that lacks a part is needed in nodes before their expansion. -/
def meetMissing : List Node → Bool
  | [] => false
  | node :: rest => node.meetsMissing || meetMissing rest

end

/-- The greatest number of loops that stand inside one another. -/
def maxLoopDepth : Nat := 20

mutual

/-- Whether there is room for the loops that stand inside one another in a node. The part of a loop
for no item stands beside the loop. -/
def Node.nestsWithin (room : Nat) : Node → Bool
  | .text _ | .output _ => true
  | .branch _ _ body otherwise => nestWithin room body && nestWithin room otherwise
  | .loop _ _ _ _ body otherwise =>
      0 < room && nestWithin (room - 1) body && nestWithin room otherwise

/-- Whether there is room for the loops that stand inside one another in nodes. -/
def nestWithin (room : Nat) : List Node → Bool
  | [] => true
  | node :: rest => node.nestsWithin room && nestWithin room rest

end

/-- Why nodes are not made ready for expansion, if they are not. -/
def refusal? (nodes : List Node) : Option ReadFault :=
  match (unknownOperationIn? false nodes).or (excludedIn? false nodes) with
  | some line => some (.malformed line)
  | none =>
      if meetMissing nodes then some (.obstructed .missingConstant)
      else if nestWithin maxLoopDepth nodes then none
      else some (.obstructed .deepLoops)

end Template
end SkillNode
