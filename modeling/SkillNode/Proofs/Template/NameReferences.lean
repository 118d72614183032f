import SkillNode.Template.Syntax

/-!
# References to names

An expression refers to a name on the line on which it has it. The references that are not to the
targets of loops are those to the free names.
-/

namespace SkillNode
namespace Template

/-- A name that is referred to, and the line on which it stands. -/
structure Reference where
  line : Nat
  name : Text
  deriving DecidableEq, Repr

/-- The references of an expression. -/
def Expr.references : Expr → List Reference
  | .name line found => [⟨line, found⟩]
  | .constant _ _ => []
  | .field _ base _ | .filter _ base _ | .test _ base _ => base.references
  | .item _ base index => base.references ++ index.references
  | .filterWith _ base _ argument => base.references ++ argument.references
  | .not _ operand => operand.references
  | .and _ left right | .or _ left right | .equal _ left right =>
      left.references ++ right.references

mutual

/-- The references of a node to names that it does not bind. -/
def Node.references : Node → List Reference
  | .text _ => []
  | .output expr => expr.references
  | .branch _ test body otherwise =>
      test.references ++ referencesIn body ++ referencesIn otherwise
  | .loop _ target iterable test? body otherwise =>
      iterable.references ++
        (((test?.map Expr.references).getD []).filter (·.name ≠ target)) ++
        ((referencesIn body).filter fun reference =>
          reference.name ≠ target && reference.name ≠ loopName) ++
        referencesIn otherwise

/-- The references of nodes to names that they do not bind. -/
def referencesIn : List Node → List Reference
  | [] => []
  | node :: rest => node.references ++ referencesIn rest

end

/-- Nodes have an expression that refers to a name on a line, the name not being the target of a
loop there. -/
def RefersOn (nodes : List Node) (line : Nat) (name : Text) : Prop :=
  ⟨line, name⟩ ∈ referencesIn nodes

instance (nodes : List Node) (line : Nat) (name : Text) : Decidable (RefersOn nodes line name) :=
  inferInstanceAs (Decidable (_ ∈ _))

theorem Expr.map_references (expr : Expr) : expr.references.map Reference.name = expr.names := by
  induction expr with
  | name | constant => rfl
  | field _ _ _ baseHypothesis | filter _ _ _ baseHypothesis | test _ _ _ baseHypothesis
  | not _ _ baseHypothesis => exact baseHypothesis
  | item _ _ _ leftHypothesis rightHypothesis
  | filterWith _ _ _ _ leftHypothesis rightHypothesis
  | and _ _ _ leftHypothesis rightHypothesis
  | or _ _ _ leftHypothesis rightHypothesis
  | equal _ _ _ leftHypothesis rightHypothesis =>
      rw [Expr.references, List.map_append, leftHypothesis, rightHypothesis, Expr.names]

mutual

theorem Node.map_references (node : Node) :
    node.references.map Reference.name = node.freeNames := by
  cases node with
  | text => rw [Node.references, Node.freeNames, List.map_nil]
  | output expr => rw [Node.references, Node.freeNames, expr.map_references]
  | branch _ test body otherwise =>
      rw [Node.references, Node.freeNames, List.map_append, List.map_append, test.map_references,
        map_referencesIn body, map_referencesIn otherwise]
  | loop _ target iterable test? body otherwise =>
      have testNames : ((test?.map Expr.references).getD []).map Reference.name =
          (test?.map Expr.names).getD [] := by
        cases test? with
        | none => rfl
        | some test => exact test.map_references
      have filtered : ∀ (references : List Reference) (keeps : Text → Bool),
          (references.filter fun reference => keeps reference.name).map Reference.name =
            (references.map Reference.name).filter keeps := by
        intro references keeps
        rw [List.filter_map]
        rfl
      rw [Node.references, Node.freeNames, List.map_append, List.map_append, List.map_append,
        iterable.map_references, filtered _ (· ≠ target), testNames,
        filtered _ fun name => name ≠ target && name ≠ loopName,
        map_referencesIn body, map_referencesIn otherwise]

theorem map_referencesIn (nodes : List Node) :
    (referencesIn nodes).map Reference.name = freeNamesOf nodes := by
  cases nodes with
  | nil => rw [referencesIn, freeNamesOf, List.map_nil]
  | cons node rest =>
      rw [referencesIn, freeNamesOf, List.map_append, node.map_references, map_referencesIn rest]

end

/-- A name is free in nodes exactly if they refer to it on some line. -/
theorem mem_freeNamesOf_iff {nodes : List Node} {name : Text} :
    name ∈ freeNamesOf nodes ↔ ∃ line, RefersOn nodes line name := by
  rw [← map_referencesIn, List.mem_map]
  constructor
  · rintro ⟨⟨line, found⟩, isReference, rfl⟩
    exact ⟨line, isReference⟩
  · rintro ⟨line, isReference⟩
    exact ⟨⟨line, name⟩, isReference, rfl⟩

end Template
end SkillNode
