import SkillNode.Template.Restrictions

/-!
# Comparison of nodes

Whether a template is read as certain nodes is settled by comparing the nodes that it is read as
with them, part by part.
-/

namespace SkillNode
namespace Template

-- Nodes hold lists of nodes, for which no decidable equality can be derived.
mutual

/-- Whether two nodes are the same. -/
def Node.same : Node → Node → Bool
  | .text left, .text right => left = right
  | .output left, .output right => left = right
  | .branch leftLine leftTest leftBody leftOtherwise,
    .branch rightLine rightTest rightBody rightOtherwise =>
      leftLine = rightLine && leftTest = rightTest && sameNodes leftBody rightBody &&
        sameNodes leftOtherwise rightOtherwise
  | .loop leftLine leftTarget leftIterable leftTest? leftBody leftOtherwise,
    .loop rightLine rightTarget rightIterable rightTest? rightBody rightOtherwise =>
      leftLine = rightLine && leftTarget = rightTarget && leftIterable = rightIterable &&
        leftTest? = rightTest? && sameNodes leftBody rightBody &&
        sameNodes leftOtherwise rightOtherwise
  | _, _ => false

/-- Whether two rows of nodes are the same. -/
def sameNodes : List Node → List Node → Bool
  | [], [] => true
  | left :: lefts, right :: rights => left.same right && sameNodes lefts rights
  | _, _ => false

end

mutual

theorem Node.eq_of_same : ∀ {left right : Node}, left.same right → left = right
  | .text _, .text _, same => by simpa [Node.same] using same
  | .output _, .output _, same => by simpa [Node.same] using same
  | .branch .., .branch .., same => by
      simp only [Node.same, Bool.and_eq_true, decide_eq_true_eq] at same
      obtain ⟨⟨⟨rfl, rfl⟩, body⟩, otherwise⟩ := same
      rw [eq_of_sameNodes body, eq_of_sameNodes otherwise]
  | .loop .., .loop .., same => by
      simp only [Node.same, Bool.and_eq_true, decide_eq_true_eq] at same
      obtain ⟨⟨⟨⟨⟨rfl, rfl⟩, rfl⟩, rfl⟩, body⟩, otherwise⟩ := same
      rw [eq_of_sameNodes body, eq_of_sameNodes otherwise]
  | .text _, .output _, same | .text _, .branch .., same | .text _, .loop .., same
  | .output _, .text _, same | .output _, .branch .., same | .output _, .loop .., same
  | .branch .., .text _, same | .branch .., .output _, same | .branch .., .loop .., same
  | .loop .., .text _, same | .loop .., .output _, same | .loop .., .branch .., same => by
      simp [Node.same] at same

theorem eq_of_sameNodes : ∀ {left right : List Node}, sameNodes left right → left = right
  | [], [], _ => rfl
  | _ :: _, _ :: _, same => by
      rw [sameNodes, Bool.and_eq_true] at same
      rw [Node.eq_of_same same.1, eq_of_sameNodes same.2]
  | [], _ :: _, same | _ :: _, [], same => by simp [sameNodes] at same

end

/-- Whether a reading gives certain nodes. -/
def reads (outcome : Except ReadFault (List Node)) (nodes : List Node) : Bool :=
  match outcome with
  | .ok found => sameNodes found nodes
  | .error _ => false

theorem eq_of_reads
    {outcome : Except ReadFault (List Node)}
    {nodes : List Node}
    (isRead : reads outcome nodes) :
    outcome = .ok nodes := by
  cases outcome with
  | error fault => simp [reads] at isRead
  | ok found => rw [eq_of_sameNodes isRead]

end Template
end SkillNode
