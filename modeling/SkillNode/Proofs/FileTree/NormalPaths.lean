import SkillNode.FileTree.Path
import SkillNode.Proofs.Text.Segments

/-!
# Normal paths

A text writes a path, and the path is written as a text again, which may be another one: slashes
are written once, and dots not at all. The second text writes the same path, so that whatever is
said by the first of the two is found by the other.
-/

namespace SkillNode
namespace FileTree
namespace Path

/-- Every slash parts the components before it from those after it. -/
theorem partsOf_append_slash (base rest : Text) :
    partsOf (base ++ '/' :: rest) = partsOf base ++ partsOf rest := by
  rw [partsOf, Text.segments_append_cons, List.filter_append]
  rfl

/-- A component of a text is not empty, no single dot, and holds no slash. -/
theorem isComponent_of_mem_partsOf
    {text part : Text}
    (member : part ∈ partsOf text) :
    (part ≠ [] ∧ '/' ∉ part) ∧ part ≠ ("." : Text) := by
  obtain ⟨isSegment, notHere⟩ := List.mem_filter.mp member
  exact ⟨Text.isSegment_of_mem_segments isSegment, of_decide_eq_true notHere⟩

/-- Components with slashes between them are those of their text. -/
theorem partsOf_join_components
    {parts : List Text}
    (areComponents : ∀ part ∈ parts, (part ≠ [] ∧ '/' ∉ part) ∧ part ≠ ("." : Text)) :
    partsOf (Text.join "/" parts) = parts := by
  have cut : Text.segments '/' (Text.join "/" parts) = parts :=
    Text.segments_join fun part member => (areComponents part member).1
  rw [partsOf, cut]
  exact List.filter_eq_self.mpr fun part member => decide_eq_true (areComponents part member).2

/-- Components with slashes between them start with no slash. -/
theorem head?_join_ne_slash
    {parts : List Text}
    (areComponents : ∀ part ∈ parts, part ≠ [] ∧ '/' ∉ part) :
    (Text.join "/" parts).head? ≠ some '/' := by
  cases parts with
  | nil => exact nofun
  | cons part rest =>
      obtain ⟨notEmpty, noSlash⟩ := areComponents part List.mem_cons_self
      obtain ⟨first, others, rfl⟩ := List.exists_cons_of_ne_nil notEmpty
      have startsPlain : first ≠ '/' := fun isSlash => noSlash (isSlash ▸ List.mem_cons_self)
      cases rest <;> simpa [Text.join, List.intercalate] using startsPlain

/-- A text that starts with no slash is that of a relative path, and slashes before it are the
root of an absolute one. -/
theorem rootOf_append
    {root rest : Text}
    (isRoot : root = [] ∨ root = "/" ∨ root = "//")
    (noSlash : rest.head? ≠ some '/') :
    rootOf (root ++ rest) = root := by
  cases rest with
  | nil => rcases isRoot with rfl | rfl | rfl <;> rfl
  | cons c rest =>
      have startsPlain : c ≠ '/' := by simpa using noSlash
      rcases isRoot with rfl | rfl | rfl <;> simp [rootOf, startsPlain]

theorem rootOf_cases (text : Text) :
    rootOf text = [] ∨ rootOf text = "/" ∨ rootOf text = "//" := by
  unfold rootOf
  split <;> simp

/-- The root of a path adds no component. -/
theorem partsOf_append_root
    {root : Text}
    (isRoot : root = [] ∨ root = "/" ∨ root = "//")
    (rest : Text) :
    partsOf (root ++ rest) = partsOf rest := by
  have oneSlash : ∀ text, partsOf ('/' :: text) = partsOf text := partsOf_append_slash []
  rcases isRoot with rfl | rfl | rfl
  · rfl
  · exact oneSlash rest
  · exact (oneSlash _).trans (oneSlash rest)

/-- The text of the path that a text writes is a text of the same path. -/
theorem ofText_text_ofText (text : Text) : ofText (ofText text).text = ofText text := by
  have isRoot := rootOf_cases text
  have areComponents : ∀ part ∈ partsOf text, (part ≠ [] ∧ '/' ∉ part) ∧ part ≠ ("." : Text) :=
    fun part => isComponent_of_mem_partsOf
  unfold Path.text
  split
  · next isNothing =>
      obtain ⟨noRoot, noParts⟩ := Bool.and_eq_true_iff.mp isNothing
      have root : rootOf text = [] := List.isEmpty_iff.mp noRoot
      have parts : partsOf text = [] := List.isEmpty_iff.mp noParts
      unfold ofText
      rw [root, parts]
      rfl
  · have noSlash := head?_join_ne_slash fun part member => (areComponents part member).1
    change Path.mk (rootOf (rootOf text ++ Text.join "/" (partsOf text)))
      (partsOf (rootOf text ++ Text.join "/" (partsOf text))) = _
    rw [rootOf_append isRoot noSlash, partsOf_append_root isRoot,
      partsOf_join_components areComponents]
    rfl

end Path
end FileTree
end SkillNode
