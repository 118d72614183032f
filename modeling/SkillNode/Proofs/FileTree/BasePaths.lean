import SkillNode.Proofs.FileTree.Children
import SkillNode.Proofs.FileTree.NormalPaths
import Mathlib.Data.List.Basic
import SkillNode.Proofs.Text.Identifiers

/-!
# Paths below a base

What lies below a base may be written after the text of the base, or be seen from its path. The
base may be absolute or relative or nothing at all, and may hold dots and doubled slashes: the
components of the path are those of the base and then the names that lead down from it.
-/

namespace SkillNode
namespace FileTree

/-! ## Names that are identifiers -/

/-- An identifier is a plain name, and so is a name that starts with one. -/
theorem IsPlainName.of_isIdentifier_append
    {name ending : Text}
    (isName : Text.isIdentifier name = true)
    (noSlash : '/' ∉ ending) :
    IsPlainName (name ++ ending) := by
  have noDot : '.' ∉ name := Text.notMem_of_isIdentifier isName (by decide)
  obtain ⟨first, rest, rfl⟩ := List.exists_cons_of_ne_nil (Text.ne_nil_of_isIdentifier isName)
  have startsPlain : first ≠ '.' := fun isDot => noDot (isDot ▸ List.mem_cons_self)
  exact {
    notEmpty := List.cons_ne_nil _ _
    noSlash := fun member => (List.mem_append.mp member).elim
      (Text.notMem_of_isIdentifier isName (by decide)) noSlash
    notHere := fun same => startsPlain (List.cons.inj same).1
    notUp := fun same => startsPlain (List.cons.inj same).1 }

theorem IsPlainName.of_isIdentifier {name : Text} (isName : Text.isIdentifier name = true) :
    IsPlainName name :=
  List.append_nil name ▸ of_isIdentifier_append isName List.not_mem_nil

/-! ## Components of texts -/

namespace Path

/-- Plain names with slashes between them are the components of their text. -/
theorem partsOf_join
    {part : Text}
    {parts : List Text}
    (arePlain : ∀ name ∈ part :: parts, IsPlainName name) :
    partsOf (Text.join "/" (part :: parts)) = part :: parts :=
  partsOf_join_components fun name member =>
    have isPlain := arePlain name member
    ⟨⟨isPlain.notEmpty, isPlain.noSlash⟩, isPlain.notHere⟩

/-- A text that starts with a plain name is that of a relative path. -/
theorem rootOf_join
    {part : Text}
    {parts : List Text}
    (arePlain : ∀ name ∈ part :: parts, IsPlainName name) :
    rootOf (Text.join "/" (part :: parts)) = [] :=
  rootOf_append (.inl rfl) (head?_join_ne_slash fun name member =>
    have isPlain := arePlain name member
    ⟨isPlain.notEmpty, isPlain.noSlash⟩)

end Path

/-! ## Paths -/

/-- A path of what some components lead to from a base: they are written as they are if the base
is empty, or after its text and a slash, or are seen from its path. -/
inductive IsBelow (base : Text) (parts : List Text) : Path → Prop
  | bare : base = [] → IsBelow base parts (Path.ofText (Text.join "/" parts))
  | written : IsBelow base parts (Path.ofText (base ++ '/' :: Text.join "/" parts))
  | seen : IsBelow base parts ((Path.ofText base).append (Text.join "/" parts))

/-- Whatever the base, what lies below it ends in the components that lead there. -/
theorem IsBelow.parts_eq
    {base part : Text}
    {parts : List Text}
    {path : Path}
    (isBelow : IsBelow base (part :: parts) path)
    (arePlain : ∀ name ∈ part :: parts, IsPlainName name) :
    path.parts = Path.partsOf base ++ part :: parts := by
  cases isBelow with
  | bare isEmpty =>
      subst isEmpty
      exact Path.partsOf_join arePlain
  | written =>
      refine (Path.partsOf_append_slash base _).trans ?_
      rw [Path.partsOf_join arePlain]
  | seen =>
      have noRoot := Path.rootOf_join arePlain
      simp only [Path.append, Path.ofText, noRoot, List.isEmpty_nil, if_true,
        Path.partsOf_join arePlain]

end FileTree
end SkillNode
