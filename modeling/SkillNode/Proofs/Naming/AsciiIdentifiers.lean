import SkillNode.Proofs.Generation.ClassNames
import SkillNode.Proofs.Naming.Identifiers

/-!
# Identifiers of ASCII

Over a name whose letters and numbers are of ASCII the identifier is of ASCII too, and so are the
words that it is cut into.
-/

namespace SkillNode
namespace Naming

variable {c : Char} {name : Text}

/-- The letters and numbers of a name are those of ASCII. -/
def HasAsciiLetters (name : Text) : Prop :=
  ∀ c ∈ name, Text.isAlphanumeric c = true → c.isAlphanum = true

theorem isAsciiWord_iff : Text.isAsciiWord c = true ↔ c.isAlphanum = true ∨ c = '_' := by
  rw [Text.isAsciiWord, Bool.or_eq_true, decide_eq_true_iff]

/-- An identifier is of ASCII exactly if the letters and numbers of the name are. -/
theorem forall_isAsciiWord_identifier_iff :
    (∀ c ∈ identifier name, Text.isAsciiWord c = true) ↔ HasAsciiLetters name := by
  constructor
  · intro areWords c member isLetter
    have differs := Text.ne_underscore_of_isAlphanumeric isLetter
    have isWord := areWords c ((mem_identifier_iff differs).mpr ⟨member, isLetter⟩)
    exact (isAsciiWord_iff.mp isWord).resolve_right differs
  · intro areAscii c member
    by_cases isUnderscore : c = '_'
    · exact isAsciiWord_iff.mpr (.inr isUnderscore)
    · obtain ⟨inName, isLetter⟩ := (mem_identifier_iff isUnderscore).mp member
      exact isAsciiWord_iff.mpr (.inl (areAscii c inName isLetter))

/-- The words of a text of ASCII, with a capital each, are of ASCII. -/
theorem isAsciiWord_of_mem_pascalCase
    (areWords : ∀ c ∈ name, Text.isAsciiWord c = true)
    (member : c ∈ pascalCase name) :
    Text.isAsciiWord c = true := by
  obtain ⟨word, isWord, inWord⟩ := List.mem_flatMap.mp member
  have noUnderscore : '_' ∉ word :=
    Text.separator_notMem_of_mem_splitOn (List.mem_filter.mp isWord).1
  have inName : ∀ d ∈ word, d.isAlphanum = true := fun d inPiece =>
    (isAsciiWord_iff.mp (areWords d (Text.mem_of_mem_segments isWord inPiece))).resolve_right
      fun isUnderscore => noUnderscore (isUnderscore ▸ inPiece)
  cases word with
  | nil => cases inWord
  | cons first rest =>
      refine isAsciiWord_iff.mpr (.inl ?_)
      rcases List.mem_append.mp inWord with inFirst | inRest
      · exact isAlphanum_of_mem_upperOf (inName first List.mem_cons_self) inFirst
      · exact inName c (List.mem_cons_of_mem _ inRest)

end Naming
end SkillNode
