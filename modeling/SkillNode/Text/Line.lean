import SkillNode.Text.Basic

/-!
# Lines

A text is cut into lines at every line break of some script: line feed,
carriage return (one break together with a line feed that follows), vertical
tab, form feed, the three separator controls, next line, and the line and
paragraph separators. A break ends its line, so a text that ends in a break has
no empty last line.

The main statement says that no line holds a break.
-/

namespace SkillNode
namespace Text

/-- A character that ends a line. -/
def isLineBreak (c : Char) : Bool :=
  let code := c.toNat
  (10 ≤ code && code ≤ 13) || (28 ≤ code && code ≤ 30) || code = 0x85 ||
    code = 0x2028 || code = 0x2029

/-- The lines of a text, without their breaks. -/
def lines : Text → List Text
  | [] => []
  | '\r' :: '\n' :: rest => [] :: lines rest
  | c :: rest =>
      if isLineBreak c then
        [] :: lines rest
      else
        match lines rest with
        | [] => [[c]]
        | line :: more => (c :: line) :: more

/-- No line holds a line break. -/
theorem isLineBreak_of_mem_lines
    {text line : Text}
    (lineMember : line ∈ lines text) :
    ∀ c ∈ line, isLineBreak c = false := by
  fun_induction lines text generalizing line with
  | case1 => simp at lineMember
  | case2 rest restHypothesis =>
      rcases List.mem_cons.mp lineMember with rfl | later
      · simp
      · exact restHypothesis later
  | case3 c rest _ breaks restHypothesis =>
      rcases List.mem_cons.mp lineMember with rfl | later
      · simp
      · exact restHypothesis later
  | case4 c rest _ stays noLines restHypothesis =>
      simp at lineMember
      subst lineMember
      simpa using stays
  | case5 c rest _ stays first more isLines restHypothesis =>
      rw [isLines] at restHypothesis
      rcases List.mem_cons.mp lineMember with rfl | later
      · intro other member
        rcases List.mem_cons.mp member with rfl | inFirst
        · simpa using stays
        · exact restHypothesis (List.mem_cons_self ..) other inFirst
      · exact restHypothesis (List.mem_cons_of_mem _ later)

/-- Read every carriage return, alone or before a line feed, as a line feed. -/
def withLineFeeds : Text → Text
  | [] => []
  | '\r' :: '\n' :: rest => '\n' :: withLineFeeds rest
  | c :: rest => (if c = '\r' then '\n' else c) :: withLineFeeds rest

/-- A text without carriage returns keeps its line ends. -/
theorem withLineFeeds_of_noReturn {text : Text} (noReturn : '\r' ∉ text) :
    withLineFeeds text = text := by
  induction text using withLineFeeds.induct with
  | case1 => rfl
  | case2 rest restHypothesis => simp at noReturn
  | case3 c rest notPair restHypothesis =>
      obtain ⟨differs, restFree⟩ : '\r' ≠ c ∧ '\r' ∉ rest := by simpa using noReturn
      rw [withLineFeeds, if_neg (Ne.symm differs), restHypothesis restFree]
      exact notPair

end Text
end SkillNode
