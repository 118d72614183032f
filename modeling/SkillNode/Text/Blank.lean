import SkillNode.Text.Basic

/-!
# Blank characters

The characters that count as white space, and the operations that remove them
from the ends of a text or cut a text at its first run of them.

The main statements say that a trimmed text neither starts nor ends with a
blank and that trimming twice is trimming once.
-/

namespace SkillNode
namespace Text

/-- A white-space character of some script, line breaks and the four separator
controls included. -/
def isBlank (c : Char) : Bool :=
  let code := c.toNat
  (9 ≤ code && code ≤ 13) || (28 ≤ code && code ≤ 32) || code = 0x85 || code = 0xA0 ||
    code = 0x1680 || (0x2000 ≤ code && code ≤ 0x200A) || code = 0x2028 || code = 0x2029 ||
    code = 0x202F || code = 0x205F || code = 0x3000

/-- Remove the blanks at the start. -/
def trimStart (text : Text) : Text := text.dropWhile isBlank

/-- Remove the blanks at the end. -/
def trimEnd (text : Text) : Text := (text.reverse.dropWhile isBlank).reverse

/-- Remove the blanks at both ends. -/
def trim (text : Text) : Text := trimEnd (trimStart text)

/-- The first word of a text and what follows it, without the blanks between;
nothing for a text of blanks. -/
def firstWord? (text : Text) : Option (Text × Text) :=
  match trimStart text with
  | [] => none
  | c :: rest =>
      some ((c :: rest).takeWhile (! isBlank ·), trimStart ((c :: rest).dropWhile (! isBlank ·)))

/-- A text of blanks only. -/
def isAllBlank (text : Text) : Bool := text.all isBlank

/-! ## Laws of trimming -/

theorem trimStart_idem (text : Text) : trimStart (trimStart text) = trimStart text := by
  induction text with
  | nil => rfl
  | cons c rest restHypothesis =>
      by_cases blank : isBlank c
      · simpa [trimStart, blank] using restHypothesis
      · simp [trimStart, blank]

theorem trimEnd_idem (text : Text) : trimEnd (trimEnd text) = trimEnd text := by
  simp only [trimEnd, List.reverse_reverse]
  exact congrArg List.reverse (trimStart_idem text.reverse)

/-- What is left after trimming the end is the start of the text. -/
theorem trimEnd_isPrefix (text : Text) : trimEnd text <+: text := by
  have suffix := List.dropWhile_suffix isBlank (l := text.reverse)
  simpa [trimEnd] using List.reverse_prefix.mpr suffix

/-- Of two texts in a row the second is trimmed, unless it is blank. -/
theorem trimEnd_append (first second : Text) :
    trimEnd (first ++ second) =
      if trimEnd second = [] then trimEnd first else first ++ trimEnd second := by
  simp only [trimEnd, List.reverse_append, List.dropWhile_append, List.isEmpty_iff,
    List.reverse_eq_nil_iff]
  split <;> simp

/-- A text that does not start with a blank still does not after its end is
trimmed. -/
theorem trimStart_trimEnd_of_trimmed
    {text : Text}
    (startTrimmed : trimStart text = text) :
    trimStart (trimEnd text) = trimEnd text := by
  cases result : trimEnd text with
  | nil => rfl
  | cons c rest =>
      have startsWith := trimEnd_isPrefix text
      rw [result] at startsWith
      obtain ⟨tail, whole⟩ := startsWith
      subst whole
      by_cases blank : isBlank c
      · simp [trimStart, blank] at startTrimmed
        have shorter := congrArg List.length startTrimmed
        have bound := (List.dropWhile_suffix isBlank (l := rest ++ tail)).length_le
        simp at shorter bound
        omega
      · simp [trimStart, blank]

/-- Trimming twice is trimming once. -/
@[simp] theorem trim_trim (text : Text) : trim (trim text) = trim text := by
  unfold trim
  rw [trimStart_trimEnd_of_trimmed (trimStart_idem text), trimEnd_idem]

theorem trimStart_eq_nil_iff {text : Text} : trimStart text = [] ↔ isAllBlank text = true := by
  induction text with
  | nil => simp [trimStart, isAllBlank]
  | cons c rest restHypothesis =>
      by_cases blank : isBlank c
      · have goesOn : trimStart (c :: rest) = trimStart rest := by simp [trimStart, blank]
        have sameRest : isAllBlank (c :: rest) = isAllBlank rest := by simp [isAllBlank, blank]
        rw [goesOn, sameRest, restHypothesis]
      · simp [trimStart, isAllBlank, blank]

/-- Trimming leaves nothing of a text exactly if all of it is blank. -/
theorem trim_eq_nil_iff {text : Text} : trim text = [] ↔ isAllBlank text = true := by
  have endBlank : trim text = [] ↔ trimStart (trimStart text).reverse = [] := by
    simp [trim, trimEnd, trimStart]
  have sameCharacters : isAllBlank (trimStart text).reverse = isAllBlank (trimStart text) :=
    List.all_reverse
  rw [endBlank, trimStart_eq_nil_iff, sameCharacters, ← trimStart_eq_nil_iff, trimStart_idem,
    trimStart_eq_nil_iff]

end Text
end SkillNode
