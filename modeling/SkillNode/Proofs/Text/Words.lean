import SkillNode.Text.Blank
import SkillNode.Text.Letter
import SkillNode.Text.Line

/-!
# Words

A word is a text without blanks that is not empty. The first word of a text is what stands
between its leading blanks and the next one, and a word is found again in a text that starts
with it.
-/

namespace SkillNode
namespace Text

/-- Letters, digits and the underscore lie between the digits and the small letters. -/
theorem toNat_of_isAsciiWord {c : Char} (isWord : isAsciiWord c = true) :
    48 ≤ c.toNat ∧ c.toNat ≤ 122 := by
  have inSomeRange : (((c.isUpper || c.isLower) || c.isDigit) || decide (c = '_')) = true := isWord
  rw [Bool.or_eq_true, Bool.or_eq_true, Bool.or_eq_true] at inSomeRange
  have between : ∀ first last : Char, 48 ≤ first.toNat → last.toNat ≤ 122 →
      first.val ≤ c.val → c.val ≤ last.val → 48 ≤ c.toNat ∧ c.toNat ≤ 122 := by
    intro first last low high fromFirst upToLast
    have lowBound : first.toNat ≤ c.toNat := UInt32.le_iff_toNat_le.mp fromFirst
    have highBound : c.toNat ≤ last.toNat := UInt32.le_iff_toNat_le.mp upToLast
    omega
  rcases inSomeRange with ((isUpper | isLower) | isDigit) | isUnderscore
  · obtain ⟨fromFirst, upToLast⟩ := of_decide_eq_true isUpper
    exact between 'A' 'Z' (by decide) (by decide) fromFirst upToLast
  · obtain ⟨fromFirst, upToLast⟩ := Bool.and_eq_true_iff.mp isLower
    exact between 'a' 'z' (by decide) (by decide) (of_decide_eq_true fromFirst)
      (of_decide_eq_true upToLast)
  · obtain ⟨fromFirst, upToLast⟩ := Bool.and_eq_true_iff.mp isDigit
    exact between '0' '9' (by decide) (by decide) (of_decide_eq_true fromFirst)
      (of_decide_eq_true upToLast)
  · obtain rfl := of_decide_eq_true isUnderscore
    decide

theorem isBlank_of_isAsciiWord {c : Char} (isWord : isAsciiWord c = true) : isBlank c = false := by
  obtain ⟨low, high⟩ := toNat_of_isAsciiWord isWord
  simp only [isBlank, Bool.or_eq_false_iff, Bool.and_eq_false_iff, decide_eq_false_iff_not]
  omega

/-- The codes of the blanks. -/
def blankCodes : List Nat :=
  [9, 10, 11, 12, 13, 28, 29, 30, 31, 32, 0x85, 0xA0, 0x1680, 0x2000, 0x2001, 0x2002, 0x2003,
    0x2004, 0x2005, 0x2006, 0x2007, 0x2008, 0x2009, 0x200A, 0x2028, 0x2029, 0x202F, 0x205F, 0x3000]

/-- No blank is part of a word of any script. -/
theorem isWordCharacter_of_isBlank {c : Char} (blank : isBlank c = true) :
    isWordCharacter c = false := by
  have checked : ∀ code ∈ blankCodes, isWordCharacter (Char.ofNat code) = false := by
    decide +kernel
  have isListed : c.toNat ∈ blankCodes := by
    simp only [isBlank, Bool.or_eq_true, Bool.and_eq_true, decide_eq_true_eq] at blank
    simp only [blankCodes, List.mem_cons, List.not_mem_nil, or_false]
    omega
  rw [← Char.ofNat_toNat c]
  exact checked c.toNat isListed

theorem isBlank_of_isWordCharacter {c : Char} (isWord : isWordCharacter c = true) :
    isBlank c = false := by
  cases blank : isBlank c with
  | false => rfl
  | true =>
      rw [isWordCharacter_of_isBlank blank] at isWord
      cases isWord

/-- Every line break is a blank. -/
theorem isBlank_of_isLineBreak {c : Char} (breaks : isLineBreak c = true) : isBlank c = true := by
  simp only [isLineBreak, isBlank, Bool.or_eq_true, Bool.and_eq_true, decide_eq_true_eq] at *
  omega

theorem isLineBreak_of_unblank {c : Char} (unblank : isBlank c = false) :
    isLineBreak c = false := by
  cases breaks : isLineBreak c with
  | false => rfl
  | true =>
      rw [isBlank_of_isLineBreak breaks] at unblank
      cases unblank

/-- A text that is not empty and holds no blank. -/
structure IsWord (word : Text) : Prop where
  notEmpty : word ≠ []
  unblank : ∀ c ∈ word, isBlank c = false

namespace IsWord

variable {word : Text} (isWord : IsWord word)

include isWord

/-- A word has no blanks at its start, whatever follows it. -/
theorem trimStart_append (rest : Text) : trimStart (word ++ rest) = word ++ rest := by
  cases word with
  | nil => exact absurd rfl isWord.notEmpty
  | cons c word => simp [trimStart, isWord.unblank c (List.mem_cons_self ..)]

/-- A word has no blanks at its end, whatever stands before it. -/
theorem trimEnd_append (start : Text) : trimEnd (start ++ word) = start ++ word := by
  have reversed : IsWord word.reverse :=
    ⟨by simpa using isWord.notEmpty, by simpa using isWord.unblank⟩
  have startsTrimmed := reversed.trimStart_append start.reverse
  rw [trimStart] at startsTrimmed
  rw [trimEnd, List.reverse_append, startsTrimmed]
  simp

/-- A word is the first one of a text that starts with it and goes on with a blank. -/
theorem firstWord?_append
    {rest : Text}
    (endsWord : ∀ c, rest.head? = some c → isBlank c = true) :
    firstWord? (word ++ rest) = some (word, trimStart rest) := by
  have allTaken : ∀ c ∈ word, (! isBlank c) = true := by simpa using isWord.unblank
  have taken : (word ++ rest).takeWhile (! isBlank ·) = word ∧
      (word ++ rest).dropWhile (! isBlank ·) = rest := by
    rw [List.takeWhile_append_of_pos allTaken, List.dropWhile_append_of_pos allTaken]
    cases rest with
    | nil => simp
    | cons c rest => simp [endsWord c rfl]
  rw [firstWord?, isWord.trimStart_append rest]
  cases whole : word ++ rest with
  | nil => exact absurd (List.append_eq_nil_iff.mp whole).1 isWord.notEmpty
  | cons c others =>
      rw [whole] at taken
      simp only [taken.1, taken.2]

end IsWord

/-- The first word of a text stands in it after blanks. -/
theorem firstWord?_eq_some
    {text word rest : Text}
    (found : firstWord? text = some (word, rest)) :
    IsWord word ∧
      ∃ blanks more, text = blanks ++ (word ++ more) ∧ ∀ c ∈ blanks, isBlank c = true := by
  unfold firstWord? at found
  split at found
  · cases found
  · next c others starts =>
      obtain ⟨rfl, rfl⟩ := Prod.mk.inj (Option.some.inj found)
      have startsUnblank : isBlank c = false := by
        have stops := List.head?_dropWhile_not isBlank text
        rw [← trimStart, starts] at stops
        simpa using stops
      refine ⟨⟨by simp [startsUnblank], ?_⟩, text.takeWhile isBlank,
        (c :: others).dropWhile (! isBlank ·), ?_, ?_⟩
      · intro d member
        simpa using List.all_eq_true.mp List.all_takeWhile d member
      · rw [List.takeWhile_append_dropWhile, ← starts, trimStart, List.takeWhile_append_dropWhile]
      · intro d member
        exact List.all_eq_true.mp List.all_takeWhile d member

/-- A trimmed text stands in the text between blanks. -/
theorem exists_trim_eq (text : Text) :
    ∃ blanks after, text = blanks ++ (trim text ++ after) ∧ ∀ c ∈ blanks, isBlank c = true := by
  obtain ⟨after, ended⟩ := trimEnd_isPrefix (trimStart text)
  refine ⟨text.takeWhile isBlank, after, ?_, ?_⟩
  · rw [trim, ended, trimStart, List.takeWhile_append_dropWhile]
  · intro c member
    exact List.all_eq_true.mp List.all_takeWhile c member

end Text
end SkillNode
