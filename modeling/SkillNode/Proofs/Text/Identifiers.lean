import SkillNode.Proofs.Text.Words

/-!
# Identifiers

An identifier is made of word characters, so it holds no blank, no line break and no sign, and it
does not start with a digit.
-/

namespace SkillNode
namespace Text

variable {c : Char}

theorem isIdentifierPart_of_isIdentifierStart (starts : isIdentifierStart c = true) :
    isIdentifierPart c = true := by
  rw [isIdentifierStart] at starts
  split at starts
  · next ascii =>
      rw [isIdentifierPart, if_pos ascii]
      rw [isAsciiWordStart, Bool.or_eq_true] at starts
      rw [isAsciiWord, Char.isAlphanum, Bool.or_eq_true, Bool.or_eq_true]
      exact starts.imp_left .inl
  · rw [Bool.and_eq_true, Bool.and_eq_true] at starts
    exact starts.1.1

theorem isWordCharacter_of_isIdentifierPart (isPart : isIdentifierPart c = true) :
    isWordCharacter c = true := by
  rw [isIdentifierPart] at isPart
  rw [isWordCharacter, Bool.or_eq_true]
  split at isPart
  · next ascii =>
      rw [isAsciiWord, Bool.or_eq_true] at isPart
      rw [isAlphanumeric_of_ascii ascii]
      exact isPart.symm
  · exact .inr (Bool.and_eq_true_iff.mp isPart).1

/-- An identifier does not start with a digit. -/
theorem isDigit_of_isIdentifierStart (starts : isIdentifierStart c = true) :
    c.isDigit = false := by
  cases digit : c.isDigit with
  | false => rfl
  | true =>
      obtain ⟨fromFirst, upToLast⟩ := Bool.and_eq_true_iff.mp digit
      have low : '0'.toNat ≤ c.toNat := UInt32.le_iff_toNat_le.mp (of_decide_eq_true fromFirst)
      have high : c.toNat ≤ '9'.toNat := UInt32.le_iff_toNat_le.mp (of_decide_eq_true upToLast)
      have checked : ∀ code ∈ List.range' 48 10, isIdentifierStart (Char.ofNat code) = false := by
        decide +kernel
      have isListed : c.toNat ∈ List.range' 48 10 := by
        rw [List.mem_range'_1]
        exact ⟨low, Nat.lt_succ_of_le high⟩
      have noStart := checked c.toNat isListed
      rw [Char.ofNat_toNat, starts] at noStart
      cases noStart

section Name

variable {name : Text} (isName : isIdentifier name = true)

include isName

theorem exists_start_of_isIdentifier :
    ∃ first rest, name = first :: rest ∧ isIdentifierStart first = true := by
  cases name with
  | nil => cases isName
  | cons first rest => exact ⟨first, rest, rfl, (Bool.and_eq_true_iff.mp isName).1⟩

theorem isWordCharacter_of_mem_identifier : ∀ c ∈ name, isWordCharacter c = true := by
  cases name with
  | nil => cases isName
  | cons first rest =>
      obtain ⟨starts, areParts⟩ := Bool.and_eq_true_iff.mp isName
      intro c member
      rcases List.mem_cons.mp member with rfl | later
      · exact isWordCharacter_of_isIdentifierPart (isIdentifierPart_of_isIdentifierStart starts)
      · exact isWordCharacter_of_isIdentifierPart (List.all_eq_true.mp areParts c later)

theorem ne_nil_of_isIdentifier : name ≠ [] := by
  rintro rfl
  cases isName

/-- An identifier holds no sign. -/
theorem notMem_of_isIdentifier (noWord : isWordCharacter c = false) : c ∉ name := by
  intro member
  rw [isWordCharacter_of_mem_identifier isName c member] at noWord
  cases noWord

/-- An identifier stands on one line. -/
theorem lineFeeds_identifier : lineFeeds name = 0 :=
  lineFeeds_of_notMem (notMem_of_isIdentifier isName (by decide))

end Name

end Text
end SkillNode
