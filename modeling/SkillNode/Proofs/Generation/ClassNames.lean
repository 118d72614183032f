import SkillNode.Generation.Blueprint
import SkillNode.Proofs.Text.DollarSigns
import Mathlib.Tactic.ByContra

/-!
# Class names

The class of a skill is an identifier, whether it is set or derived from the name of the
skill: settings with another class name are refused, and a derived one is made of ASCII
letters and digits and starts with no digit.
-/

namespace SkillNode

namespace Naming

theorem toNat_lt_of_isAlphanum {c : Char} (isAlphanum : c.isAlphanum = true) : c.toNat < 128 := by
  have inSomeRange : ((c.isUpper || c.isLower) || c.isDigit) = true := isAlphanum
  rw [Bool.or_eq_true, Bool.or_eq_true] at inSomeRange
  have ascii : ∀ last : Char, last.toNat < 128 → c.val ≤ last.val → c.toNat < 128 :=
    fun last lastAscii upTo => Nat.lt_of_le_of_lt (UInt32.le_iff_toNat_le.mp upTo) lastAscii
  rcases inSomeRange with (isUpper | isLower) | isDigit
  · exact ascii 'Z' (by decide) (of_decide_eq_true isUpper).2
  · exact ascii 'z' (by decide) (of_decide_eq_true (Bool.and_eq_true_iff.mp isLower).2)
  · exact ascii '9' (by decide) (of_decide_eq_true (Bool.and_eq_true_iff.mp isDigit).2)

/-- The capital form of an ASCII letter or digit is one. -/
theorem isAlphanum_of_mem_upperOf
    {c d : Char}
    (isAlphanum : c.isAlphanum = true)
    (member : d ∈ Text.upperOf c) :
    d.isAlphanum = true := by
  have ascii := toNat_lt_of_isAlphanum isAlphanum
  have allCapitals : ∀ code < 128, (Char.ofNat code).isAlphanum = true →
      (Char.ofNat code).toUpper.isAlphanum = true := by decide
  rw [Text.upperOf_of_ascii ascii, List.mem_singleton] at member
  subst member
  have isCapital := allCapitals c.toNat ascii
  rw [Char.ofNat_toNat] at isCapital
  exact isCapital isAlphanum

/-- The ASCII words of a name are made of letters and digits. -/
theorem isAlphanum_of_mem_asciiWords
    {name word : Text}
    (isWord : word ∈ asciiWords name) :
    ∀ c ∈ word, c.isAlphanum = true := by
  intro c inWord
  have notBlank : c ≠ ' ' := by
    rintro rfl
    exact Text.separator_notMem_of_mem_splitOn (List.mem_filter.mp isWord).1 inWord
  obtain ⟨original, _, isSpaced⟩ := List.mem_map.mp (Text.mem_of_mem_segments isWord inWord)
  split at isSpaced
  · next isAlphanum => exact isSpaced ▸ isAlphanum
  · exact absurd isSpaced.symm notBlank

theorem isAlphanum_of_mem_classStem
    {name : Text}
    {c : Char}
    (member : c ∈ classStem name) :
    c.isAlphanum = true := by
  obtain ⟨word, isWord, inWord⟩ := List.mem_flatMap.mp member
  have wordsAlphanum := isAlphanum_of_mem_asciiWords isWord
  cases word with
  | nil => cases inWord
  | cons first rest =>
      rcases List.mem_append.mp inWord with inFirst | inRest
      · exact isAlphanum_of_mem_upperOf (wordsAlphanum first List.mem_cons_self) inFirst
      · exact wordsAlphanum c (List.mem_cons_of_mem _ inRest)

/-- The class that is named after a skill is an identifier. -/
theorem isCIdentifier_of_className?
    {name className : Text}
    (named : className? name = some className) :
    Text.isCIdentifier className = true := by
  have suffixWords : classSuffix.all Text.isAsciiWord = true := by decide
  have stemAlphanum : ∀ c ∈ classStem name, c.isAlphanum = true :=
    fun c => isAlphanum_of_mem_classStem
  have alphanumWord : ∀ c : Char, c.isAlphanum = true → Text.isAsciiWord c = true := by
    intro c isAlphanum
    rw [Text.isAsciiWord, isAlphanum, Bool.true_or]
  unfold className? at named
  split at named
  · cases named
  · next first rest stem =>
      rw [stem] at stemAlphanum
      split at named
      · cases named
      · next noDigit =>
          have isStart : Text.isAsciiWordStart first = true := by
            have isAlphanum := stemAlphanum first List.mem_cons_self
            rw [Char.isAlphanum, Bool.or_eq_true] at isAlphanum
            rw [Text.isAsciiWordStart, isAlphanum.resolve_right noDigit, Bool.true_or]
          have restWords : ∀ c ∈ rest, Text.isAsciiWord c = true := fun c member =>
            alphanumWord c (stemAlphanum c (List.mem_cons_of_mem _ member))
          split at named
          · cases named
            rw [Text.isCIdentifier, isStart, Bool.true_and, List.all_eq_true]
            exact restWords
          · cases named
            rw [List.cons_append, Text.isCIdentifier, isStart, Bool.true_and, List.all_eq_true]
            exact List.forall_mem_append.mpr ⟨restWords, List.all_eq_true.mp suffixWords⟩

end Naming

namespace Generation

/-- A class name in settings that hold is an identifier. -/
theorem isCIdentifier_of_fault?
    {options : Options}
    {className : Text}
    (holds : options.fault? = none)
    (isSet : options.className? = some className) :
    Text.isCIdentifier className = true := by
  by_contra isNone
  have isBad : options.badClassName? = some className := by
    rw [Options.badClassName?, isSet, Option.filter_some, if_pos]
    simpa using isNone
  simp [Options.fault?, isBad] at holds

/-- The class of a skill is an identifier. -/
theorem isCIdentifier_of_chooseClassName
    {options : Options}
    {skillName className : Text}
    (holds : options.fault? = none)
    (chosen : chooseClassName options skillName = .ok className) :
    Text.isCIdentifier className = true := by
  unfold chooseClassName at chosen
  split at chosen
  · next isSet =>
      cases chosen
      exact isCIdentifier_of_fault? holds isSet
  · split at chosen
    · next named =>
        cases chosen
        exact Naming.isCIdentifier_of_className? named
    · cases chosen

end Generation
end SkillNode
