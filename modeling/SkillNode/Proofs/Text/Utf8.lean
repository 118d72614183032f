import SkillNode.Text.Utf8

/-!
# UTF-8 and back

The bytes of a text in UTF-8 are decoded to the text again, character by character: the first
byte announces how many bytes the character has, and the payloads of these make up its code.
-/

namespace SkillNode
namespace Text

/-! ## Bytes -/

theorem toNat_toUInt8 {number : Nat} (small : number < 256) : number.toUInt8.toNat = number :=
  UInt8.toNat_ofNat_of_lt small

theorem not_isAscii {byte : UInt8} (high : 0x80 ≤ byte.toNat) : ¬ byte < 0x80 := by
  rw [UInt8.lt_iff_toNat_lt]
  exact Nat.not_lt.mpr high

theorem isBetween_iff {least bound byte : UInt8} :
    (least ≤ byte && byte < bound) = true ↔
      least.toNat ≤ byte.toNat ∧ byte.toNat < bound.toNat := by
  rw [Bool.and_eq_true, decide_eq_true_iff, decide_eq_true_iff, UInt8.le_iff_toNat_le,
    UInt8.lt_iff_toNat_lt]

theorem not_isBetween {least bound byte : UInt8} (above : bound.toNat ≤ byte.toNat) :
    ¬ (least ≤ byte && byte < bound) = true :=
  fun between => Nat.not_lt.mpr above (isBetween_iff.mp between).2

/-- The payload of a byte that continues a character. -/
theorem continuation?_toUInt8 {payload : Nat} (small : payload < 64) :
    continuation? (0x80 + payload).toUInt8 = some payload := by
  have value : (0x80 + payload).toUInt8.toNat = 0x80 + payload := toNat_toUInt8 (by omega)
  unfold continuation?
  simp only [UInt8.le_iff_toNat_le, UInt8.lt_iff_toNat_lt, value]
  rw [if_pos (by simp; omega), Nat.add_sub_cancel_left]

theorem toNat_lt (c : Char) : c.toNat < 0x110000 := by
  have valid : c.toNat.isValidChar := c.valid
  unfold Nat.isValidChar at valid
  omega

theorem charWithin?_toNat {c : Char} {least : Nat} (isLeast : least ≤ c.toNat) :
    charWithin? least c.toNat = some c := by
  have valid : c.toNat.isValidChar := c.valid
  unfold charWithin?
  rw [if_pos (by simp [isLeast, valid]), Char.ofNat_toNat]

/-! ## Characters -/

section Lengths

variable {first second third fourth : UInt8} {high middle low : Nat} {c : Char}

theorem decodeUtf8_one (isFirst : first < 0x80) (rest : Bytes) :
    decodeUtf8 (first :: rest) = (decodeUtf8 rest).push (Char.ofNat first.toNat) := by
  rw [decodeUtf8.eq_def (first :: rest)]
  exact if_pos isFirst

theorem decodeUtf8_two
    (isFirst : 0xC0 ≤ first.toNat ∧ first.toNat < 0xE0)
    (continues : continuation? second = some low)
    (isCode : charWithin? 0x80 ((first.toNat - 0xC0) * 64 + low) = some c)
    (rest : Bytes) :
    decodeUtf8 (first :: second :: rest) = (decodeUtf8 rest).push c := by
  have notAscii : ¬ first < 0x80 := not_isAscii (by omega)
  have isTwo : (0xC0 ≤ first && first < 0xE0) = true := isBetween_iff.mpr isFirst
  rw [decodeUtf8.eq_def (first :: _)]
  dsimp only
  rw [if_neg notAscii, if_pos isTwo, continues, Option.bind_some, isCode]

theorem decodeUtf8_three
    (isFirst : 0xE0 ≤ first.toNat ∧ first.toNat < 0xF0)
    (continues : continuation? second = some middle ∧ continuation? third = some low)
    (isCode : charWithin? 0x800 ((first.toNat - 0xE0) * 4096 + middle * 64 + low) = some c)
    (rest : Bytes) :
    decodeUtf8 (first :: second :: third :: rest) = (decodeUtf8 rest).push c := by
  have notAscii : ¬ first < 0x80 := not_isAscii (by omega)
  have notTwo : ¬ (0xC0 ≤ first && first < 0xE0) = true := not_isBetween isFirst.1
  have isThree : (0xE0 ≤ first && first < 0xF0) = true := isBetween_iff.mpr isFirst
  rw [decodeUtf8.eq_def (first :: _)]
  dsimp only
  rw [if_neg notAscii, if_neg notTwo, if_pos isThree, continues.1, continues.2, Option.bind_some,
    Option.bind_some, isCode]

theorem decodeUtf8_four
    (isFirst : 0xF0 ≤ first.toNat ∧ first.toNat < 0xF8)
    (continues : continuation? second = some high ∧ continuation? third = some middle ∧
      continuation? fourth = some low)
    (isCode : charWithin? 0x10000
      ((first.toNat - 0xF0) * 262144 + high * 4096 + middle * 64 + low) = some c)
    (rest : Bytes) :
    decodeUtf8 (first :: second :: third :: fourth :: rest) = (decodeUtf8 rest).push c := by
  have notAscii : ¬ first < 0x80 := not_isAscii (by omega)
  have notTwo : ¬ (0xC0 ≤ first && first < 0xE0) = true :=
    not_isBetween (Nat.le_trans (by decide) isFirst.1)
  have notThree : ¬ (0xE0 ≤ first && first < 0xF0) = true := not_isBetween isFirst.1
  have isFour : (0xF0 ≤ first && first < 0xF8) = true := isBetween_iff.mpr isFirst
  obtain ⟨isSecond, isThird, isFourth⟩ := continues
  rw [decodeUtf8.eq_def (first :: _)]
  dsimp only
  rw [if_neg notAscii, if_neg notTwo, if_neg notThree, if_pos isFour, isSecond, isThird, isFourth,
    Option.bind_some, Option.bind_some, Option.bind_some, isCode]

/-- A byte that announces no character stops the decoding. -/
theorem decodeUtf8_of_noFirst (isNoFirst : 0xF8 ≤ first.toNat) (rest : Bytes) :
    decodeUtf8 (first :: rest) = .stopped := by
  have notAscii : ¬ first < 0x80 := not_isAscii (by omega)
  have notTwo : ¬ (0xC0 ≤ first && first < 0xE0) = true :=
    not_isBetween (Nat.le_trans (by decide) isNoFirst)
  have notThree : ¬ (0xE0 ≤ first && first < 0xF0) = true :=
    not_isBetween (Nat.le_trans (by decide) isNoFirst)
  have notFour : ¬ (0xF0 ≤ first && first < 0xF8) = true := not_isBetween isNoFirst
  rw [decodeUtf8.eq_def (first :: _)]
  dsimp only
  rw [if_neg notAscii, if_neg notTwo, if_neg notThree, if_neg notFour]

end Lengths

/-- The bytes of a character are decoded to it. -/
theorem decodeUtf8_utf8Of_append (c : Char) (rest : Bytes) :
    decodeUtf8 (utf8Of c ++ rest) = (decodeUtf8 rest).push c := by
  have bound := toNat_lt c
  unfold utf8Of
  dsimp only
  split
  · next isAscii =>
      have value : c.toNat.toUInt8.toNat = c.toNat := toNat_toUInt8 (by omega)
      have isFirst : c.toNat.toUInt8 < 0x80 := by
        rwa [UInt8.lt_iff_toNat_lt, value]
      rw [List.singleton_append, decodeUtf8_one isFirst, value, Char.ofNat_toNat]
  · split
    · next isTwo =>
        have value : (0xC0 + c.toNat / 64).toUInt8.toNat = 0xC0 + c.toNat / 64 :=
          toNat_toUInt8 (by omega)
        refine decodeUtf8_two (by omega) (continuation?_toUInt8 (Nat.mod_lt _ (by decide))) ?_ rest
        have code : (0xC0 + c.toNat / 64 - 0xC0) * 64 + c.toNat % 64 = c.toNat := by omega
        rw [value, code]
        exact charWithin?_toNat (by omega)
    · split
      · next isThree =>
          have value : (0xE0 + c.toNat / 4096).toUInt8.toNat = 0xE0 + c.toNat / 4096 :=
            toNat_toUInt8 (by omega)
          refine decodeUtf8_three (by omega) ⟨continuation?_toUInt8 (Nat.mod_lt _ (by decide)),
            continuation?_toUInt8 (Nat.mod_lt _ (by decide))⟩ ?_ rest
          have code : (0xE0 + c.toNat / 4096 - 0xE0) * 4096 + c.toNat / 64 % 64 * 64 +
              c.toNat % 64 = c.toNat := by omega
          rw [value, code]
          exact charWithin?_toNat (by omega)
      · have value : (0xF0 + c.toNat / 262144).toUInt8.toNat = 0xF0 + c.toNat / 262144 :=
          toNat_toUInt8 (by omega)
        refine decodeUtf8_four (by omega) ⟨continuation?_toUInt8 (Nat.mod_lt _ (by decide)),
          continuation?_toUInt8 (Nat.mod_lt _ (by decide)),
          continuation?_toUInt8 (Nat.mod_lt _ (by decide))⟩ ?_ rest
        have code : (0xF0 + c.toNat / 262144 - 0xF0) * 262144 + c.toNat / 4096 % 64 * 4096 +
            c.toNat / 64 % 64 * 64 + c.toNat % 64 = c.toNat := by omega
        rw [value, code]
        exact charWithin?_toNat (by omega)

/-- The bytes of a text are decoded to the text. -/
theorem decodeUtf8_utf8 (text : Text) : decodeUtf8 (utf8 text) = ⟨text, true⟩ := by
  induction text with
  | nil => rfl
  | cons c rest restHypothesis =>
      rw [utf8, List.flatMap_cons, decodeUtf8_utf8Of_append, ← utf8, restHypothesis]
      rfl

end Text
end SkillNode
