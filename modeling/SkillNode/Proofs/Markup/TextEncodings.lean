import SkillNode.Proofs.Markup.EndMarks
import SkillNode.Proofs.Text.Utf8

/-!
# Encodings of texts

A text stands for its bytes in UTF-8, but a document is read in the encoding that its first bytes
give away or that it declares. UTF-8 and Latin-1 admit all bytes of a text, whatever they make of
them; ASCII admits them if all characters are of ASCII, and an encoding beside these if its
converter takes all of them.
-/

namespace SkillNode
namespace Markup

open Text (decodeUtf8 utf8 utf8Of)

/-! ## ASCII -/

theorem whole_decodeAscii_iff {bytes : Bytes} :
    (decodeAscii bytes).whole = true ↔ ∀ byte ∈ bytes, byte < 0x80 := by
  induction bytes with
  | nil => exact iff_of_true rfl nofun
  | cons byte rest restHypothesis =>
      rw [decodeAscii, List.forall_mem_cons, ← restHypothesis]
      split
      · next isAscii => exact (and_iff_right isAscii).symm
      · next notAscii => exact iff_of_false Bool.false_ne_true fun both => notAscii both.1

/-- Only the characters of ASCII are written in bytes of ASCII. -/
theorem utf8Of_isAscii_iff {c : Char} : (∀ byte ∈ utf8Of c, byte < 0x80) ↔ c.toNat < 0x80 := by
  have bound := Text.toNat_lt c
  unfold utf8Of
  dsimp only
  split
  · next isAscii =>
      refine iff_of_true (fun byte member => ?_) isAscii
      rw [List.mem_singleton.mp member, UInt8.lt_iff_toNat_lt, Text.toNat_toUInt8 (by omega)]
      exact isAscii
  · next notAscii =>
      refine iff_of_false (fun areAscii => ?_) notAscii
      -- The first byte of a longer character announces its length.
      have firstByte : ∀ {number : Nat} {others : Bytes}, 0x80 ≤ number → number < 256 →
          ¬ ∀ byte ∈ number.toUInt8 :: others, byte < 0x80 := by
        intro number others isLeast small areSmall
        have first := areSmall _ List.mem_cons_self
        rw [UInt8.lt_iff_toNat_lt, Text.toNat_toUInt8 small] at first
        exact absurd first (Nat.not_lt.mpr isLeast)
      split at areAscii
      · exact firstByte (by omega) (by omega) areAscii
      · split at areAscii <;> exact firstByte (by omega) (by omega) areAscii

theorem utf8_isAscii_iff {text : Text} :
    (∀ byte ∈ utf8 text, byte < 0x80) ↔ ∀ c ∈ text, c.toNat < 0x80 := by
  unfold utf8
  simp only [List.mem_flatMap, forall_exists_index, and_imp]
  constructor
  · intro areAscii c member
    exact utf8Of_isAscii_iff.mp fun byte isByte => areAscii byte c member isByte
  · intro areAscii byte c member isByte
    exact utf8Of_isAscii_iff.mpr (areAscii c member) byte isByte

/-! ## All encodings -/

/-- An encoding admits the bytes of a text in UTF-8. -/
inductive Encoding.Admits (converters : Converters) (text : Text) : Encoding → Prop
  | utf8 : Admits converters text .utf8
  | latin1 : Admits converters text .latin1
  | ascii : (∀ c ∈ text, c.toNat < 0x80) → Admits converters text .ascii
  | utf16 {littleEndian : Bool} :
      (decodeUnits16 (units16 littleEndian (Text.utf8 text))).whole = true →
        Admits converters text (.utf16 littleEndian)
  | other {name : Text} {convert : Bytes → Text.Decoded} :
      converters name = some convert → (convert (Text.utf8 text)).whole = true →
        Admits converters text (.other name)

variable {converters : Converters} {text : Text}

theorem whole_decode_utf8_iff {encoding : Encoding} :
    (encoding.decode (utf8 text) converters).whole = true ↔ encoding.Admits converters text := by
  cases encoding with
  | utf8 =>
      rw [Encoding.decode, Text.decodeUtf8_utf8]
      exact iff_of_true rfl .utf8
  | utf16 littleEndian => exact ⟨.utf16, fun (.utf16 whole) => whole⟩
  | latin1 => exact iff_of_true rfl .latin1
  | ascii =>
      exact (whole_decodeAscii_iff.trans utf8_isAscii_iff).trans
        ⟨.ascii, fun (.ascii areAscii) => areAscii⟩
  | other name =>
      rw [Encoding.decode]
      constructor
      · intro whole
        cases found : converters name with
        | none => simp [found, Text.Decoded.stopped] at whole
        | some convert => exact .other found (by simpa [found] using whole)
      · rintro (_ | _ | _ | _ | ⟨found, whole⟩)
        rw [found]
        exact whole

/-- The bytes of a text are taken for UTF-16 by their shape only, and after a byte order mark of
UTF-8 stand the bytes of a text. -/
theorem sniff_utf8 (text : Text) :
    sniff (utf8 text) = (none, utf8 text) ∨
      (∃ littleEndian, sniff (utf8 text) = (some (.utf16 littleEndian), utf8 text)) ∨
        ∃ rest, sniff (utf8 text) = (some .utf8, rest) ∧ (decodeUtf8 rest).whole = true := by
  have whole : (decodeUtf8 (utf8 text)).whole = true := by rw [Text.decodeUtf8_utf8]
  generalize utf8 text = bytes at whole ⊢
  unfold sniff
  split
  · next rest =>
      have isMark : Text.charWithin? 0x800
          (((0xEF : UInt8).toNat - 0xE0) * 4096 + 0x3B * 64 + 0x3F) = some '\uFEFF' := by
        decide
      rw [Text.decodeUtf8_three (by decide) ⟨rfl, rfl⟩ isMark] at whole
      exact .inr (.inr ⟨rest, rfl, whole⟩)
  -- The bytes of the marks of UTF-16 stand in no text.
  · rw [Text.decodeUtf8_of_noFirst (by decide)] at whole
    cases whole
  · rw [Text.decodeUtf8_of_noFirst (by decide)] at whole
    cases whole
  · exact .inr (.inl ⟨true, rfl⟩)
  · exact .inr (.inl ⟨false, rfl⟩)
  · exact .inl rfl

/-- All bytes of a text are decoded exactly if the encoding that they are read in admits them. -/
theorem whole_decodedOf_utf8_iff :
    (decodedOf (utf8 text) converters).whole = true ↔
      (encodingOf (utf8 text) converters).1.Admits converters text := by
  unfold decodedOf encodingOf
  rcases sniff_utf8 text with unmarked | ⟨littleEndian, shaped⟩ | ⟨rest, marked, whole⟩
  · rw [unmarked]
    exact whole_decode_utf8_iff
  · rw [shaped]
    exact whole_decode_utf8_iff
  · rw [marked]
    exact iff_of_true whole .utf8

end Markup
end SkillNode
