import Mathlib.Data.List.Basic
import SkillNode.Cpp.Literal

/-!
# Reading string literals back

A string literal of C++ is read from after its opening quote: a backslash and a mark stand for one
character, a quote ends the literal, and no line ends inside it.

The main statement says that the written form of a text, with a quote after it, is read as that
text and up to that quote. So no two texts are written alike.
-/

namespace SkillNode
namespace Cpp

/-! ## Reading -/

/-- The character that a mark after a backslash stands for. -/
def markedChar? : Char → Option Char
  | '\\' => some '\\'
  | '"' => some '"'
  | 'n' => some '\n'
  | 'r' => some '\r'
  | 't' => some '\t'
  | _ => none

/-- The text of a string literal from after its opening quote, and what follows its closing one. -/
def readLiteral? : Text → Option (Text × Text)
  | [] => none
  | '"' :: rest => some ([], rest)
  | '\n' :: _ => none
  | ['\\'] => none
  | '\\' :: mark :: rest =>
      (markedChar? mark).bind fun c => (readLiteral? rest).map (Prod.map (c :: ·) id)
  | c :: rest => (readLiteral? rest).map (Prod.map (c :: ·) id)

/-- The characters that do not stand for themselves in a literal. -/
def escapedChars : List Char := ['\\', '"', '\n', '\r', '\t']

theorem readLiteral?_marked {mark c : Char} (isMark : markedChar? mark = some c) (rest : Text) :
    readLiteral? ('\\' :: mark :: rest) = (readLiteral? rest).map (Prod.map (c :: ·) id) := by
  simp [readLiteral?, isMark]

theorem readLiteral?_plain {c : Char} (isPlain : c ∉ escapedChars) (rest : Text) :
    readLiteral? (c :: rest) = (readLiteral? rest).map (Prod.map (c :: ·) id) := by
  simp only [escapedChars, List.mem_cons, not_or] at isPlain
  obtain ⟨noBackslash, noQuote, noFeed, _⟩ := isPlain
  rw [readLiteral?]
  · exact fun isQuote => absurd isQuote noQuote
  · exact fun isFeed => absurd isFeed noFeed
  · exact fun isBackslash => absurd isBackslash noBackslash
  · exact fun _ _ isBackslash => absurd isBackslash noBackslash

/-! ## Written forms -/

/-- A character is written as a backslash and the mark that stands for it, or as itself. -/
theorem escapeChar_marked_or_plain (c : Char) :
    (∃ mark, escapeChar c = ['\\', mark] ∧ markedChar? mark = some c ∧
      mark ∉ ['\n', '\r', '\t']) ∨
      escapeChar c = [c] ∧ c ∉ escapedChars := by
  unfold escapeChar
  split
  · exact .inl ⟨_, rfl, rfl, by decide⟩
  · exact .inl ⟨_, rfl, rfl, by decide⟩
  · exact .inl ⟨_, rfl, rfl, by decide⟩
  · exact .inl ⟨_, rfl, rfl, by decide⟩
  · exact .inl ⟨_, rfl, rfl, by decide⟩
  · next noBackslash noQuote noFeed noReturn noTab =>
      have isPlain : ∀ d ∈ escapedChars, c ≠ d := by
        simp only [escapedChars, List.forall_mem_cons]
        exact ⟨noBackslash, noQuote, noFeed, noReturn, noTab, nofun⟩
      exact .inr ⟨rfl, fun member => isPlain c member rfl⟩

theorem escape_cons (c : Char) (rest : Text) : escape (c :: rest) = escapeChar c ++ escape rest :=
  rfl

/-- The written form of a text is read back as the text, and ends at the first quote after it. -/
theorem readLiteral?_escape (text rest : Text) :
    readLiteral? (escape text ++ '"' :: rest) = some (text, rest) := by
  induction text with
  | nil => rfl
  | cons c others othersHypothesis =>
      rw [escape_cons, List.append_assoc]
      rcases escapeChar_marked_or_plain c with ⟨mark, written, isMark, _⟩ | ⟨written, isPlain⟩
      · rw [written, List.cons_append, List.cons_append, List.nil_append,
          readLiteral?_marked isMark, othersHypothesis]
        rfl
      · rw [written, List.cons_append, List.nil_append, readLiteral?_plain isPlain,
          othersHypothesis]
        rfl

/-- No two texts have one written form. -/
theorem escape_injective {first second : Text} (same : escape first = escape second) :
    first = second := by
  have read := readLiteral?_escape first []
  rw [same, readLiteral?_escape second []] at read
  exact (Prod.mk.inj (Option.some.inj read)).1.symm

/-- No line feed, carriage return or tab is left in a written form. -/
theorem control_notMem_escape
    (text : Text)
    {control : Char}
    (isControl : control ∈ ['\n', '\r', '\t']) :
    control ∉ escape text := by
  intro member
  obtain ⟨c, _, inWritten⟩ := List.mem_flatMap.mp member
  rcases escapeChar_marked_or_plain c with ⟨mark, written, _, noControl⟩ | ⟨written, isPlain⟩
  · rw [written, List.mem_cons, List.mem_singleton] at inWritten
    rcases inWritten with rfl | rfl
    · exact absurd isControl (by decide)
    · exact noControl isControl
  · rw [written, List.mem_singleton] at inWritten
    subst inWritten
    exact isPlain (List.mem_cons_of_mem _ (List.mem_cons_of_mem _ isControl))

/-! ## Quotes -/

/-- Number of backslashes at the end of a text. -/
def trailingBackslashes (text : Text) : Nat := (text.reverse.takeWhile (· = '\\')).length

/-- The character after a text is escaped if the text ends in an odd number of backslashes. -/
def EscapesNext (text : Text) : Prop := trailingBackslashes text % 2 = 1

/-- A text holds a quote that nothing escapes. -/
def HoldsOpenQuote (text : Text) : Prop :=
  ∃ before after, text = before ++ '"' :: after ∧ ¬ EscapesNext before

/-- Backslashes at the end of the first of two texts count only if the second has no other
characters. -/
theorem trailingBackslashes_append (first second : Text) :
    trailingBackslashes (first ++ second) =
      if trailingBackslashes second = second.length then
        trailingBackslashes first + second.length
      else
        trailingBackslashes second := by
  by_cases allBackslashes : trailingBackslashes second = second.length
  · rw [if_pos allBackslashes]
    unfold trailingBackslashes at allBackslashes ⊢
    rw [List.reverse_append, List.takeWhile_append,
      if_pos (allBackslashes.trans List.length_reverse.symm), List.length_append,
      List.length_reverse, Nat.add_comm]
  · rw [if_neg allBackslashes]
    unfold trailingBackslashes at allBackslashes ⊢
    rw [List.reverse_append, List.takeWhile_append,
      if_neg fun all => allBackslashes (all.trans List.length_reverse)]

theorem escapesNext_cons_iff {c : Char} (noBackslash : c ≠ '\\') (text : Text) :
    EscapesNext (c :: text) ↔ EscapesNext text := by
  have alone : trailingBackslashes [c] = 0 := by simp [trailingBackslashes, noBackslash]
  have split := trailingBackslashes_append [c] text
  rw [alone, Nat.zero_add, List.singleton_append] at split
  rw [EscapesNext, EscapesNext, split]
  split
  · next allBackslashes => rw [allBackslashes]
  · exact Iff.rfl

/-- A backslash and its mark escape nothing that comes later. -/
theorem escapesNext_marked_iff (mark : Char) (text : Text) :
    EscapesNext ('\\' :: mark :: text) ↔ EscapesNext text := by
  have isEven : trailingBackslashes ['\\', mark] % 2 = 0 := by
    by_cases isBackslash : mark = '\\' <;> simp [trailingBackslashes, isBackslash]
  have split := trailingBackslashes_append ['\\', mark] text
  rw [List.cons_append, List.singleton_append] at split
  rw [EscapesNext, EscapesNext, split]
  split <;> omega

/-- Every quote in a written form is escaped. -/
theorem escapesNext_of_escape
    {text before after : Text}
    (written : escape text = before ++ '"' :: after) :
    EscapesNext before := by
  induction text generalizing before with
  | nil => simp [escape] at written
  | cons c rest restHypothesis =>
      rw [escape_cons] at written
      rcases escapeChar_marked_or_plain c with ⟨mark, image, _, _⟩ | ⟨image, isPlain⟩
      · rw [image] at written
        -- The quote is not the backslash, it is the mark, or it comes after both.
        rcases before with _ | ⟨first, _ | ⟨second, before⟩⟩
        · exact absurd (List.cons.inj written).1 (by decide)
        · obtain ⟨rfl, _⟩ := List.cons.inj written
          exact Eq.refl 1
        · obtain ⟨isBackslash, markWritten⟩ := List.cons.inj written
          obtain ⟨rfl, restWritten⟩ := List.cons.inj markWritten
          rw [← isBackslash]
          exact (escapesNext_marked_iff _ before).mpr (restHypothesis restWritten)
      · rw [image] at written
        cases before with
        | nil =>
            obtain ⟨rfl, _⟩ := List.cons.inj written
            exact absurd isPlain (by decide)
        | cons d before =>
            obtain ⟨rfl, restWritten⟩ := List.cons.inj written
            have noBackslash : c ≠ '\\' := fun isBackslash =>
              absurd (isBackslash ▸ isPlain) (by decide)
            exact (escapesNext_cons_iff noBackslash before).mpr (restHypothesis restWritten)

theorem not_holdsOpenQuote_escape (text : Text) : ¬ HoldsOpenQuote (escape text) := by
  rintro ⟨before, after, written, isOpen⟩
  exact isOpen (escapesNext_of_escape written)

/-! ## One character after the other -/

/-- Replace the characters that are escaped one after the other in a whole text, backslashes first
so that those that come in are left alone. -/
def replaceEscaped (text : Text) : Text :=
  let backslashes := Text.replaceChar '\\' ['\\', '\\'] text
  let quotes := Text.replaceChar '"' ['\\', '"'] backslashes
  let feeds := Text.replaceChar '\n' ['\\', 'n'] quotes
  let returns := Text.replaceChar '\r' ['\\', 'r'] feeds
  Text.replaceChar '\t' ['\\', 't'] returns

/-- The replacements amount to writing every character on its own. -/
theorem replaceEscaped_eq (text : Text) : replaceEscaped text = escape text := by
  simp only [replaceEscaped, Text.replaceChar, List.flatMap_assoc, escape]
  refine List.flatMap_congr fun c _ => ?_
  by_cases isBackslash : c = '\\'
  · subst isBackslash; rfl
  by_cases isQuote : c = '"'
  · subst isQuote; rfl
  by_cases isFeed : c = '\n'
  · subst isFeed; rfl
  by_cases isReturn : c = '\r'
  · subst isReturn; rfl
  by_cases isTab : c = '\t'
  · subst isTab; rfl
  simp [escapeChar, isBackslash, isQuote, isFeed, isReturn, isTab]

end Cpp
end SkillNode
