import SkillNode.Interface.Field

/-!
# Comments and quotes

A comment starts at a number sign outside quotes. Which quote is open after some text is
decided by that text alone, so the search for a comment goes on from there: a text keeps all
its characters exactly if each of its parts does, with the quote that the parts before it leave
open.
-/

namespace SkillNode
namespace Interface

/-- The quote that is open after a character, if one is. -/
def quoteAfterChar : Option Char → Char → Option Char
  | some quote, c => if c = quote then none else some quote
  | none, c => if isQuote c then some c else none

/-- The quote that is open after a text, if one is, when another may be open before it. -/
def quoteAfter (quote? : Option Char) (text : Text) : Option Char :=
  text.foldl quoteAfterChar quote?

/-- Whether a text holds no comment when a quote may be open before it. -/
def KeepsAll (quote? : Option Char) (text : Text) : Prop := stripCommentWithin quote? text = text

variable {quote? : Option Char} {quote c : Char} {start rest text : Text}

theorem not_isQuote_sign : isQuote '#' = false := by decide

/-- A quote is open after a character that opens it, and after any other than itself if it was
open before. -/
theorem quoteAfterChar_eq_some_iff :
    quoteAfterChar quote? c = some quote ↔
      (quote? = none ∧ c = quote ∧ isQuote quote = true) ∨ (quote? = some quote ∧ c ≠ quote) := by
  cases quote? with
  | none =>
      rw [quoteAfterChar, Option.ite_none_right_eq_some, Option.some_inj, and_comm]
      simp only [reduceCtorEq, false_and, or_false, true_and]
      exact and_congr_right fun isSame => by rw [isSame]
  | some other =>
      rw [quoteAfterChar, Option.ite_none_left_eq_some, Option.some_inj, and_comm]
      simp only [reduceCtorEq, false_and, false_or]
      exact and_congr_right fun isSame => by rw [isSame]

@[simp] theorem keepsAll_nil : KeepsAll quote? [] := by
  simp [KeepsAll, stripCommentWithin]

/-- A character is kept unless it starts a comment, and what follows it is looked at with the
quote that is open then. -/
theorem stripCommentWithin_cons (differs : quote? = none → c ≠ '#') :
    stripCommentWithin quote? (c :: rest) =
      c :: stripCommentWithin (quoteAfterChar quote? c) rest := by
  cases quote? with
  | some quote => rfl
  | none =>
      rw [stripCommentWithin, quoteAfterChar]
      split
      · rfl
      · rw [if_neg (differs rfl)]

theorem stripCommentWithin_sign : stripCommentWithin none ('#' :: rest) = [] := by
  simp [stripCommentWithin, not_isQuote_sign]

theorem keepsAll_cons_iff :
    KeepsAll quote? (c :: rest) ↔
      (quote? = none → c ≠ '#') ∧ KeepsAll (quoteAfterChar quote? c) rest := by
  by_cases differs : quote? = none → c ≠ '#'
  · simp only [KeepsAll, stripCommentWithin_cons differs, List.cons.injEq, true_and]
    exact ⟨fun restKept => ⟨differs, restKept⟩, And.right⟩
  · obtain ⟨rfl, isSign⟩ := Classical.not_imp.mp differs
    obtain rfl := Decidable.not_not.mp isSign
    simp [KeepsAll, stripCommentWithin_sign]

/-- A part without a comment is kept, and what follows it is read with the quote that it leaves
open. -/
theorem stripCommentWithin_append (kept : KeepsAll quote? start) :
    stripCommentWithin quote? (start ++ rest) =
      start ++ stripCommentWithin (quoteAfter quote? start) rest := by
  induction start generalizing quote? with
  | nil => rfl
  | cons c start startHypothesis =>
      obtain ⟨differs, startKept⟩ := keepsAll_cons_iff.mp kept
      rw [List.cons_append, stripCommentWithin_cons differs, startHypothesis startKept]
      rfl

/-- A text keeps all exactly if its parts do, each with the quote that the part before it
leaves open. -/
theorem keepsAll_append_iff :
    KeepsAll quote? (start ++ rest) ↔
      KeepsAll quote? start ∧ KeepsAll (quoteAfter quote? start) rest := by
  induction start generalizing quote? with
  | nil => simp [quoteAfter]
  | cons c start startHypothesis =>
      rw [List.cons_append, keepsAll_cons_iff, keepsAll_cons_iff, startHypothesis, and_assoc]
      rfl

/-- A text without number signs keeps all. -/
theorem keepsAll_of_notMem (noSign : '#' ∉ text) : KeepsAll quote? text := by
  induction text generalizing quote? with
  | nil => exact keepsAll_nil
  | cons c rest restHypothesis =>
      obtain ⟨differs, restFree⟩ : '#' ≠ c ∧ '#' ∉ rest := by simpa using noSign
      exact keepsAll_cons_iff.mpr ⟨fun _ => differs.symm, restHypothesis restFree⟩

/-- What is left without its comment has no comment. -/
theorem keepsAll_stripCommentWithin : KeepsAll quote? (stripCommentWithin quote? text) := by
  induction text generalizing quote? with
  | nil => exact keepsAll_nil
  | cons c rest restHypothesis =>
      by_cases differs : quote? = none → c ≠ '#'
      · rw [stripCommentWithin_cons differs]
        exact keepsAll_cons_iff.mpr ⟨differs, restHypothesis⟩
      · obtain ⟨rfl, isSign⟩ := Classical.not_imp.mp differs
        obtain rfl := Decidable.not_not.mp isSign
        rw [stripCommentWithin_sign]
        exact keepsAll_nil

/-- A quote is no blank. -/
theorem not_isQuote_of_isBlank {d : Char} (isBlank : Text.isBlank d = true) :
    isQuote d = false := by
  rw [isQuote, Bool.or_eq_false_iff, decide_eq_false_iff_not, decide_eq_false_iff_not]
  constructor
  · rintro rfl
    exact absurd isBlank (by decide)
  · rintro rfl
    exact absurd isBlank (by decide)

/-- Blanks open no quote. -/
theorem quoteAfter_of_blank (allBlank : ∀ d ∈ text, Text.isBlank d = true) :
    quoteAfter none text = none := by
  induction text with
  | nil => rfl
  | cons d rest restHypothesis =>
      have opensNot := not_isQuote_of_isBlank (allBlank d (List.mem_cons_self ..))
      have goesOn : quoteAfter none (d :: rest) = quoteAfter none rest := by
        simp [quoteAfter, quoteAfterChar, opensNot]
      rw [goesOn]
      exact restHypothesis fun e member => allBlank e (List.mem_cons_of_mem _ member)

/-- What stands after blanks keeps all if the whole does. -/
theorem KeepsAll.of_blank
    (kept : KeepsAll none (start ++ rest))
    (allBlank : ∀ d ∈ start, Text.isBlank d = true) :
    KeepsAll none rest := by
  have restKept := (keepsAll_append_iff.mp kept).2
  rwa [quoteAfter_of_blank allBlank] at restKept

end Interface
end SkillNode
