import Mathlib.Order.Nat
import SkillNode.Proofs.Interface.Comments

/-!
# Quoted positions

A quote opens where one stands at a position that is not quoted itself, and it quotes what comes
after it up to the next occurrence of the same character, that one included. A quote of the other
kind in between is text like any other, and one that does not occur again quotes all the rest.

The comment of a line starts at its first number sign that is not quoted. Reading the line from
the left with one open quote in mind finds that sign, so what is kept of a line is its prefix
before the sign, and nothing that comes after the sign matters.
-/

namespace SkillNode
namespace Interface

/-- A position is quoted if a quote that opened before it has not occurred again up to there. A
quote opens at a position that is not quoted itself. -/
def IsQuoted (text : Text) (position : Nat) : Prop :=
  ∃ opening, ∃ _ : opening < position, ∃ quote,
    text[opening]? = some quote ∧ isQuote quote = true ∧ ¬ IsQuoted text opening ∧
      ∀ between, opening < between → between < position → text[between]? ≠ some quote
termination_by position

/-- A quote that opens at a position. -/
structure Opens (text : Text) (quote : Char) (opening : Nat) : Prop where
  stands : text[opening]? = some quote
  quotes : isQuote quote = true
  unquoted : ¬ IsQuoted text opening

/-- A quote that is open at a position: it opened before and has not occurred again. -/
def IsOpenAt (text : Text) (quote : Char) (position : Nat) : Prop :=
  ∃ opening < position, Opens text quote opening ∧
    ∀ between, opening < between → between < position → text[between]? ≠ some quote

variable {text : Text} {quote c : Char} {position : Nat}

theorem isQuoted_iff : IsQuoted text position ↔ ∃ quote, IsOpenAt text quote position := by
  rw [IsQuoted]
  constructor
  · rintro ⟨opening, isBefore, quote, stands, quotes, unquoted, notAgain⟩
    exact ⟨quote, opening, isBefore, ⟨stands, quotes, unquoted⟩, notAgain⟩
  · rintro ⟨quote, opening, isBefore, ⟨stands, quotes, unquoted⟩, notAgain⟩
    exact ⟨opening, isBefore, quote, stands, quotes, unquoted, notAgain⟩

/-- Past a position a quote is open that opens there, and one that was open and does not stand
there. -/
theorem isOpenAt_succ_iff :
    IsOpenAt text quote (position + 1) ↔
      Opens text quote position ∨ IsOpenAt text quote position ∧ text[position]? ≠ some quote := by
  constructor
  · rintro ⟨opening, isBefore, opens, notAgain⟩
    rcases Nat.lt_succ_iff_lt_or_eq.mp isBefore with isEarlier | rfl
    · exact .inr ⟨⟨opening, isEarlier, opens, fun between after upTo =>
        notAgain between after (Nat.lt_succ_of_lt upTo)⟩,
        notAgain position isEarlier (Nat.lt_succ_self position)⟩
    · exact .inl opens
  · rintro (opens | ⟨⟨opening, isEarlier, opens, notAgain⟩, notHere⟩)
    · exact ⟨position, Nat.lt_succ_self position, opens, fun between after upTo => by omega⟩
    · refine ⟨opening, Nat.lt_succ_of_lt isEarlier, opens, fun between after upTo => ?_⟩
      rcases Nat.lt_succ_iff_lt_or_eq.mp upTo with isInside | rfl
      · exact notAgain between after isInside
      · exact notHere

/-! ## The open quote -/

theorem quoteAfter_take_succ (stands : text[position]? = some c) :
    quoteAfter none (text.take (position + 1)) =
      quoteAfterChar (quoteAfter none (text.take position)) c := by
  rw [List.take_add_one, stands, quoteAfter, List.foldl_append]
  rfl

theorem take_succ_of_none (isPast : text[position]? = none) :
    text.take (position + 1) = text.take position := by
  rw [List.take_add_one, isPast, Option.toList_none, List.append_nil]

/-- Reading up to a position leaves open the quote that is open there. -/
theorem quoteAfter_take_eq_some_iff :
    quoteAfter none (text.take position) = some quote ↔ IsOpenAt text quote position := by
  induction position generalizing quote with
  | zero =>
      refine iff_of_false ?_ ?_
      · rw [List.take_zero]
        exact Option.some_ne_none _ ∘ Eq.symm
      · rintro ⟨opening, isBefore, -⟩
        exact Nat.not_lt_zero _ isBefore
  | succ position positionHypothesis =>
      rw [isOpenAt_succ_iff, ← positionHypothesis]
      -- No quote is open at the position exactly if it is not quoted.
      have unquoted_iff : quoteAfter none (text.take position) = none ↔
          ¬ IsQuoted text position := by
        rw [isQuoted_iff, Option.eq_none_iff_forall_ne_some, not_exists]
        exact forall_congr' fun other => not_congr positionHypothesis
      cases stands : text[position]? with
      | none =>
          rw [take_succ_of_none stands]
          refine ⟨fun isOpen => .inr ⟨isOpen, (Option.some_ne_none quote).symm⟩, ?_⟩
          rintro (opens | ⟨isOpen, -⟩)
          · exact absurd (opens.stands.symm.trans stands) (Option.some_ne_none quote)
          · exact isOpen
      | some c =>
          rw [quoteAfter_take_succ stands, quoteAfterChar_eq_some_iff, unquoted_iff,
            Option.some_inj.ne]
          refine or_congr_left ?_
          constructor
          · rintro ⟨unquoted, rfl, quotes⟩
            exact ⟨stands, quotes, unquoted⟩
          · rintro ⟨standsHere, quotes, unquoted⟩
            exact ⟨unquoted, Option.some_inj.mp (stands.symm.trans standsHere), quotes⟩

theorem isQuoted_iff_isSome :
    IsQuoted text position ↔ (quoteAfter none (text.take position)).isSome = true := by
  rw [isQuoted_iff, Option.isSome_iff_exists]
  exact exists_congr fun quote => quoteAfter_take_eq_some_iff.symm

theorem not_isQuoted_iff :
    ¬ IsQuoted text position ↔ quoteAfter none (text.take position) = none := by
  rw [isQuoted_iff_isSome, Option.not_isSome_iff_eq_none]

instance (text : Text) (position : Nat) : Decidable (IsQuoted text position) :=
  decidable_of_iff _ isQuoted_iff_isSome.symm

/-! ## Where a comment starts -/

/-- A number sign that is not quoted. -/
structure IsUnquotedSign (text : Text) (position : Nat) : Prop where
  stands : text[position]? = some '#'
  unquoted : ¬ IsQuoted text position

instance (text : Text) (position : Nat) : Decidable (IsUnquotedSign text position) :=
  decidable_of_iff (text[position]? = some '#' ∧ ¬ IsQuoted text position)
    ⟨fun isSign => ⟨isSign.1, isSign.2⟩, fun isSign => ⟨isSign.stands, isSign.unquoted⟩⟩

/-- What stands before the comment of a line: its prefix before the first number sign that is
not quoted, or all of it if it has none. -/
inductive IsBeforeComment (text : Text) : Text → Prop
  | comment {position : Nat} (first : IsLeast {sign | IsUnquotedSign text sign} position) :
      IsBeforeComment text (text.take position)
  | noComment (noSign : ∀ position, ¬ IsUnquotedSign text position) : IsBeforeComment text text

/-- A prefix keeps all exactly if no number sign in it is unquoted. -/
theorem keepsAll_take_iff :
    KeepsAll none (text.take position) ↔ ∀ earlier < position, ¬ IsUnquotedSign text earlier := by
  induction position with
  | zero => simp
  | succ position positionHypothesis =>
      rw [Nat.forall_lt_succ_right, ← positionHypothesis]
      cases stands : text[position]? with
      | none =>
          rw [take_succ_of_none stands, iff_self_and]
          rintro - ⟨standsHere, -⟩
          exact absurd (standsHere.symm.trans stands) (Option.some_ne_none _)
      | some c =>
          rw [List.take_add_one, stands, Option.toList_some, keepsAll_append_iff,
            keepsAll_cons_iff, and_iff_left keepsAll_nil]
          refine and_congr_right' ⟨fun differs isSign => ?_, fun noSign isClosed isSign => ?_⟩
          · have isSame : c = '#' := Option.some_inj.mp (stands.symm.trans isSign.stands)
            exact differs (not_isQuoted_iff.mp isSign.unquoted) isSame
          · exact noSign ⟨isSign ▸ stands, not_isQuoted_iff.mpr isClosed⟩

/-- A line is cut before its first unquoted number sign, whatever follows it. -/
theorem stripComment_append_of_isLeast
    (first : IsLeast {sign | IsUnquotedSign text sign} position)
    (more : Text) :
    stripComment (text ++ more) = text.take position := by
  obtain ⟨⟨stands, unquoted⟩, isFirst⟩ := first
  obtain ⟨isInside, isSign⟩ := List.getElem?_eq_some_iff.mp stands
  have kept : KeepsAll none (text.take position) :=
    keepsAll_take_iff.mpr fun earlier isEarlier isSign =>
      Nat.not_le_of_lt isEarlier (isFirst isSign)
  calc stripComment (text ++ more)
      = stripComment (text.take position ++ '#' :: (text.drop (position + 1) ++ more)) := by
        rw [← isSign, ← List.cons_append, ← List.drop_eq_getElem_cons isInside,
          ← List.append_assoc, List.take_append_drop]
    _ = text.take position := by
        rw [stripComment, stripCommentWithin_append kept, not_isQuoted_iff.mp unquoted,
          stripCommentWithin_sign, List.append_nil]

theorem stripComment_of_noSign (noSign : ∀ position, ¬ IsUnquotedSign text position) :
    stripComment text = text := by
  have kept : KeepsAll none (text.take text.length) :=
    keepsAll_take_iff.mpr fun earlier _ => noSign earlier
  rwa [List.take_length] at kept

theorem exists_isBeforeComment (text : Text) : ∃ kept, IsBeforeComment text kept := by
  by_cases hasSign : ∃ position, IsUnquotedSign text position
  · exact ⟨_, .comment (Nat.isLeast_find hasSign)⟩
  · exact ⟨_, .noComment (not_exists.mp hasSign)⟩

/-- What stands before the comment of a line is what is kept of it. -/
theorem IsBeforeComment.eq_stripComment {kept : Text} (isBefore : IsBeforeComment text kept) :
    stripComment text = kept := by
  cases isBefore with
  | comment first =>
      have cut := stripComment_append_of_isLeast first []
      rwa [List.append_nil] at cut
  | noComment noSign => exact stripComment_of_noSign noSign

/-- A line is cut before its first unquoted number sign, or kept whole if it has none. What is
kept is cut no further, and what is written after such a sign changes nothing. -/
theorem stripComment_cutsAtFirstSign (text : Text) :
    (∀ kept, stripComment text = kept ↔ IsBeforeComment text kept) ∧
    stripComment (stripComment text) = stripComment text ∧
    ∀ more, (∃ position, IsUnquotedSign text position) →
      stripComment (text ++ more) = stripComment text := by
  refine ⟨fun kept => ⟨?_, IsBeforeComment.eq_stripComment⟩, keepsAll_stripCommentWithin, ?_⟩
  · rintro rfl
    obtain ⟨kept, isBefore⟩ := exists_isBeforeComment text
    exact isBefore.eq_stripComment.symm ▸ isBefore
  · intro more hasSign
    have first := Nat.isLeast_find hasSign
    rw [stripComment_append_of_isLeast first, (IsBeforeComment.comment first).eq_stripComment]

/-- Within quotes a quote of the other kind is text, so two of the number signs are quoted. -/
theorem stripComment_cutsAtFirstSign_nested :
    IsUnquotedSign "string x \"#'\" '\"#' # a" 19 ∧
      stripComment ("string x \"#'\" '\"#' # a" ++ "b") = ("string x \"#'\" '\"#' " : Text) := by
  have isSign : IsUnquotedSign "string x \"#'\" '\"#' # a" 19 := by decide
  refine ⟨isSign, ?_⟩
  rw [(stripComment_cutsAtFirstSign _).2.2 "b" ⟨19, isSign⟩]
  decide

end Interface
end SkillNode
