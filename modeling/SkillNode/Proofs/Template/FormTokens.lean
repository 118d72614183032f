import SkillNode.Proofs.Template.CutTexts
import SkillNode.Proofs.Template.ReaderSteps
import SkillNode.Proofs.Text.Identifiers

/-!
# Forms and their tokens

A form is a template of literal text with placeholders of single names. Cut into tokens it is
what it looks like: its texts as they are, whatever braces and signs they hold, and between them
each name in its output tag.
-/

namespace SkillNode
namespace Template

/-! ## Forms -/

/-- Text in which no tag begins and all line ends are line feeds. -/
structure IsLiteral (text : Text) : Prop where
  noDollar : '$' ∉ text
  noStatement : ¬ ['{', '%'] <:+: text
  noComment : ¬ ['{', '#'] <:+: text
  noReturn : '\r' ∉ text

/-- A name that is read as a name and stands for itself. -/
structure IsOrdinaryName (name : Text) : Prop extends TokenReader.StandsAlone name where
  isIdentifier : Text.isIdentifier name = true

/-- A placeholder of a name and the literal text after it. -/
structure Slot where
  name : Text
  text : Text
  isOrdinary : IsOrdinaryName name
  isLiteral : IsLiteral text

/-- A placeholder as it is written, with the text after it. -/
def Slot.source (slot : Slot) : Text := '$' :: (slot.name ++ '$' :: slot.text)

/-- Literal text with placeholders. -/
structure Form where
  start : Text
  isLiteral : IsLiteral start
  slots : List Slot

/-- A form as it is written. -/
def Form.source (form : Form) : Text := form.start ++ form.slots.flatMap Slot.source

/-! ## Literal text -/

section Literal

variable {c : Char} {chunk : Text}

theorem IsLiteral.tail (isLiteral : IsLiteral (c :: chunk)) : IsLiteral chunk where
  noDollar member := isLiteral.noDollar (List.mem_cons_of_mem _ member)
  noStatement inside := isLiteral.noStatement (inside.trans (List.suffix_cons c chunk).isInfix)
  noComment inside := isLiteral.noComment (inside.trans (List.suffix_cons c chunk).isInfix)
  noReturn member := isLiteral.noReturn (List.mem_cons_of_mem _ member)

/-- What follows literal text and makes no tag of its end. -/
def EndsLiteral (after : Text) : Prop := after = [] ∨ ∃ rest, after = '$' :: rest

/-- Two characters in a row stand in literal text only if both of them do. -/
theorem isInfix_of_literal_append
    {first second : Char}
    {after rest : Text}
    (ends : EndsLiteral after)
    (noDollar : second ≠ '$')
    (whole : c :: (chunk ++ after) = first :: second :: rest) :
    [first, second] <:+: c :: chunk := by
  obtain ⟨rfl, follows⟩ := List.cons.inj whole
  cases chunk with
  | nil =>
      rcases ends with rfl | ⟨others, rfl⟩
      · cases follows
      · exact absurd (List.cons.inj follows).1.symm noDollar
  | cons d chunk =>
      obtain ⟨rfl, -⟩ := List.cons.inj follows
      exact (List.prefix_append [c, d] chunk).isInfix

/-- No tag begins at a character of literal text. -/
theorem openingAt?_literal
    (isLiteral : IsLiteral (c :: chunk))
    {after : Text}
    (ends : EndsLiteral after) :
    openingAt? (c :: (chunk ++ after)) = none := by
  unfold openingAt?
  split
  · next whole =>
      exact absurd (isInfix_of_literal_append ends (by decide) whole) isLiteral.noStatement
  · next whole =>
      exact absurd (isInfix_of_literal_append ends (by decide) whole) isLiteral.noComment
  · next whole =>
      obtain ⟨rfl, -⟩ := List.cons.inj whole
      exact absurd (List.mem_cons_self ..) isLiteral.noDollar
  · rfl

/-- Literal text at the end of a template has no tag. -/
theorem firstOpening?_literal (isLiteral : IsLiteral chunk) : firstOpening? chunk = none := by
  induction chunk with
  | nil => rfl
  | cons c chunk chunkHypothesis =>
      have noTag := openingAt?_literal isLiteral (.inl rfl)
      rw [List.append_nil] at noTag
      rw [firstOpening?, noTag, chunkHypothesis isLiteral.tail]
      rfl

/-- The first tag after literal text is the one that follows it. -/
theorem firstOpening?_literal_append
    (isLiteral : IsLiteral chunk)
    {rest : Text}
    {opening : Opening}
    (opens : openingAt? ('$' :: rest) = some opening) :
    firstOpening? (chunk ++ '$' :: rest) = some (chunk, opening) := by
  induction chunk with
  | nil => rw [List.nil_append, firstOpening?, opens]
  | cons c chunk chunkHypothesis =>
      rw [List.cons_append, firstOpening?, openingAt?_literal isLiteral (.inr ⟨rest, rfl⟩),
        chunkHypothesis isLiteral.tail]
      rfl

end Literal

/-! ## Names in tags -/

section Names

variable {name : Text} (isName : Text.isIdentifier name = true)

include isName

/-- No number begins at a name. -/
theorem readNumber?_name (rest : Text) : readNumber? (name ++ rest) = none := by
  obtain ⟨first, others, rfl, starts⟩ := Text.exists_start_of_isIdentifier isName
  have noDigit := Text.isDigit_of_isIdentifierStart starts
  unfold readNumber?
  split
  · next whole =>
      obtain ⟨rfl, -⟩ := List.cons.inj whole
      cases noDigit
  · next whole =>
      obtain ⟨rfl, -⟩ := List.cons.inj whole
      rw [if_neg (Bool.eq_false_iff.mp noDigit)]
  · rfl

theorem afterFraction?_name (rest : Text) : afterFraction? (name ++ rest) = none := by
  obtain ⟨first, others, rfl, starts⟩ := Text.exists_start_of_isIdentifier isName
  have noDigit := Text.isDigit_of_isIdentifierStart starts
  rw [List.cons_append, afterFraction?, afterDigits?, if_neg (Bool.eq_false_iff.mp noDigit)]

/-- A name is cut off whole. -/
theorem cutToken_name
    (afterPoint : Bool)
    {rest : Text}
    (ends : ∀ c, rest.head? = some c → Text.isWordCharacter c = false) :
    cutToken afterPoint (name ++ rest) = (.name name, rest) := by
  have noFraction : (if afterPoint then none else afterFraction? (name ++ rest)) = none := by
    rw [afterFraction?_name isName, ite_self]
  have taken : (name ++ rest).takeWhile Text.isWordCharacter = name := by
    rw [List.takeWhile_append_of_pos (Text.isWordCharacter_of_mem_identifier isName)]
    cases rest with
    | nil => simp
    | cons c rest => simp [ends c rfl]
  have notEmpty : name.isEmpty = false := by
    obtain ⟨first, others, rfl, -⟩ := Text.exists_start_of_isIdentifier isName
    rfl
  unfold cutToken
  simp only [noFraction, readNumber?_name isName, taken, notEmpty, Bool.not_false, if_true, isName,
    List.drop_left]

/-- No sign of a tag is taken for a part of a name. -/
theorem strip_take_name (rest : Text) : StripSign.take (name ++ rest) = (.plain, name ++ rest) := by
  obtain ⟨first, others, rfl, starts⟩ := Text.exists_start_of_isIdentifier isName
  unfold StripSign.take
  split
  · next whole =>
      obtain ⟨rfl, -⟩ := List.cons.inj whole
      cases starts
  · next whole =>
      obtain ⟨rfl, -⟩ := List.cons.inj whole
      cases starts
  · rfl

/-- An output tag does not end before a name. -/
theorem afterOutputEnd?_name (rest : Text) : afterOutputEnd? (name ++ rest) = none := by
  obtain ⟨first, others, rfl, starts⟩ := Text.exists_start_of_isIdentifier isName
  unfold afterOutputEnd?
  split
  · next whole =>
      obtain ⟨rfl, -⟩ := List.cons.inj whole
      cases starts
  · next whole =>
      obtain ⟨rfl, -⟩ := List.cons.inj whole
      cases starts
  · rfl

end Names

/-! ## Tokens of forms -/

/-- The tokens of text on a line and of placeholders after it. -/
def formTokens (line : Nat) (text : Text) : List Slot → List PlacedToken
  | [] => dataToken line text
  | slot :: slots =>
      let slotLine := line + Text.lineFeeds text
      dataToken line text ++
        ⟨slotLine, .outputBegin⟩ :: ⟨slotLine, .name slot.name⟩ :: ⟨slotLine, .outputEnd⟩ ::
          formTokens slotLine slot.text slots

theorem keptBefore_output (lineStarting : Bool) (text : Text) :
    keptBefore lineStarting true .plain text = text := rfl

/-- The name in an output tag is cut off, and then the end of the tag. -/
theorem tokensFrom_name
    {name : Text}
    (isName : Text.isIdentifier name = true)
    (fuel line : Nat)
    (rest : Text) :
    tokensFrom (fuel + 2) (.inTag true [] false) line (name ++ '$' :: rest) =
      ⟨line, .name name⟩ :: ⟨line, .outputEnd⟩ :: tokensFrom fuel (.inText false) line rest := by
  have endsWord : ∀ c, ('$' :: rest).head? = some c → Text.isWordCharacter c = false := by
    rintro c ⟨⟩
    decide
  have cut := cutToken_name isName false endsWord
  have noEnd := afterOutputEnd?_name isName ('$' :: rest)
  have takenName := takenBefore_append name ('$' :: rest)
  have takenEnd : takenBefore ('$' :: rest) rest = ['$'] := takenBefore_append ['$'] rest
  have isEnd : afterOutputEnd? ('$' :: rest) = some rest := rfl
  have afterName : tokensFrom (fuel + 1) (.inTag true [] false) line ('$' :: rest) =
      ⟨line, .outputEnd⟩ :: tokensFrom fuel (.inText false) line rest := by
    rw [tokensFrom]
    simp only [List.isEmpty_nil, Bool.not_true, Bool.false_eq_true, if_false, if_true, isEnd,
      takenEnd]
    rfl
  obtain ⟨first, others, rfl, starts⟩ := Text.exists_start_of_isIdentifier isName
  have notBlank : Text.isBlank first = false :=
    Text.isBlank_of_isWordCharacter
      (Text.isWordCharacter_of_mem_identifier isName first (List.mem_cons_self ..))
  rw [List.cons_append] at cut noEnd takenName ⊢
  rw [tokensFrom]
  simp only [List.isEmpty_nil, Bool.not_true, Bool.false_eq_true, if_false, if_true, noEnd,
    notBlank, cut, takenName, Text.lineFeeds_identifier isName, Nat.add_zero, afterName]

/-- Literal text and the placeholder after it are cut into what they look like. -/
theorem tokensFrom_placeholder
    {text name : Text}
    (isLiteral : IsLiteral text)
    (isName : Text.isIdentifier name = true)
    (lineStarting : Bool)
    (fuel line : Nat)
    (rest : Text) :
    tokensFrom (fuel + 3) (.inText lineStarting) line (text ++ '$' :: (name ++ '$' :: rest)) =
      dataToken line text ++ ⟨line + Text.lineFeeds text, .outputBegin⟩ ::
        ⟨line + Text.lineFeeds text, .name name⟩ :: ⟨line + Text.lineFeeds text, .outputEnd⟩ ::
          tokensFrom fuel (.inText false) (line + Text.lineFeeds text) rest := by
  have opens : openingAt? ('$' :: (name ++ '$' :: rest)) =
      some ⟨.output, .plain, name ++ '$' :: rest⟩ := by
    simp only [openingAt?, strip_take_name isName]
  rw [tokensFrom, firstOpening?_literal_append isLiteral opens]
  simp only [decide_true, keptBefore_output, tokensFrom_name isName]

theorem source_cons_append (slot : Slot) (slots : List Slot) :
    (slot :: slots).flatMap Slot.source =
      '$' :: (slot.name ++ '$' :: (slot.text ++ slots.flatMap Slot.source)) := by
  rw [List.flatMap_cons, Slot.source, List.cons_append, List.append_assoc, List.cons_append]

/-- Literal text and placeholders are cut into what they look like. -/
theorem tokensFrom_slots
    (slots : List Slot)
    {text : Text}
    (isLiteral : IsLiteral text)
    (lineStarting : Bool)
    {fuel : Nat}
    (enough : (text ++ slots.flatMap Slot.source).length < fuel)
    (line : Nat) :
    tokensFrom fuel (.inText lineStarting) line (text ++ slots.flatMap Slot.source) =
      formTokens line text slots := by
  induction slots generalizing text lineStarting fuel line with
  | nil =>
      obtain ⟨fuel, rfl⟩ := Nat.exists_eq_succ_of_ne_zero (Nat.ne_zero_of_lt enough)
      rw [List.flatMap_nil, List.append_nil, tokensFrom, firstOpening?_literal isLiteral]
      rfl
  | cons slot slots slotsHypothesis =>
      have isName := slot.isOrdinary.isIdentifier
      rw [source_cons_append] at enough ⊢
      -- Cutting a placeholder takes three steps, and it has three characters at least.
      have enoughLater : (slot.text ++ slots.flatMap Slot.source).length + 3 < fuel := by
        obtain ⟨first, more, isCons, -⟩ := Text.exists_start_of_isIdentifier isName
        rw [isCons] at enough
        simp only [List.length_append, List.length_cons] at enough ⊢
        omega
      obtain ⟨more, rfl⟩ := Nat.exists_eq_add_of_lt enoughLater
      rw [Nat.add_right_comm _ 3, Nat.add_right_comm _ 3, tokensFrom_placeholder isLiteral isName,
        slotsHypothesis slot.isLiteral false (Nat.lt_succ_of_le (Nat.le_add_right _ _)), formTokens]

/-- The tokens of a form, and the ending. -/
theorem exists_tokens_form (form : Form) :
    ∃ line, tokens form.source =
      formTokens 1 form.start form.slots ++ [⟨line, .ending⟩] := by
  have cut := tokensFrom_slots form.slots form.isLiteral true
    (Nat.lt_succ_self (form.start ++ form.slots.flatMap Slot.source).length) 1
  rw [tokens, Form.source, cut]
  exact ⟨_, rfl⟩

end Template
end SkillNode
