import SkillNode.Proofs.Text.Identifiers
import SkillNode.Template.Marker

/-!
# Places of names

The line that is given for a name is found in the raw text of a template. It is that of the first
dollar sign with the name after it, whatever stands between two dollar signs and whichever of the
two it is, or else that of the first place where the name stands as a word, in tags or outside.
-/

namespace SkillNode
namespace Template

/-! ## First places -/

/-- A place of a text, told by what stands before it, is the first of its kind. -/
structure IsFirst (stands : Text → Prop) (before : Text) : Prop where
  holds : stands before
  isLeast : ∀ earlier, stands earlier → before.length ≤ earlier.length

/-- A test holds at a place of a text: of the character before it, which may be one before the
text, and of what follows. -/
def HoldsAt (holds : Option Char → Text → Bool) (before? : Option Char) (text start : Text) :
    Prop :=
  ∃ rest, text = start ++ rest ∧ holds (start.getLast?.or before?) rest = true

section FirstLine

variable {holds : Option Char → Text → Bool} {before? : Option Char} {text : Text}

theorem holdsAt_nil_iff : HoldsAt holds before? text [] ↔ holds before? text = true := by
  constructor
  · rintro ⟨rest, rfl, here⟩
    exact here
  · exact fun here => ⟨text, rfl, here⟩

/-- A place past a character is a place of the rest. -/
theorem holdsAt_cons_iff {c d : Char} {rest start : Text} :
    HoldsAt holds before? (c :: rest) (d :: start) ↔ c = d ∧ HoldsAt holds (some c) rest start := by
  have before : ∀ c : Char, (c :: start).getLast?.or before? = start.getLast?.or (some c) := by
    intro c
    rw [List.getLast?_cons]
    cases start.getLast? <;> rfl
  constructor
  · rintro ⟨left, whole, here⟩
    obtain ⟨rfl, rfl⟩ := List.cons.inj whole
    rw [before] at here
    exact ⟨rfl, left, rfl, here⟩
  · rintro ⟨rfl, left, rfl, here⟩
    rw [← before] at here
    exact ⟨left, rfl, here⟩

theorem isFirst_nil (here : holds before? text = true) :
    IsFirst (HoldsAt holds before? text) [] :=
  ⟨holdsAt_nil_iff.mpr here, fun _ _ => Nat.zero_le _⟩

/-- Where a test does not hold at a character, its first place is that in the rest. -/
theorem IsFirst.cons
    {c : Char}
    {rest start : Text}
    (notHere : holds before? (c :: rest) = false)
    (isFirst : IsFirst (HoldsAt holds (some c) rest) start) :
    IsFirst (HoldsAt holds before? (c :: rest)) (c :: start) := by
  refine ⟨holdsAt_cons_iff.mpr ⟨rfl, isFirst.holds⟩, ?_⟩
  intro earlier holdsEarlier
  cases earlier with
  | nil =>
      rw [holdsAt_nil_iff, notHere] at holdsEarlier
      cases holdsEarlier
  | cons d earlier =>
      exact Nat.succ_le_succ (isFirst.isLeast earlier (holdsAt_cons_iff.mp holdsEarlier).2)

/-- The search gives the line of the first place. -/
theorem isFirst_of_firstLine?
    {line found : Nat}
    (isFound : firstLine? holds line before? text = some found) :
    ∃ start, IsFirst (HoldsAt holds before? text) start ∧ found = line + Text.lineFeeds start := by
  induction text generalizing before? line with
  | nil =>
      rw [firstLine?] at isFound
      split at isFound
      · next here => exact ⟨[], isFirst_nil here, (Option.some.inj isFound).symm⟩
      · cases isFound
  | cons c rest restHypothesis =>
      rw [firstLine?] at isFound
      split at isFound
      · next here => exact ⟨[], isFirst_nil here, (Option.some.inj isFound).symm⟩
      · next notHere =>
          obtain ⟨start, isFirst, rfl⟩ := restHypothesis isFound
          refine ⟨c :: start, isFirst.cons (Bool.eq_false_iff.mpr notHere), ?_⟩
          rw [Text.lineFeeds_cons, ← Nat.add_assoc]
          split <;> rfl

/-- The search ends without a line only if there is no place. -/
theorem not_holdsAt_of_firstLine?
    {line : Nat}
    (notFound : firstLine? holds line before? text = none)
    (start : Text) :
    ¬ HoldsAt holds before? text start := by
  induction text generalizing before? line start with
  | nil =>
      rw [firstLine?] at notFound
      split at notFound
      · cases notFound
      · next notHere =>
          rintro ⟨rest, whole, here⟩
          obtain ⟨rfl, rfl⟩ := List.append_eq_nil_iff.mp whole.symm
          exact notHere here
  | cons c rest restHypothesis =>
      rw [firstLine?] at notFound
      split at notFound
      · cases notFound
      · next notHere =>
          intro holdsThere
          cases start with
          | nil => exact notHere (holdsAt_nil_iff.mp holdsThere)
          | cons d start =>
              exact restHypothesis notFound start (holdsAt_cons_iff.mp holdsThere).2

end FirstLine

/-! ## Places of a name -/

/-- A name stands in a template as a word, with no word character beside it. -/
def StandsAsWord (source name before : Text) : Prop :=
  ∃ after, source = before ++ (name ++ after) ∧ isInWord before.getLast? = false ∧
    isInWord after.head? = false

/-- A dollar sign stands in a template with a name after it, perhaps after blanks. -/
def FollowsDollar (source name before : Text) : Prop :=
  ∃ blanks after, source = before ++ '$' :: (blanks ++ (name ++ after)) ∧
    (∀ c ∈ blanks, Text.isBlank c = true) ∧ isInWord after.head? = false

/-- The place that a name is looked for at: the first dollar sign with the name after it, or
without one the first place where the name stands as a word. -/
inductive IsLead (source name before : Text) : Prop
  | dollar (isFirst : IsFirst (FollowsDollar source name) before)
  | word
      (noDollar : ∀ place, ¬ FollowsDollar source name place)
      (isFirst : IsFirst (StandsAsWord source name) before)

section Name

variable {name : Text} (isName : Text.isIdentifier name = true)

include isName

theorem isInWord_getLast?_of_isIdentifier : isInWord name.getLast? = true := by
  obtain ⟨first, others, rfl, -⟩ := Text.exists_start_of_isIdentifier isName
  rw [List.getLast?_eq_some_getLast (List.cons_ne_nil first others)]
  exact Text.isWordCharacter_of_mem_identifier isName _ (List.getLast_mem _)

theorem isInWord_head?_of_isIdentifier (after : Text) : isInWord (name ++ after).head? = true := by
  obtain ⟨first, others, rfl, -⟩ := Text.exists_start_of_isIdentifier isName
  exact Text.isWordCharacter_of_mem_identifier isName first (List.mem_cons_self ..)

theorem startsWithName_iff {text : Text} :
    startsWithName name text = true ↔
      ∃ after, text = name ++ after ∧ isInWord after.head? = false := by
  have isEdge : ∀ after : Text, isWordEdge name.getLast? after.head? = true ↔
      isInWord after.head? = false := by
    intro after
    rw [isWordEdge, isInWord_getLast?_of_isIdentifier isName]
    cases isInWord after.head? <;> decide
  rw [startsWithName]
  constructor
  · intro starts
    split at starts
    · next after found =>
        exact ⟨after, Text.afterPrefix?_eq_some_iff.mp found, (isEdge after).mp starts⟩
    · cases starts
  · rintro ⟨after, whole, ends⟩
    rw [Text.afterPrefix?_eq_some_iff.mpr whole]
    exact (isEdge after).mpr ends

/-- Blanks before a name are passed over. -/
theorem trimStart_blanks_append
    {blanks : Text}
    (areBlank : ∀ c ∈ blanks, Text.isBlank c = true)
    (after : Text) :
    Text.trimStart (blanks ++ (name ++ after)) = name ++ after := by
  obtain ⟨first, others, rfl, -⟩ := Text.exists_start_of_isIdentifier isName
  have notBlank : Text.isBlank first = false :=
    Text.isBlank_of_isWordCharacter
      (Text.isWordCharacter_of_mem_identifier isName first (List.mem_cons_self ..))
  rw [Text.trimStart, List.dropWhile_append_of_pos areBlank, List.cons_append,
    List.dropWhile_cons_of_neg (Bool.eq_false_iff.mp notBlank)]

theorem startsWithPlaceholder_iff {text : Text} :
    startsWithPlaceholder name text = true ↔
      ∃ blanks after, text = '$' :: (blanks ++ (name ++ after)) ∧
        (∀ c ∈ blanks, Text.isBlank c = true) ∧ isInWord after.head? = false := by
  constructor
  · intro starts
    unfold startsWithPlaceholder at starts
    split at starts
    · next rest =>
        obtain ⟨after, trimmed, ends⟩ := (startsWithName_iff isName).mp starts
        refine ⟨rest.takeWhile Text.isBlank, after, ?_, ?_, ends⟩
        · rw [← trimmed, Text.trimStart, List.takeWhile_append_dropWhile]
        · exact fun c member => List.all_eq_true.mp List.all_takeWhile c member
    · cases starts
  · rintro ⟨blanks, after, rfl, areBlank, ends⟩
    rw [startsWithPlaceholder, trimStart_blanks_append isName areBlank, startsWithName_iff isName]
    exact ⟨after, rfl, ends⟩

variable {source : Text}

theorem holdsAt_placeholder_eq :
    HoldsAt (fun _ rest => startsWithPlaceholder name rest) none source =
      FollowsDollar source name := by
  funext before
  apply propext
  constructor
  · rintro ⟨rest, rfl, here⟩
    obtain ⟨blanks, after, rfl, areBlank, ends⟩ := (startsWithPlaceholder_iff isName).mp here
    exact ⟨blanks, after, rfl, areBlank, ends⟩
  · rintro ⟨blanks, after, rfl, areBlank, ends⟩
    exact ⟨_, rfl, (startsWithPlaceholder_iff isName).mpr ⟨blanks, after, rfl, areBlank, ends⟩⟩

theorem holdsAt_word_eq :
    HoldsAt (fun before? rest => isWordEdge before? rest.head? && startsWithName name rest) none
        source =
      StandsAsWord source name := by
  funext before
  have isEdge : ∀ after : Text, isWordEdge before.getLast? (name ++ after).head? = true ↔
      isInWord before.getLast? = false := by
    intro after
    rw [isWordEdge, isInWord_head?_of_isIdentifier isName]
    cases isInWord before.getLast? <;> decide
  apply propext
  constructor
  · rintro ⟨rest, rfl, here⟩
    rw [Option.or_none, Bool.and_eq_true, startsWithName_iff isName] at here
    obtain ⟨edge, after, rfl, ends⟩ := here
    exact ⟨after, rfl, (isEdge after).mp edge, ends⟩
  · rintro ⟨after, rfl, starts, ends⟩
    refine ⟨_, rfl, ?_⟩
    rw [Option.or_none, Bool.and_eq_true, startsWithName_iff isName]
    exact ⟨(isEdge after).mpr starts, after, rfl, ends⟩

/-- The line that is given for a name is that of the place it is looked for at. -/
theorem isLead_of_lineOfName?
    {line : Nat}
    (isLine : lineOfName? source name = some line) :
    ∃ before, IsLead source name before ∧ line = 1 + Text.lineFeeds before := by
  rw [lineOfName?, Option.or_eq_some_iff] at isLine
  rcases isLine with isFound | ⟨notFound, isFound⟩
  · obtain ⟨before, isFirst, isLine⟩ := isFirst_of_firstLine? isFound
    rw [holdsAt_placeholder_eq isName] at isFirst
    exact ⟨before, .dollar isFirst, isLine⟩
  · obtain ⟨before, isFirst, isLine⟩ := isFirst_of_firstLine? isFound
    have noDollar := not_holdsAt_of_firstLine? notFound
    rw [holdsAt_word_eq isName] at isFirst
    rw [holdsAt_placeholder_eq isName] at noDollar
    exact ⟨before, .word noDollar isFirst, isLine⟩

/-- A name that stands as a word somewhere is given a line. -/
theorem exists_lineOfName?
    {before : Text}
    (stands : StandsAsWord source name before) :
    ∃ line, lineOfName? source name = some line := by
  rw [← Option.ne_none_iff_exists', lineOfName?, ne_eq, Option.or_eq_none_iff]
  rintro ⟨-, notFound⟩
  have nowhere := not_holdsAt_of_firstLine? notFound before
  rw [holdsAt_word_eq isName] at nowhere
  exact nowhere stands

end Name

/-! ## One place -/

theorem IsFirst.unique
    {stands : Text → Prop}
    {before other : Text}
    (source : Text)
    (isPlace : ∀ place, stands place → place <+: source)
    (isFirst : IsFirst stands before)
    (otherIsFirst : IsFirst stands other) :
    before = other := by
  have startsOther : before <+: other :=
    List.prefix_of_prefix_length_le (isPlace before isFirst.holds)
      (isPlace other otherIsFirst.holds) (isFirst.isLeast other otherIsFirst.holds)
  exact startsOther.eq_of_length_le (otherIsFirst.isLeast before isFirst.holds)

/-- A name is looked for at one place. -/
theorem IsLead.unique
    {source name before other : Text}
    (isLead : IsLead source name before)
    (otherIsLead : IsLead source name other) :
    before = other := by
  cases isLead with
  | dollar isFirst =>
      cases otherIsLead with
      | dollar otherIsFirst =>
          refine isFirst.unique source ?_ otherIsFirst
          rintro place ⟨blanks, after, rfl, -⟩
          exact List.prefix_append ..
      | word noDollar => exact absurd isFirst.holds (noDollar before)
  | word noDollar isFirst =>
      cases otherIsLead with
      | dollar otherIsFirst => exact absurd otherIsFirst.holds (noDollar other)
      | word _ otherIsFirst =>
          refine isFirst.unique source ?_ otherIsFirst
          rintro place ⟨after, rfl, -⟩
          exact List.prefix_append ..

end Template
end SkillNode
