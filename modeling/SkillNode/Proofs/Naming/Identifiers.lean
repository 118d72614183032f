import Mathlib.Tactic.ByContra
import SkillNode.Naming

/-!
# Identifiers that stand for names

The identifier of a name keeps its letters and numbers, of any script, and has underscores for
what stands between them. It has none at its ends but the one that guards a digit, so it is
empty just if the name has no letter and no number.

So an identifier is a core with a guard: the core has word characters only and no underscore at
its ends, and the guard is an underscore before it if it starts with a digit. A core has no run to
replace and nothing to trim, and a guard is trimmed away with the underscores at the ends and put
back at once. The texts that are their own identifiers are just the guarded cores, and the
identifier of an identifier is that identifier again.
-/

namespace SkillNode

namespace Text

variable {blank c : Char} {text : Text}

/-! ## Trimmed texts -/

theorem mem_trimChar_iff (differs : c ≠ blank) : c ∈ trimChar blank text ↔ c ∈ text := by
  have kept : ∀ other : Text, c ∈ other.dropWhile (· = blank) ↔ c ∈ other := by
    intro other
    refine ⟨fun member => (List.dropWhile_suffix _).subset member, fun member => ?_⟩
    induction other with
    | nil => cases member
    | cons first rest restHypothesis =>
        by_cases isBlank : first = blank
        · rw [List.dropWhile_cons, if_pos (decide_eq_true isBlank)]
          rcases List.mem_cons.mp member with rfl | later
          · exact absurd isBlank differs
          · exact restHypothesis later
        · rw [List.dropWhile_cons, if_neg (by simpa using isBlank)]
          exact member
  rw [trimChar, List.mem_reverse, kept, List.mem_reverse, kept]

theorem head?_dropWhile_ne (blank : Char) (text : Text) :
    (text.dropWhile (· = blank)).head? ≠ some blank := by
  intro starts
  have headKept := List.head?_dropWhile_not (· = blank) text
  rw [starts] at headKept
  simp at headKept

/-- What is left after a character is removed from both ends does not start with it. -/
theorem ne_of_trimChar_eq_cons {rest : Text} (trimmed : trimChar blank text = c :: rest) :
    c ≠ blank := by
  have starts : trimChar blank text <+: text.dropWhile (· = blank) := by
    rw [trimChar]
    simpa using List.reverse_prefix.mpr
      (List.dropWhile_suffix (· = blank) (l := (text.dropWhile (· = blank)).reverse))
  rw [trimmed] at starts
  obtain ⟨others, whole⟩ := starts
  rintro rfl
  have headKept := head?_dropWhile_ne c text
  rw [← whole] at headKept
  exact headKept rfl

/-- A character stands at neither end of a text. -/
structure IsTrimmed (blank : Char) (text : Text) : Prop where
  start : text.head? ≠ some blank
  ending : text.getLast? ≠ some blank

theorem dropWhile_of_head?_ne (differs : text.head? ≠ some blank) :
    text.dropWhile (· = blank) = text := by
  cases text with
  | nil => rfl
  | cons first rest => exact List.dropWhile_cons_of_neg (by simpa using differs)

theorem isTrimmed_trimChar : IsTrimmed blank (trimChar blank text) where
  start starts := by
    obtain ⟨rest, trimmed⟩ := List.head?_eq_some_iff.mp starts
    exact ne_of_trimChar_eq_cons trimmed rfl
  ending := by
    rw [trimChar, List.getLast?_reverse]
    exact head?_dropWhile_ne blank _

/-- Nothing is removed from a text whose ends are clean. -/
theorem IsTrimmed.trimChar_eq (isTrimmed : IsTrimmed blank text) : trimChar blank text = text := by
  have endsClean : text.reverse.head? ≠ some blank := by
    rw [List.head?_reverse]
    exact isTrimmed.ending
  rw [trimChar, dropWhile_of_head?_ne isTrimmed.start, dropWhile_of_head?_ne endsClean,
    List.reverse_reverse]

theorem trimChar_cons_self : trimChar blank (blank :: text) = trimChar blank text := by
  have dropped : (blank :: text).dropWhile (· = blank) = text.dropWhile (· = blank) :=
    List.dropWhile_cons_of_pos (decide_eq_true rfl)
  rw [trimChar, dropped, trimChar]

/-! ## Word characters -/

theorem isAlphanumeric_underscore : isAlphanumeric '_' = false := by decide

theorem ne_underscore_of_isAlphanumeric (isLetter : isAlphanumeric c = true) : c ≠ '_' := by
  rintro rfl
  rw [isAlphanumeric_underscore] at isLetter
  cases isLetter

theorem isWordCharacter_iff : isWordCharacter c = true ↔ c = '_' ∨ isAlphanumeric c = true := by
  rw [isWordCharacter, Bool.or_eq_true, decide_eq_true_iff]

theorem isWordCharacter_underscore : isWordCharacter '_' = true :=
  isWordCharacter_iff.mpr (.inl rfl)

end Text

namespace Naming

variable {c : Char} {name core : Text}

/-! ## Letters and numbers -/

/-- The letters and numbers of a name are left when runs of other characters are replaced. -/
theorem mem_underscoreRuns_iff {inRun : Bool} (differs : c ≠ '_') :
    c ∈ underscoreRuns inRun name ↔ c ∈ name ∧ Text.isWordCharacter c = true := by
  induction name generalizing inRun with
  | nil => simp [underscoreRuns]
  | cons first rest restHypothesis =>
      unfold underscoreRuns
      split
      · next isWord =>
          rw [List.mem_cons, List.mem_cons, restHypothesis, or_and_right]
          refine or_congr_left ⟨?_, And.left⟩
          rintro rfl
          exact ⟨rfl, isWord⟩
      · next noWord =>
          have isLater : c ∈ first :: rest ∧ Text.isWordCharacter c = true ↔
              c ∈ rest ∧ Text.isWordCharacter c = true := by
            rw [List.mem_cons, or_and_right, or_iff_right]
            rintro ⟨rfl, isWord⟩
            exact noWord isWord
          split
          · rw [restHypothesis, isLater]
          · rw [List.mem_cons, or_iff_right differs, restHypothesis, isLater]

theorem mem_guardDigit_iff (differs : c ≠ '_') : c ∈ guardDigit name ↔ c ∈ name := by
  cases name with
  | nil => rfl
  | cons first rest =>
      rw [guardDigit]
      split
      · rw [List.mem_cons, or_iff_right differs]
      · rfl

/-- Besides underscores an identifier has the letters and numbers of the name. -/
theorem mem_identifier_iff (differs : c ≠ '_') :
    c ∈ identifier name ↔ c ∈ name ∧ Text.isAlphanumeric c = true := by
  rw [identifier, mem_guardDigit_iff differs, Text.mem_trimChar_iff differs,
    mem_underscoreRuns_iff differs, Text.isWordCharacter_iff, or_iff_right differs]

/-- The identifier of a name is empty exactly if the name has no letter and no number. -/
theorem identifier_eq_nil_iff :
    identifier name = [] ↔ ∀ c ∈ name, Text.isAlphanumeric c = false := by
  constructor
  · intro isEmpty c member
    by_contra isLetter
    rw [Bool.not_eq_false] at isLetter
    have kept := (mem_identifier_iff (Text.ne_underscore_of_isAlphanumeric isLetter)).mpr
      ⟨member, isLetter⟩
    rw [isEmpty] at kept
    cases kept
  · intro noLetter
    cases trimmed : Text.trimChar '_' (underscoreRuns false name) with
    | nil => rw [identifier, trimmed, guardDigit]
    | cons first rest =>
        -- What starts a trimmed text is no underscore, so it would be a letter or number.
        have differs := Text.ne_of_trimChar_eq_cons trimmed
        have kept : first ∈ identifier name := by
          rw [identifier, mem_guardDigit_iff differs, trimmed]
          exact List.mem_cons_self
        obtain ⟨inName, isLetter⟩ := (mem_identifier_iff differs).mp kept
        rw [noLetter first inName] at isLetter
        cases isLetter

/-- An identifier does not start with a digit. -/
theorem not_isDigit_of_identifier_eq_cons
    {rest : Text}
    (starts : identifier name = c :: rest) :
    Text.isDigit c = false := by
  rw [identifier] at starts
  cases trimmed : Text.trimChar '_' (underscoreRuns false name) with
  | nil =>
      rw [trimmed, guardDigit] at starts
      cases starts
  | cons first others =>
      rw [trimmed, guardDigit] at starts
      split at starts
      · obtain rfl : '_' = c := (List.cons.inj starts).1
        decide
      · next noDigit =>
          obtain rfl : first = c := (List.cons.inj starts).1
          exact Bool.not_eq_true _ ▸ noDigit

/-! ## Guarded cores -/

/-- Word characters with no underscore at the ends: an identifier without its guard. -/
structure IsCore (core : Text) : Prop where
  areWords : ∀ c ∈ core, Text.isWordCharacter c = true
  trimmed : Text.IsTrimmed '_' core

/-- Word characters have no run to replace. -/
theorem underscoreRuns_of_areWords
    {inRun : Bool}
    (areWords : ∀ c ∈ name, Text.isWordCharacter c = true) :
    underscoreRuns inRun name = name := by
  induction name generalizing inRun with
  | nil => rfl
  | cons first rest restHypothesis =>
      obtain ⟨isWord, restWords⟩ := List.forall_mem_cons.mp areWords
      rw [underscoreRuns, if_pos isWord, restHypothesis restWords]

/-- Replacing runs and trimming leaves a core. -/
theorem isCore_trimChar (name : Text) :
    IsCore (Text.trimChar '_' (underscoreRuns false name)) where
  areWords c member := by
    by_cases isUnderscore : c = '_'
    · exact isUnderscore ▸ Text.isWordCharacter_underscore
    · have inRuns := (Text.mem_trimChar_iff isUnderscore).mp member
      exact ((mem_underscoreRuns_iff isUnderscore).mp inRuns).2
  trimmed := Text.isTrimmed_trimChar

/-- A guarded core is its own identifier. -/
theorem IsCore.identifier_guardDigit (isCore : IsCore core) :
    identifier (guardDigit core) = guardDigit core := by
  have unguarded : identifier core = guardDigit core := by
    rw [identifier, underscoreRuns_of_areWords isCore.areWords, isCore.trimmed.trimChar_eq]
  cases core with
  | nil => exact unguarded
  | cons first rest =>
      by_cases isDigit : Text.isDigit first = true
      · -- The guard is trimmed away, which leaves the core to be guarded again.
        have guarded : guardDigit (first :: rest) = '_' :: first :: rest := by
          rw [guardDigit, if_pos isDigit]
        have areWords : ∀ c ∈ '_' :: first :: rest, Text.isWordCharacter c = true :=
          List.forall_mem_cons.mpr ⟨Text.isWordCharacter_underscore, isCore.areWords⟩
        calc identifier (guardDigit (first :: rest))
            = guardDigit (Text.trimChar '_' ('_' :: first :: rest)) := by
              rw [guarded, identifier, underscoreRuns_of_areWords areWords]
          _ = guardDigit (first :: rest) := by
              rw [Text.trimChar_cons_self, isCore.trimmed.trimChar_eq]
      · have bare : guardDigit (first :: rest) = first :: rest := by
          rw [guardDigit, if_neg isDigit]
        rw [bare, unguarded, bare]

/-- A text is its own identifier exactly if it is a guarded core. -/
theorem identifier_eq_self_iff :
    identifier name = name ↔ ∃ core, IsCore core ∧ name = guardDigit core := by
  constructor
  · intro isStable
    exact ⟨_, isCore_trimChar name, isStable.symm⟩
  · rintro ⟨core, isCore, rfl⟩
    exact isCore.identifier_guardDigit

theorem isWordCharacter_of_mem_identifier (member : c ∈ identifier name) :
    Text.isWordCharacter c = true := by
  by_cases isUnderscore : c = '_'
  · exact isUnderscore ▸ Text.isWordCharacter_underscore
  · exact Text.isWordCharacter_iff.mpr (.inr ((mem_identifier_iff isUnderscore).mp member).2)

/-- The identifier of a name has word characters only and no digit at its start, is its own
identifier, and is empty exactly if no word character of the name is other than an underscore. -/
theorem identifier_stable (name : Text) :
    (∀ c ∈ identifier name, Text.isWordCharacter c = true) ∧
    (∀ c, (identifier name).head? = some c → Text.isDigit c = false) ∧
    identifier (identifier name) = identifier name ∧
    (identifier name = [] ↔ ∀ c ∈ name, Text.isWordCharacter c = true → c = '_') := by
  refine ⟨fun c => isWordCharacter_of_mem_identifier, fun c starts => ?_, ?_, ?_⟩
  · obtain ⟨rest, isIdentifier⟩ := List.head?_eq_some_iff.mp starts
    exact not_isDigit_of_identifier_eq_cons isIdentifier
  · exact identifier_eq_self_iff.mpr ⟨_, isCore_trimChar name, rfl⟩
  · rw [identifier_eq_nil_iff]
    refine forall₂_congr fun c _ => ⟨fun noLetter isWord => ?_, fun onlyUnderscore => ?_⟩
    · refine (Text.isWordCharacter_iff.mp isWord).resolve_right ?_
      rw [noLetter]
      exact Bool.false_ne_true
    · rw [← Bool.not_eq_true]
      intro isLetter
      exact Text.ne_underscore_of_isAlphanumeric isLetter
        (onlyUnderscore (Text.isWordCharacter_iff.mpr (.inr isLetter)))

/-- A superscript at the start is a digit, which is guarded, and the guard stays. -/
theorem identifier_stable_superscript :
    identifier "/²nd  level_é/" = ("_²nd_level_é" : Text) ∧
      identifier "_²nd_level_é" = ("_²nd_level_é" : Text) ∧
      Text.isDigit '_' = false ∧
      ∀ c ∈ ("__/ _" : Text), Text.isWordCharacter c = true → c = '_' := by
  have isGuarded : identifier "/²nd  level_é/" = ("_²nd_level_é" : Text) := by decide +kernel
  obtain ⟨-, noDigit, isStable, -⟩ := identifier_stable "/²nd  level_é/"
  rw [isGuarded] at noDigit isStable
  exact ⟨isGuarded, isStable, noDigit '_' (by decide),
    (identifier_stable "__/ _").2.2.2.mp (by decide)⟩

end Naming
end SkillNode
