import SkillNode.Proofs.Cpp.Literals
import Mathlib.Data.List.Infix

/-!
# Comments of C++

Lines that end in a backslash are joined with the next before comments are told apart. Then
a block comment ends at the first star that a slash follows, and a line comment at the end
of its line.

The statements say when a text may stand in a comment without ending it early or late.
-/

namespace SkillNode

/-- A pattern occurs in a text around a character that is not in it only on one side. -/
theorem Text.infix_append_cons_iff
    {pattern first second : Text}
    {c : Char}
    (isFree : c ∉ pattern) :
    pattern <:+: first ++ c :: second ↔ pattern <:+: first ∨ pattern <:+: second := by
  constructor
  · rintro ⟨before, after, whole⟩
    rcases List.append_eq_append_iff.mp whole with ⟨between, rfl, _⟩ | ⟨overlap, starts, ends⟩
    · exact .inl ⟨before, between, rfl⟩
    · cases overlap with
      | nil => exact .inl ⟨before, [], by simpa using starts⟩
      | cons d overlap =>
          obtain ⟨rfl, rfl⟩ := List.cons.inj ends
          rcases List.append_eq_append_iff.mp starts with ⟨between, _, rest⟩ | ⟨between, _, rest⟩
          · exact absurd (rest ▸ List.mem_append_right _ List.mem_cons_self) isFree
          · cases between with
            | nil =>
                obtain rfl : c :: overlap = pattern := rest
                exact absurd List.mem_cons_self isFree
            | cons e between =>
                obtain ⟨_, rfl⟩ := List.cons.inj rest
                exact .inr ⟨between, after, rfl⟩
  · rintro (inFirst | inSecond)
    · exact inFirst.trans (List.prefix_append _ _).isInfix
    · exact inSecond.trans ⟨first ++ [c], [], by simp⟩

namespace Cpp

/-! ## Joined lines -/

/-- Join every line that ends in a backslash with the next. -/
def joinLines : Text → Text
  | [] => []
  | '\\' :: '\n' :: rest => joinLines rest
  | c :: rest => c :: joinLines rest

theorem joinLines_cons {c : Char} (noBackslash : c ≠ '\\') (rest : Text) :
    joinLines (c :: rest) = c :: joinLines rest := by
  rw [joinLines]
  exact fun _ isBackslash => absurd isBackslash noBackslash

/-- Lines are joined on either side of a character that ends no line. -/
theorem joinLines_append_cons
    {c : Char}
    (noFeed : c ≠ '\n')
    (text rest : Text) :
    joinLines (text ++ c :: rest) = joinLines text ++ joinLines (c :: rest) := by
  fun_induction joinLines text with
  | case1 => rfl
  | case2 text textHypothesis => simpa [joinLines] using textHypothesis
  | case3 d text staysLine textHypothesis =>
      rw [List.cons_append, joinLines, textHypothesis]
      · rfl
      · intro others isBackslash starts
        cases text with
        | nil => exact noFeed (List.cons.inj starts).1
        | cons e text => exact staysLine text isBackslash (by rw [(List.cons.inj starts).1])

/-- A text without line feeds has no lines to join. -/
theorem joinLines_of_notMem {text : Text} (noFeed : '\n' ∉ text) : joinLines text = text := by
  fun_induction joinLines text with
  | case1 => rfl
  | case2 text textHypothesis => simp at noFeed
  | case3 c text _ textHypothesis =>
      rw [textHypothesis fun member => noFeed (List.mem_cons_of_mem _ member)]

/-! ## Block comments -/

/-- What ends a block comment. -/
def blockEnd : Text := ['*', '/']

/-- A block comment from after its opening to its end, and what stands behind it. -/
def blockComment? : Text → Option (Text × Text)
  | [] => none
  | '*' :: '/' :: rest => some ([], rest)
  | c :: rest => (blockComment? rest).map (Prod.map (c :: ·) id)

theorem blockEnd_prefix_cons_iff {c : Char} {text : Text} :
    blockEnd <+: c :: text ↔ c = '*' ∧ text.head? = some '/' := by
  cases text <;> simp [blockEnd, eq_comm]

theorem blockComment?_of_not_infix
    {body : Text}
    (noEnd : ¬ blockEnd <:+: body)
    (after : Text) :
    blockComment? (body ++ blockEnd ++ after) = some (body, after) := by
  induction body with
  | nil => rfl
  | cons c rest restHypothesis =>
      obtain ⟨noStart, restFree⟩ := not_or.mp (List.infix_cons_iff.not.mp noEnd)
      rw [List.cons_append, List.cons_append, blockComment?, restHypothesis restFree]
      · rfl
      · rintro others rfl starts
        cases rest with
        | nil => exact absurd (List.cons.inj starts).1 (by decide)
        | cons d rest =>
            obtain ⟨rfl, _⟩ := List.cons.inj starts
            exact noStart (List.prefix_append blockEnd rest)

/-- A block comment ends where its end stands first. -/
theorem blockComment?_eq_some_iff {text body after : Text} :
    blockComment? text = some (body, after) ↔
      text = body ++ blockEnd ++ after ∧ ¬ blockEnd <:+: body := by
  constructor
  · intro isComment
    fun_induction blockComment? text generalizing body with
    | case1 => cases isComment
    | case2 rest =>
        cases isComment
        exact ⟨rfl, by simp [blockEnd]⟩
    | case3 c rest noEnd restHypothesis =>
        obtain ⟨⟨restBody, restAfter⟩, isRest, parts⟩ := Option.map_eq_some_iff.mp isComment
        obtain ⟨rfl, rfl⟩ := Prod.mk.inj parts
        obtain ⟨rfl, restFree⟩ := restHypothesis isRest
        refine ⟨rfl, fun inside => ?_⟩
        rcases List.infix_cons_iff.mp inside with starts | inRest
        · obtain ⟨isStar, isSlash⟩ := blockEnd_prefix_cons_iff.mp starts
          obtain ⟨others, startsSo⟩ := List.head?_eq_some_iff.mp isSlash
          exact noEnd (others ++ blockEnd ++ restAfter) isStar (by rw [startsSo]; rfl)
        · exact restFree inRest
  · rintro ⟨rfl, noEnd⟩
    exact blockComment?_of_not_infix noEnd after

/-- The text ends a block comment that it stands in. -/
def EndsBlock (text : Text) : Prop := blockEnd <:+: joinLines text

theorem blockEnd_infix_cons_iff {c : Char} (noStar : c ≠ '*') (text : Text) :
    blockEnd <:+: c :: text ↔ blockEnd <:+: text :=
  List.infix_cons_iff.trans
    (or_iff_right fun starts => noStar (blockEnd_prefix_cons_iff.mp starts).1)

theorem endsBlock_cons_iff
    {c : Char}
    (noBackslash : c ≠ '\\')
    (noStar : c ≠ '*')
    (text : Text) :
    EndsBlock (c :: text) ↔ EndsBlock text := by
  rw [EndsBlock, joinLines_cons noBackslash, blockEnd_infix_cons_iff noStar, EndsBlock]

theorem endsBlock_append_cons_iff
    {c : Char}
    (noFeed : c ≠ '\n')
    (noBackslash : c ≠ '\\')
    (isFree : c ∉ blockEnd)
    (text rest : Text) :
    EndsBlock (text ++ c :: rest) ↔ EndsBlock text ∨ EndsBlock rest := by
  rw [EndsBlock, joinLines_append_cons noFeed, joinLines_cons noBackslash,
    Text.infix_append_cons_iff isFree]
  rfl

theorem joinLines_append_blockEnd (body after : Text) :
    joinLines (body ++ blockEnd ++ after) = joinLines body ++ blockEnd ++ joinLines after := by
  have start : body ++ blockEnd ++ after = body ++ '*' :: '/' :: after := by simp [blockEnd]
  rw [start, joinLines_append_cons (by decide), joinLines_cons (by decide),
    joinLines_cons (by decide)]
  simp [blockEnd]

/-- A block comment ends where it is meant to exactly if nothing in it ends it. -/
theorem blockComment?_joinLines_iff (body after : Text) :
    blockComment? (joinLines (body ++ blockEnd ++ after)) =
        some (joinLines body, joinLines after) ↔
      ¬ EndsBlock body := by
  rw [joinLines_append_blockEnd, blockComment?_eq_some_iff, and_iff_right rfl, EndsBlock]

instance (text : Text) : Decidable (EndsBlock text) :=
  inferInstanceAs (Decidable (blockEnd <:+: joinLines text))

/-! ## Escaped texts -/

/-- A character is escaped by a backslash and a mark, or stands for itself. No star and no
slash is escaped. -/
theorem escapeChar_cases (c : Char) :
    (∃ mark, escapeChar c = ['\\', mark] ∧ mark ≠ '*' ∧ c ≠ '*' ∧ c ≠ '/') ∨
      escapeChar c = [c] := by
  unfold escapeChar
  split
  · exact .inl ⟨_, rfl, by decide⟩
  · exact .inl ⟨_, rfl, by decide⟩
  · exact .inl ⟨_, rfl, by decide⟩
  · exact .inl ⟨_, rfl, by decide⟩
  · exact .inl ⟨_, rfl, by decide⟩
  · exact .inr rfl

theorem head?_escape_eq_slash_iff (text : Text) :
    (escape text).head? = some '/' ↔ text.head? = some '/' := by
  cases text with
  | nil => rfl
  | cons c rest =>
      rcases escapeChar_cases c with ⟨mark, image, _, _, noSlash⟩ | image
      · simp [escape_cons, image, noSlash]
      · simp [escape_cons, image]

/-- Escaping makes no end of a comment and takes none away. -/
theorem endsBlock_escape_iff (text : Text) : EndsBlock (escape text) ↔ blockEnd <:+: text := by
  rw [EndsBlock, joinLines_of_notMem (control_notMem_escape text (by decide))]
  induction text with
  | nil => rfl
  | cons c rest restHypothesis =>
      rw [escape_cons]
      rcases escapeChar_cases c with ⟨mark, image, noStar, charNoStar, _⟩ | image
      · rw [image, List.cons_append, List.cons_append, List.nil_append,
          blockEnd_infix_cons_iff (by decide), blockEnd_infix_cons_iff noStar,
          blockEnd_infix_cons_iff charNoStar, restHypothesis]
      · rw [image, List.cons_append, List.nil_append, List.infix_cons_iff, List.infix_cons_iff,
          restHypothesis]
        refine or_congr_left ?_
        rw [blockEnd_prefix_cons_iff, blockEnd_prefix_cons_iff, head?_escape_eq_slash_iff]

/-! ## Line comments -/

/-- A line comment from after its opening to the end of its line, which a backslash joins
with the next. -/
def lineComment : Text → Text
  | [] => []
  | '\\' :: '\n' :: rest => '\\' :: '\n' :: lineComment rest
  | '\n' :: _ => []
  | c :: rest => c :: lineComment rest

theorem lineComment_cons
    {c : Char}
    {rest : Text}
    (noFeed : c ≠ '\n')
    (notJoined : c = '\\' → ∀ others, rest ≠ '\n' :: others) :
    lineComment (c :: rest) = c :: lineComment rest := by
  rw [lineComment]
  · exact fun others isBackslash starts => notJoined isBackslash others starts
  · exact noFeed

/-- A comment ends with the line that it is written in. -/
structure StaysOnLine (comment after : Text) : Prop where
  isLine : '\n' ∉ comment
  ends : lineComment (comment ++ '\n' :: after) = comment

theorem staysOnLine_iff {comment after : Text} :
    StaysOnLine comment after ↔ '\n' ∉ comment ∧ comment.getLast? ≠ some '\\' := by
  have ends_iff : '\n' ∉ comment →
      (lineComment (comment ++ '\n' :: after) = comment ↔ comment.getLast? ≠ some '\\') := by
    induction comment with
    | nil => simp [lineComment]
    | cons c rest restHypothesis =>
        intro noFeed
        obtain ⟨notFeed, restFree⟩ := not_or.mp (List.mem_cons.not.mp noFeed)
        cases rest with
        | nil =>
            by_cases isBackslash : c = '\\'
            · simp [isBackslash, lineComment]
            · have ends : lineComment (c :: '\n' :: after) = [c] := by
                rw [lineComment_cons (Ne.symm notFeed) fun isJoined => absurd isJoined isBackslash]
                rfl
              simp [ends, isBackslash]
        | cons d rest =>
            have goesOn : lineComment (c :: d :: (rest ++ '\n' :: after)) =
                c :: lineComment (d :: (rest ++ '\n' :: after)) := by
              refine lineComment_cons (Ne.symm notFeed) fun _ others starts => ?_
              exact restFree ((List.cons.inj starts).1 ▸ List.mem_cons_self)
            simpa [goesOn] using restHypothesis restFree
  exact ⟨fun stays => ⟨stays.isLine, (ends_iff stays.isLine).mp stays.ends⟩,
    fun ⟨isLine, ends⟩ => ⟨isLine, (ends_iff isLine).mpr ends⟩⟩

end Cpp
end SkillNode
