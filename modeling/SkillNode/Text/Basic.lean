/-!
# Text as a list of characters

Every text that the generator reads, holds or writes is a list of characters,
so that a rule about text is a rule about lists. A string literal stands for
the list of its characters.

The operations here cut a text at a separator and join pieces again. The main
statements say that joining undoes cutting and that no piece holds the
separator.
-/

namespace SkillNode

/-- A text is the list of its characters. -/
abbrev Text := List Char

/-- A string literal stands for the list of its characters. -/
instance : Coe String Text := ⟨String.toList⟩

namespace Text

/-- The decimal digits of a natural number. -/
def ofNat (number : Nat) : Text := Nat.toDigits 10 number

/-- The decimal digits of an integer, after a minus sign if it is negative. The digits of every
integer are given; who prints a number that somebody else chose asks first whether it may be
printed. -/
def ofInt : Int → Text
  | .ofNat number => ofNat number
  | .negSucc number => '-' :: ofNat (number + 1)

/-- The greatest number of digits of an integer that is read or printed. -/
def maxDigits : Nat := 4300

/-- Whether an integer may be printed: it has no more digits than the limit. -/
def isPrintable (number : Int) : Bool := (ofNat number.natAbs).length ≤ maxDigits

/-- A number in small hexadecimal digits, filled up with zeros. -/
def hexadecimal (width number : Nat) : Text :=
  let digits := Nat.toDigits 16 number
  List.replicate (width - digits.length) '0' ++ digits

/-- The pieces between the occurrences of a separator, empty ones included. -/
def splitOn (separator : Char) : Text → List Text
  | [] => [[]]
  | c :: rest =>
      if c = separator then
        [] :: splitOn separator rest
      else
        match splitOn separator rest with
        | [] => [[c]]
        | piece :: pieces => (c :: piece) :: pieces

/-- The non-empty pieces between the occurrences of a separator. -/
def segments (separator : Char) (text : Text) : List Text :=
  (splitOn separator text).filter (! ·.isEmpty)

/-- The pieces in order, with a separator between neighbours. -/
def join (separator : Text) (pieces : List Text) : Text :=
  separator.intercalate pieces

/-- The text before the first occurrence of a character, or all of it. -/
def before (separator : Char) (text : Text) : Text :=
  text.takeWhile (· ≠ separator)

/-- The text after the first occurrence of a character, if it occurs. -/
def after? (separator : Char) (text : Text) : Option Text :=
  match text.dropWhile (· ≠ separator) with
  | [] => none
  | _ :: rest => some rest

/-- The text before and the text after the last occurrence of a character; all
of it stands after when the character does not occur. -/
def splitLast (separator : Char) (text : Text) : Text × Text :=
  let tail := (text.reverse.takeWhile (· ≠ separator)).reverse
  (text.take (text.length - tail.length - 1), tail)

/-- The text after a known beginning, if it begins so. -/
def afterPrefix? (start text : Text) : Option Text :=
  if start.isPrefixOf text then some (text.drop start.length) else none

/-- The text before a known end, if it ends so. -/
def beforeSuffix? (ending text : Text) : Option Text :=
  if ending.isSuffixOf text then some (text.take (text.length - ending.length)) else none

/-- Replace every occurrence of a character by a text. -/
def replaceChar (old : Char) (new text : Text) : Text :=
  text.flatMap fun c => if c = old then new else [c]

/-- Number of line feeds in a text. -/
def lineFeeds (text : Text) : Nat := text.count '\n'

/-- Remove a character from both ends. -/
def trimChar (blank : Char) (text : Text) : Text :=
  ((text.dropWhile (· = blank)).reverse.dropWhile (· = blank)).reverse

/-! ## Counting line feeds -/

@[simp] theorem lineFeeds_append (start rest : Text) :
    lineFeeds (start ++ rest) = lineFeeds start + lineFeeds rest :=
  List.count_append

theorem lineFeeds_cons (c : Char) (rest : Text) :
    lineFeeds (c :: rest) = (if c = '\n' then 1 else 0) + lineFeeds rest := by
  rw [lineFeeds, lineFeeds, List.count_cons, Nat.add_comm]
  simp only [beq_iff_eq]

theorem lineFeeds_of_notMem {text : Text} (noBreak : '\n' ∉ text) : lineFeeds text = 0 :=
  List.count_eq_zero.mpr noBreak

/-! ## Known beginnings and ends -/

theorem afterPrefix?_eq_some_iff {start text rest : Text} :
    afterPrefix? start text = some rest ↔ text = start ++ rest := by
  rw [afterPrefix?]
  constructor
  · intro found
    split at found
    · next starts =>
        obtain ⟨others, rfl⟩ := List.isPrefixOf_iff_prefix.mp starts
        rw [List.drop_left] at found
        rw [Option.some.inj found]
    · cases found
  · rintro rfl
    rw [if_pos (List.isPrefixOf_iff_prefix.mpr (List.prefix_append start rest)), List.drop_left]

theorem beforeSuffix?_eq_some_iff {ending text start : Text} :
    beforeSuffix? ending text = some start ↔ text = start ++ ending := by
  rw [beforeSuffix?]
  constructor
  · intro found
    split at found
    · next ends =>
        obtain ⟨others, rfl⟩ := List.isSuffixOf_iff_suffix.mp ends
        obtain rfl := Option.some.inj found
        simp
    · cases found
  · rintro rfl
    rw [if_pos (List.isSuffixOf_iff_suffix.mpr (List.suffix_append start ending))]
    simp

/-! ## Laws of cutting and joining -/

theorem splitOn_ne_nil (separator : Char) (text : Text) :
    splitOn separator text ≠ [] := by
  cases text with
  | nil => simp [splitOn]
  | cons c rest =>
      unfold splitOn
      split
      · simp
      · split <;> simp

/-- What holds no separator goes on with the first piece. -/
theorem splitOn_append_of_notMem
    {separator : Char}
    {start text piece : Text}
    {pieces : List Text}
    (isFree : separator ∉ start)
    (cut : splitOn separator text = piece :: pieces) :
    splitOn separator (start ++ text) = (start ++ piece) :: pieces := by
  induction start with
  | nil => exact cut
  | cons c rest restHypothesis =>
      obtain ⟨differs, restFree⟩ : separator ≠ c ∧ separator ∉ rest := by simpa using isFree
      rw [List.cons_append, splitOn, if_neg (Ne.symm differs), restHypothesis restFree]
      rfl

/-- A text without a separator is one piece. -/
theorem splitOn_of_notMem {separator : Char} {text : Text} (isFree : separator ∉ text) :
    splitOn separator text = [text] := by
  simpa using splitOn_append_of_notMem isFree (splitOn.eq_1 separator)

/-- Every separator parts the pieces before it from those after it. -/
theorem splitOn_append_cons (separator : Char) (start rest : Text) :
    splitOn separator (start ++ separator :: rest) =
      splitOn separator start ++ splitOn separator rest := by
  induction start with
  | nil => simp [splitOn]
  | cons c start startHypothesis =>
      by_cases isSeparator : c = separator
      · simp [splitOn, isSeparator, startHypothesis]
      · cases pieces : splitOn separator start with
        | nil => exact absurd pieces (splitOn_ne_nil separator start)
        | cons piece pieces => simp_all [splitOn]

/-- Joined with the separator, texts are cut into the pieces of each. -/
theorem splitOn_join (separator : Char) (text : Text) (texts : List Text) :
    splitOn separator (join [separator] (text :: texts)) =
      (text :: texts).flatMap (splitOn separator) := by
  induction texts generalizing text with
  | nil => simp [join, List.intercalate]
  | cons next others othersHypothesis =>
      have joined : join [separator] (text :: next :: others) =
          text ++ separator :: join [separator] (next :: others) := by
        simp [join, List.intercalate]
      rw [joined, splitOn_append_cons, othersHypothesis]
      rfl

/-- Joining the pieces with the separator gives the text back. -/
theorem join_splitOn (separator : Char) (text : Text) :
    join [separator] (splitOn separator text) = text := by
  induction text with
  | nil => simp [splitOn, join, List.intercalate]
  | cons c rest restored =>
      unfold splitOn
      cases pieces : splitOn separator rest with
      | nil => exact absurd pieces (splitOn_ne_nil separator rest)
      | cons piece more =>
          rw [pieces] at restored
          by_cases isSeparator : c = separator
          · subst isSeparator
            simp [join, List.intercalate] at restored ⊢
            exact restored
          · cases more with
            | nil => simp [join, List.intercalate, isSeparator] at restored ⊢; exact restored
            | cons next others =>
                simp [join, List.intercalate, isSeparator] at restored ⊢
                exact restored

/-- No piece holds the separator. -/
theorem separator_notMem_of_mem_splitOn
    {separator : Char}
    {text piece : Text}
    (pieceMember : piece ∈ splitOn separator text) :
    separator ∉ piece := by
  induction text generalizing piece with
  | nil => simp [splitOn] at pieceMember; simp [pieceMember]
  | cons c rest restHypothesis =>
      unfold splitOn at pieceMember
      by_cases isSeparator : c = separator
      · simp [isSeparator] at pieceMember
        rcases pieceMember with rfl | pieceMember
        · simp
        · exact restHypothesis pieceMember
      · cases pieces : splitOn separator rest with
        | nil => exact absurd pieces (splitOn_ne_nil separator rest)
        | cons first others =>
            rw [pieces] at pieceMember restHypothesis
            simp [isSeparator] at pieceMember
            rcases pieceMember with rfl | pieceMember
            · have firstFree := restHypothesis (List.mem_cons_self ..)
              simp [firstFree, Ne.symm isSeparator]
            · exact restHypothesis (List.mem_cons_of_mem _ pieceMember)

/-- A text has something after a character exactly if it holds it, namely what follows
the first one. -/
theorem after?_eq_some_iff {separator : Char} {text rest : Text} :
    after? separator text = some rest ↔
      ∃ start, text = start ++ separator :: rest ∧ separator ∉ start := by
  induction text with
  | nil => simp [after?]
  | cons c others restHypothesis =>
      by_cases isSeparator : c = separator
      · subst isSeparator
        have atOnce : after? c (c :: others) = some others := by simp [after?]
        rw [atOnce, Option.some_inj]
        constructor
        · rintro rfl
          exact ⟨[], rfl, List.not_mem_nil⟩
        · rintro ⟨start, whole, free⟩
          cases start with
          | nil => exact (List.cons.inj whole).2
          | cons first _ =>
              exact absurd (List.mem_cons_self ..) ((List.cons.inj whole).1 ▸ free)
      · have goesOn : after? separator (c :: others) = after? separator others := by
          simp [after?, isSeparator]
        rw [goesOn, restHypothesis]
        constructor
        · rintro ⟨start, rfl, free⟩
          exact ⟨c :: start, rfl, by simpa [Ne.symm isSeparator] using free⟩
        · rintro ⟨start, whole, free⟩
          cases start with
          | nil => exact absurd (List.cons.inj whole).1 isSeparator
          | cons first start =>
              obtain ⟨rfl, rfl⟩ := List.cons.inj whole
              exact ⟨start, rfl, fun member => free (List.mem_cons_of_mem _ member)⟩

theorem after?_eq_none_iff {separator : Char} {text : Text} :
    after? separator text = none ↔ separator ∉ text := by
  induction text with
  | nil => simp [after?]
  | cons c others restHypothesis =>
      by_cases isSeparator : c = separator
      · simp [after?, isSeparator]
      · have goesOn : after? separator (c :: others) = after? separator others := by
          simp [after?, isSeparator]
        rw [goesOn, restHypothesis]
        simp [Ne.symm isSeparator]

/-- A text is cut at the last separator. -/
theorem splitLast_append_cons
    {separator : Char}
    {last : Text}
    (isFree : separator ∉ last)
    (front : Text) :
    splitLast separator (front ++ separator :: last) = (front, last) := by
  have areKept : ∀ c ∈ last.reverse, decide (c ≠ separator) = true := by
    intro c member
    refine decide_eq_true fun isSeparator => isFree ?_
    exact isSeparator ▸ List.mem_reverse.mp member
  have tail : ((front ++ separator :: last).reverse.takeWhile (· ≠ separator)).reverse = last := by
    rw [List.reverse_append, List.reverse_cons, List.append_assoc,
      List.takeWhile_append_of_pos areKept]
    simp
  have cut : (front ++ separator :: last).length - last.length - 1 = front.length := by
    rw [List.length_append, List.length_cons]
    omega
  simp only [splitLast, tail, cut, List.take_left]

end Text
end SkillNode
