import SkillNode.Template.Token

/-!
# What is left of a text

Whatever is cut off the start of a template leaves the rest of it as it is. So every function that
cuts gives an end of the text that it is given.
-/

namespace SkillNode
namespace Template

theorem takenBefore_append (before rest : Text) : takenBefore (before ++ rest) rest = before := by
  rw [takenBefore, List.length_append, Nat.add_sub_cancel, List.take_left]

theorem takenBefore_append_self {text rest : Text} (isSuffix : rest <:+ text) :
    takenBefore text rest ++ rest = text := by
  obtain ⟨taken, rfl⟩ := isSuffix
  rw [takenBefore_append]

section Prefixes

variable {text rest : Text}

theorem suffix_of_afterPrefix? {start : Text} (found : Text.afterPrefix? start text = some rest) :
    rest <:+ text :=
  ⟨start, (Text.afterPrefix?_eq_some_iff.mp found).symm⟩

theorem trimStart_suffix (text : Text) : Text.trimStart text <:+ text :=
  List.dropWhile_suffix Text.isBlank

theorem strip_take_suffix (text : Text) : (StripSign.take text).2 <:+ text := by
  unfold StripSign.take
  split
  · exact List.suffix_cons ..
  · exact List.suffix_cons ..
  · exact List.suffix_rfl

end Prefixes

/-! ## Tags -/

section Tags

variable {text rest : Text}

theorem suffix_of_afterWord? {word : Text} (found : afterWord? word text = some rest) :
    rest <:+ text := by
  rw [afterWord?, Option.map_eq_some_iff] at found
  obtain ⟨after, isAfter, rfl⟩ := found
  exact (trimStart_suffix after).trans
    ((suffix_of_afterPrefix? isAfter).trans (trimStart_suffix text))

theorem suffix_of_afterRawBegin? (found : afterRawBegin? text = some rest) : rest <:+ text := by
  unfold afterRawBegin? at found
  split at found
  · next after isAfter =>
      obtain rfl := Option.some.inj found
      exact (trimStart_suffix after).trans
        ((List.suffix_append ['-', '%', '}'] after).trans (suffix_of_afterWord? isAfter))
  · next after isAfter =>
      obtain rfl := Option.some.inj found
      exact (List.suffix_append ['%', '}'] after).trans (suffix_of_afterWord? isAfter)
  · cases found

theorem suffix_of_afterEnd? {mark : Text} (found : afterEnd? mark text = some rest) :
    rest <:+ text := by
  unfold afterEnd? at found
  dsimp only at found
  split at found
  · next after isAfter =>
      obtain rfl := Option.some.inj found
      exact suffix_of_afterPrefix? isAfter
  · split at found
    · next after isAfter =>
        obtain rfl := Option.some.inj found
        exact (trimStart_suffix after).trans (suffix_of_afterPrefix? isAfter)
    · split at found
      · next after isAfter =>
          obtain rfl := Option.some.inj found
          exact (List.suffix_cons ..).trans (suffix_of_afterPrefix? isAfter)
      · next after isAfter =>
          obtain rfl := Option.some.inj found
          exact suffix_of_afterPrefix? isAfter
      · cases found

theorem suffix_of_afterOutputEnd? (found : afterOutputEnd? text = some rest) : rest <:+ text := by
  unfold afterOutputEnd? at found
  split at found
  · next after =>
      obtain rfl := Option.some.inj found
      exact (trimStart_suffix after).trans (List.suffix_append ['-', '$'] after)
  · obtain rfl := Option.some.inj found
    exact List.suffix_cons ..
  · cases found

theorem suffix_of_afterComment? (found : afterComment? text = some rest) : rest <:+ text := by
  induction text with
  | nil => cases found
  | cons c text textHypothesis =>
      rw [afterComment?] at found
      split at found
      · next after isEnd =>
          obtain rfl := Option.some.inj found
          exact suffix_of_afterEnd? isEnd
      · exact (textHypothesis found).trans (List.suffix_cons c text)

theorem suffix_of_rawEndAt? {sign : StripSign} (found : rawEndAt? text = some (sign, rest)) :
    rest <:+ text := by
  unfold rawEndAt? at found
  split at found
  · next inside =>
      dsimp only at found
      rw [Option.map_eq_some_iff] at found
      obtain ⟨after, isAfter, isFound⟩ := found
      obtain ⟨-, rfl⟩ := Prod.mk.inj isFound
      obtain ⟨afterWord, isWord, isEnd⟩ := Option.bind_eq_some_iff.mp isAfter
      exact (suffix_of_afterEnd? isEnd).trans ((suffix_of_afterWord? isWord).trans
        ((strip_take_suffix inside).trans (List.suffix_append ['{', '%'] inside)))
  · cases found

theorem suffix_of_rawPart?
    {content : Text}
    {sign : StripSign}
    (found : rawPart? text = some (content, sign, rest)) :
    rest <:+ text := by
  induction text generalizing content with
  | nil => cases found
  | cons c text textHypothesis =>
      rw [rawPart?] at found
      split at found
      · next isEnd =>
          obtain ⟨-, rfl, rfl⟩ : [] = content ∧ _ = sign ∧ _ = rest := by simpa using found
          exact suffix_of_rawEndAt? isEnd
      · rw [Option.map_eq_some_iff] at found
        obtain ⟨⟨before, later⟩, isLater, isFound⟩ := found
        obtain ⟨-, rfl⟩ := Prod.mk.inj isFound
        exact (textHypothesis isLater).trans (List.suffix_cons c text)

/-- The characters that the beginning of a tag is made of, raw parts apart. -/
def tagSigns : Text := ['{', '%', '#', '$', '-', '+']

/-- Something is cut off a text that is made of the signs of tags. -/
def IsAfterSigns (text rest : Text) : Prop :=
  ∃ taken, text = taken ++ rest ∧ taken ≠ [] ∧ ∀ c ∈ taken, c ∈ tagSigns

/-- After the mark of a tag its sign is cut off. -/
theorem isAfterSigns_strip
    (mark text : Text)
    (notEmpty : mark ≠ [])
    (areSigns : ∀ c ∈ mark, c ∈ tagSigns) :
    IsAfterSigns (mark ++ text) (StripSign.take text).2 := by
  have withSign : ∀ c ∈ tagSigns, ∀ rest, IsAfterSigns (mark ++ c :: rest) rest := by
    intro c isSign rest
    refine ⟨mark ++ [c], ?_, ?_, ?_⟩
    · rw [List.append_assoc, List.singleton_append]
    · exact fun isNil => notEmpty (List.append_eq_nil_iff.mp isNil).1
    · intro d member
      rcases List.mem_append.mp member with inMark | isLast
      · exact areSigns d inMark
      · rwa [List.mem_singleton.mp isLast]
  unfold StripSign.take
  split
  · exact withSign '-' (by decide) _
  · exact withSign '+' (by decide) _
  · exact ⟨mark, rfl, notEmpty, areSigns⟩

/-- A tag begins with signs. -/
theorem isAfterSigns_of_openingAt?
    {opening : Opening}
    (found : openingAt? text = some opening)
    (notRaw : opening.kind ≠ .raw) :
    IsAfterSigns text opening.rest := by
  unfold openingAt? at found
  split at found
  · next inside =>
      dsimp only at found
      split at found
      · obtain rfl := Option.some.inj found
        exact absurd rfl notRaw
      · obtain rfl := Option.some.inj found
        exact isAfterSigns_strip ['{', '%'] inside (by decide) (by simp [tagSigns])
  · next inside =>
      obtain rfl := Option.some.inj found
      exact isAfterSigns_strip ['{', '#'] inside (by decide) (by simp [tagSigns])
  · next inside =>
      obtain rfl := Option.some.inj found
      exact isAfterSigns_strip ['$'] inside (by decide) (by simp [tagSigns])
  · cases found

theorem suffix_of_openingAt? {opening : Opening} (found : openingAt? text = some opening) :
    opening.rest <:+ text := by
  by_cases isRaw : opening.kind = .raw
  · unfold openingAt? at found
    split at found
    · next inside =>
        dsimp only at found
        split at found
        · next after isAfter =>
            obtain rfl := Option.some.inj found
            exact (suffix_of_afterRawBegin? isAfter).trans
              ((strip_take_suffix inside).trans (List.suffix_append ['{', '%'] inside))
        · obtain rfl := Option.some.inj found
          cases isRaw
    · obtain rfl := Option.some.inj found
      cases isRaw
    · obtain rfl := Option.some.inj found
      cases isRaw
    · cases found
  · obtain ⟨taken, rfl, -⟩ := isAfterSigns_of_openingAt? found isRaw
    exact List.suffix_append taken opening.rest

/-- The first tag stands after the text before it. -/
theorem exists_of_firstOpening?
    {before : Text}
    {opening : Opening}
    (found : firstOpening? text = some (before, opening)) :
    ∃ inside, text = before ++ inside ∧ openingAt? inside = some opening := by
  induction text generalizing before with
  | nil => cases found
  | cons c text textHypothesis =>
      rw [firstOpening?] at found
      split at found
      · next here =>
          obtain ⟨rfl, rfl⟩ := Prod.mk.inj (Option.some.inj found)
          exact ⟨c :: text, rfl, here⟩
      · rw [Option.map_eq_some_iff] at found
        obtain ⟨⟨later, other⟩, isLater, isFound⟩ := found
        obtain ⟨rfl, rfl⟩ := Prod.mk.inj isFound
        obtain ⟨inside, rfl, opens⟩ := textHypothesis isLater
        exact ⟨inside, rfl, opens⟩

end Tags

/-! ## Tokens in tags -/

section Tokens

theorem readDigits_suffix (base number : Nat) (text : Text) :
    (readDigits base number text).2 <:+ text := by
  fun_induction readDigits base number text with
  | case1 => exact List.suffix_rfl
  | case2 number c rest digit isDigit restHypothesis =>
      exact restHypothesis.trans (List.suffix_append ['_', c] rest)
  | case3 => exact List.suffix_rfl
  | case4 number c rest notPair digit isDigit restHypothesis =>
      exact restHypothesis.trans (List.suffix_cons c rest)
  | case5 => exact List.suffix_rfl

theorem suffix_of_readNumber?
    {text rest : Text}
    {value : Nat}
    (found : readNumber? text = some (value, rest)) :
    rest <:+ text := by
  unfold readNumber? at found
  split at found
  · next mark others =>
      dsimp only at found
      have zeros := (readDigits_suffix 1 0 (mark :: others)).trans (List.suffix_cons '0' _)
      split at found
      · next base _ =>
          have digits := ((readDigits_suffix base 0 others).trans (List.suffix_cons mark _)).trans
            (List.suffix_cons '0' _)
          split at found
          · rwa [Option.some.inj found] at digits
          · rwa [(Prod.mk.inj (Option.some.inj found)).2] at zeros
      · rwa [(Prod.mk.inj (Option.some.inj found)).2] at zeros
  · next c others _ =>
      split at found
      · have digits := (readDigits_suffix 10 (c.toNat - '0'.toNat) others).trans
          (List.suffix_cons c _)
        rwa [Option.some.inj found] at digits
      · cases found
  · cases found

theorem suffix_of_afterDigits? {text rest : Text} (found : afterDigits? text = some rest) :
    rest <:+ text := by
  unfold afterDigits? at found
  split at found
  · next c others =>
      split at found
      · obtain rfl := Option.some.inj found
        exact (readDigits_suffix 10 0 others).trans (List.suffix_cons c others)
      · cases found
  · cases found

theorem suffix_of_afterExponent? {text rest : Text} (found : afterExponent? text = some rest) :
    rest <:+ text := by
  unfold afterExponent? at found
  split at found
  · next mark others =>
      split at found
      · split at found
        · exact ((suffix_of_afterDigits? found).trans (List.suffix_cons ..)).trans
            (List.suffix_cons ..)
        · exact ((suffix_of_afterDigits? found).trans (List.suffix_cons ..)).trans
            (List.suffix_cons ..)
        · exact (suffix_of_afterDigits? found).trans (List.suffix_cons ..)
      · cases found
  · cases found

theorem suffix_of_afterFraction? {text rest : Text} (found : afterFraction? text = some rest) :
    rest <:+ text := by
  unfold afterFraction? at found
  split at found
  · cases found
  · next afterWhole isWhole =>
      have wholeSuffix := suffix_of_afterDigits? isWhole
      dsimp only at found
      split at found
      · next after isAfter =>
          obtain ⟨digits, isPoint, areDigits⟩ := Option.bind_eq_some_iff.mp isAfter
          have afterSuffix : after <:+ text :=
            (suffix_of_afterDigits? areDigits).trans
              ((suffix_of_afterPrefix? isPoint).trans wholeSuffix)
          rcases Option.or_eq_some_iff.mp found with isExponent | ⟨-, isEnd⟩
          · exact (suffix_of_afterExponent? isExponent).trans afterSuffix
          · obtain rfl := Option.some.inj isEnd
            exact afterSuffix
      · exact (suffix_of_afterExponent? found).trans wholeSuffix

/-- The body of a string ends at its quote. -/
theorem exists_of_stringBody?
    {quote : Char}
    {text body after : Text}
    (found : stringBody? quote text = some (body, after)) :
    text = body ++ quote :: after := by
  fun_induction stringBody? quote text generalizing body after with
  | case1 => cases found
  | case2 c rest restHypothesis =>
      rw [Option.map_eq_some_iff] at found
      obtain ⟨⟨later, left⟩, isLater, isFound⟩ := found
      obtain ⟨rfl, rfl⟩ := Prod.mk.inj isFound
      rw [restHypothesis isLater, List.cons_append, List.cons_append]
  | case3 rest notEscape =>
      obtain ⟨rfl, rfl⟩ := Prod.mk.inj (Option.some.inj found)
      rfl
  | case4 => cases found
  | case5 c rest _ _ _ restHypothesis =>
      rw [Option.map_eq_some_iff] at found
      obtain ⟨⟨later, left⟩, isLater, isFound⟩ := found
      obtain ⟨rfl, rfl⟩ := Prod.mk.inj isFound
      rw [restHypothesis isLater, List.cons_append]

end Tokens

end Template
end SkillNode
