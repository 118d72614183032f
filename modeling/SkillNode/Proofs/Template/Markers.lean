import SkillNode.Template.Marker

/-!
# Markers in texts

The search for markers finds one exactly if the text holds one somewhere: a name
between two dollar signs. What it finds is the first of them and the line on which it
starts. A text without dollar signs holds none.
-/

namespace SkillNode
namespace Template

/-- Whether a text may stand between the dollar signs of a marker. -/
def isMarkerName : Text → Bool
  | [] => false
  | c :: rest => Text.isAsciiWordStart c && rest.all isMarkerCharacter

/-- A text holds a marker if a name stands between two dollar signs in it. -/
def HoldsMarker (text : Text) : Prop :=
  ∃ before name after, text = before ++ '$' :: (name ++ '$' :: after) ∧ isMarkerName name

theorem isMarkerCharacter_of_start {c : Char} (starts : Text.isAsciiWordStart c) :
    isMarkerCharacter c := by
  simp only [Text.isAsciiWordStart, isMarkerCharacter, Text.isAsciiWord, Char.isAlphanum,
    Bool.or_eq_true] at starts ⊢
  rcases starts with isAlpha | isUnderscore
  · exact .inl (.inl (.inl (.inl isAlpha)))
  · exact .inl (.inl (.inr isUnderscore))

theorem isMarkerCharacter_of_mem {name : Text} (isName : isMarkerName name) :
    ∀ c ∈ name, isMarkerCharacter c := by
  cases name with
  | nil => simp
  | cons c rest =>
      rw [isMarkerName, Bool.and_eq_true, List.all_eq_true] at isName
      intro d member
      rcases List.mem_cons.mp member with rfl | later
      · exact isMarkerCharacter_of_start isName.1
      · exact isName.2 d later

/-- The name of a marker is all there is up to the next dollar sign. -/
theorem takeWhile_isMarkerCharacter {name : Text} (isName : isMarkerName name) (after : Text) :
    (name ++ '$' :: after).takeWhile isMarkerCharacter = name := by
  have noDollar : isMarkerCharacter '$' = false := by decide
  rw [List.takeWhile_append_of_pos (isMarkerCharacter_of_mem isName)]
  simp [noDollar]

theorem isMarkerName_iff {name : Text} (isMarked : ∀ c ∈ name, isMarkerCharacter c) :
    isMarkerName name ↔ (name.head?.map Text.isAsciiWordStart).getD false := by
  cases name with
  | nil => simp [isMarkerName]
  | cons c rest =>
      have restMarked : ∀ d ∈ rest, isMarkerCharacter d :=
        fun d member => isMarked d (List.mem_cons_of_mem _ member)
      simpa [isMarkerName] using fun _ => restMarked

/-- At a place a marker is found exactly if one stands there. -/
theorem markerAt?_eq_some_iff {text name : Text} :
    markerAt? text = some name ↔
      ∃ after, text = '$' :: (name ++ '$' :: after) ∧ isMarkerName name := by
  constructor
  · intro found
    unfold markerAt? at found
    split at found
    · next rest =>
        dsimp only at found
        split at found
        · next isMarker =>
            obtain rfl := Option.some.inj found
            rw [Bool.and_eq_true, decide_eq_true_eq] at isMarker
            obtain ⟨starts, closes⟩ := isMarker
            obtain ⟨after, closed⟩ := List.head?_eq_some_iff.mp closes
            -- The name is what was taken, and the rest begins with the closing dollar sign.
            have isPrefix :=
              List.prefix_iff_eq_take.mp (@List.takeWhile_prefix _ rest isMarkerCharacter)
            refine ⟨after, congrArg _ ?_, (isMarkerName_iff fun c member => ?_).mpr starts⟩
            · rw [← closed]
              calc rest
                  = rest.take (rest.takeWhile isMarkerCharacter).length ++
                      rest.drop (rest.takeWhile isMarkerCharacter).length :=
                    (List.take_append_drop _ rest).symm
                _ = _ := by rw [← isPrefix]
            · exact List.all_eq_true.mp List.all_takeWhile c member
        · cases found
    · cases found
  · rintro ⟨after, rfl, isName⟩
    have taken := takeWhile_isMarkerCharacter isName after
    have starts := (isMarkerName_iff (isMarkerCharacter_of_mem isName)).mp isName
    simp [markerAt?, taken, starts]

theorem holdsMarker_cons {c : Char} {rest : Text} :
    HoldsMarker (c :: rest) ↔ (∃ name, markerAt? (c :: rest) = some name) ∨ HoldsMarker rest := by
  constructor
  · rintro ⟨before, name, after, whole, isName⟩
    cases before with
    | nil => exact .inl ⟨name, markerAt?_eq_some_iff.mpr ⟨after, whole, isName⟩⟩
    | cons d before =>
        exact .inr ⟨before, name, after, (List.cons.inj whole).2, isName⟩
  · rintro (⟨name, found⟩ | ⟨before, name, after, rfl, isName⟩)
    · obtain ⟨after, whole, isName⟩ := markerAt?_eq_some_iff.mp found
      exact ⟨[], name, after, whole, isName⟩
    · exact ⟨c :: before, name, after, rfl, isName⟩

/-- The search finds nothing exactly if there is no marker. -/
theorem firstMarker?_eq_none_iff {line : Nat} {text : Text} :
    firstMarker? line text = none ↔ ¬ HoldsMarker text := by
  induction text generalizing line with
  | nil => simp [firstMarker?, HoldsMarker]
  | cons c rest restHypothesis =>
      rw [firstMarker?, holdsMarker_cons, not_or]
      cases found : markerAt? (c :: rest) with
      | some name => simp
      | none => simpa using restHypothesis

/-- A marker needs dollar signs. -/
theorem not_holdsMarker_of_notMem {text : Text} (noDollar : '$' ∉ text) : ¬ HoldsMarker text := by
  rintro ⟨before, name, after, rfl, _⟩
  simp at noDollar

/-! ## The first marker -/

/-- The first marker of a text, after a part of it that no marker starts in. -/
structure IsFirstMarker (text before name : Text) : Prop where
  stands : ∃ after, text = before ++ '$' :: (name ++ '$' :: after)
  isName : isMarkerName name
  isFirst : ∀ earlier other after, text = earlier ++ '$' :: (other ++ '$' :: after) →
    isMarkerName other → before.length ≤ earlier.length

theorem isFirstMarker_of_markerAt?
    {text name : Text}
    (found : markerAt? text = some name) :
    IsFirstMarker text [] name := by
  obtain ⟨after, whole, isName⟩ := markerAt?_eq_some_iff.mp found
  exact ⟨⟨after, whole⟩, isName, fun _ _ _ _ _ => Nat.zero_le _⟩

/-- Where no marker starts at a character, the first one is that of the rest. -/
theorem IsFirstMarker.cons
    {c : Char}
    {rest before name : Text}
    (notHere : markerAt? (c :: rest) = none)
    (isFirst : IsFirstMarker rest before name) :
    IsFirstMarker (c :: rest) (c :: before) name := by
  obtain ⟨after, rfl⟩ := isFirst.stands
  refine ⟨⟨after, rfl⟩, isFirst.isName, ?_⟩
  intro earlier other otherAfter whole isName
  cases earlier with
  | nil =>
      rw [markerAt?_eq_some_iff.mpr ⟨otherAfter, whole, isName⟩] at notHere
      cases notHere
  | cons d earlier =>
      exact Nat.succ_le_succ
        (isFirst.isFirst earlier other otherAfter (List.cons.inj whole).2 isName)

/-- The search ends at the first marker, on its line. -/
theorem isFirstMarker_of_firstMarker?
    {line found : Nat}
    {text name : Text}
    (isFound : firstMarker? line text = some (found, name)) :
    ∃ before, IsFirstMarker text before name ∧ found = line + Text.lineFeeds before := by
  induction text generalizing line with
  | nil => cases isFound
  | cons c rest restHypothesis =>
      rw [firstMarker?] at isFound
      cases here : markerAt? (c :: rest) with
      | some other =>
          rw [here] at isFound
          obtain ⟨rfl, rfl⟩ := Prod.mk.inj (Option.some.inj isFound)
          exact ⟨[], isFirstMarker_of_markerAt? here, rfl⟩
      | none =>
          rw [here] at isFound
          obtain ⟨before, isFirst, rfl⟩ := restHypothesis isFound
          refine ⟨c :: before, isFirst.cons here, ?_⟩
          rw [Text.lineFeeds_cons, ← Nat.add_assoc]
          split <;> rfl

end Template
end SkillNode
