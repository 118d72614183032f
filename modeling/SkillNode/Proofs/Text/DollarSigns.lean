import SkillNode.Cpp.Literal
import SkillNode.FileTree.Path
import SkillNode.Proofs.Naming.Identifiers

/-!
# Dollar signs in derived texts

Texts that are derived from others hold no dollar sign of their own: changing case,
cutting, joining and escaping bring none in, and names that are made of word characters
have none whatever they are made from.
-/

namespace SkillNode
namespace Text

variable {c : Char} {text : Text}

/-! ## Cutting and joining -/

theorem mem_of_mem_splitOn
    {separator : Char}
    {piece : Text}
    (pieceMember : piece ∈ splitOn separator text)
    (member : c ∈ piece) :
    c ∈ text := by
  induction text generalizing piece with
  | nil =>
      obtain rfl : piece = [] := by simpa [splitOn] using pieceMember
      exact member
  | cons first rest restHypothesis =>
      unfold splitOn at pieceMember
      split at pieceMember
      · rcases List.mem_cons.mp pieceMember with rfl | later
        · cases member
        · exact List.mem_cons_of_mem _ (restHypothesis later member)
      · split at pieceMember
        · next noPiece => exact absurd noPiece (splitOn_ne_nil separator rest)
        · next head pieces cut =>
            rw [cut] at restHypothesis
            rcases List.mem_cons.mp pieceMember with rfl | later
            · rcases List.mem_cons.mp member with rfl | inHead
              · exact List.mem_cons_self ..
              · exact List.mem_cons_of_mem _ (restHypothesis (List.mem_cons_self ..) inHead)
            · exact List.mem_cons_of_mem _
                (restHypothesis (List.mem_cons_of_mem _ later) member)

theorem mem_of_mem_segments
    {separator : Char}
    {piece : Text}
    (pieceMember : piece ∈ segments separator text)
    (member : c ∈ piece) :
    c ∈ text :=
  mem_of_mem_splitOn (List.mem_filter.mp pieceMember).1 member

theorem mem_of_mem_join
    {separator : Text}
    {pieces : List Text}
    (member : c ∈ join separator pieces) :
    c ∈ separator ∨ ∃ piece ∈ pieces, c ∈ piece := by
  unfold join at member
  induction pieces with
  | nil => simp [List.intercalate_nil] at member
  | cons first rest restHypothesis =>
      cases rest with
      | nil =>
          rw [List.intercalate_singleton] at member
          exact .inr ⟨first, List.mem_cons_self .., member⟩
      | cons second others =>
          rw [List.intercalate_cons_cons, List.mem_append, List.mem_append] at member
          rcases member with (inFirst | inSeparator) | later
          · exact .inr ⟨first, List.mem_cons_self .., inFirst⟩
          · exact .inl inSeparator
          · exact (restHypothesis later).imp id fun ⟨piece, pieceMember, inPiece⟩ =>
              ⟨piece, List.mem_cons_of_mem _ pieceMember, inPiece⟩

theorem mem_of_mem_trimEnd (member : c ∈ trimEnd text) : c ∈ text :=
  (trimEnd_isPrefix text).mem member

/-! ## Numbers -/

theorem dollar_notMem_ofNat (number : Nat) : '$' ∉ ofNat number := by
  intro member
  have isDigit := Nat.isDigit_of_mem_toDigits (by decide) (by decide) member
  revert isDigit
  decide

theorem dollar_notMem_ofInt (number : Int) : '$' ∉ ofInt number := by
  cases number with
  | ofNat number => exact dollar_notMem_ofNat number
  | negSucc number => simp [ofInt, dollar_notMem_ofNat]

/-! ## Case -/

theorem eq_of_ofNat_eq_dollar {code : Nat} (isDollar : Char.ofNat code = '$') : code = 36 := by
  by_cases valid : code.isValidChar
  · have sameCode : (Char.ofNat code).toNat = code := by
      rw [Char.ofNat, dif_pos valid]
      rfl
    rw [← sameCode, isDollar]
    rfl
  · rw [Char.ofNat, dif_neg valid] at isDollar
    exact absurd isDollar (by decide)

/-- A table of case mappings in which no image is a dollar sign, and all images of runs
come after it. -/
def AvoidsDollar
    (expansions : List (Nat × List Nat))
    (runs : List (Nat × Nat × Nat × Nat)) : Prop :=
  (∀ expansion ∈ expansions, 36 ∉ expansion.2) ∧ ∀ run ∈ runs, 36 < run.2.2.2

theorem eq_dollar_of_mem_mapCase
    {expansions : List (Nat × List Nat)}
    {runs : List (Nat × Nat × Nat × Nat)}
    (avoids : AvoidsDollar expansions runs)
    (member : '$' ∈ mapCase expansions runs c) :
    c = '$' := by
  unfold mapCase at member
  split at member
  · next image found =>
      obtain ⟨code, codeMember, isDollar⟩ := List.mem_map.mp member
      rw [eq_of_ofNat_eq_dollar isDollar] at codeMember
      exact absurd codeMember (avoids.1 _ (List.mem_of_find?_eq_some found))
  · split at member
    · next image found =>
        have isDollar := eq_of_ofNat_eq_dollar (List.mem_singleton.mp member).symm
        unfold mapRuns? at found
        obtain ⟨⟨first, last, step, start⟩, isRun, isImage⟩ := Option.map_eq_some_iff.mp found
        have after := avoids.2 _ (List.mem_of_find?_eq_some isRun)
        dsimp only at isImage after
        omega
    · exact (List.mem_singleton.mp member).symm

theorem upper_avoidsDollar : AvoidsDollar upperExpansions upperRuns := by
  unfold AvoidsDollar
  decide +kernel

theorem lower_avoidsDollar : AvoidsDollar lowerExpansions lowerRuns := by
  unfold AvoidsDollar
  decide +kernel

/-- A property of the ASCII characters may be checked on their codes. -/
theorem forall_ascii
    (Holds : Char → Prop)
    (checked : ∀ code < 128, Holds (Char.ofNat code))
    (ascii : c.toNat < 128) :
    Holds c := by
  rw [← Char.ofNat_toNat c]
  exact checked c.toNat ascii

theorem eq_dollar_of_mem_upperOf (member : '$' ∈ upperOf c) : c = '$' := by
  unfold upperOf at member
  split at member
  · next ascii =>
      exact forall_ascii (fun c => '$' ∈ [c.toUpper] → c = '$') (by decide) ascii member
  · exact eq_dollar_of_mem_mapCase upper_avoidsDollar member

theorem eq_dollar_of_mem_lowerOf (member : '$' ∈ lowerOf c) : c = '$' := by
  unfold lowerOf at member
  split at member
  · next ascii =>
      exact forall_ascii (fun c => '$' ∈ [c.toLower] → c = '$') (by decide) ascii member
  · exact eq_dollar_of_mem_mapCase lower_avoidsDollar member

/-- A text in capitals has a dollar sign only if the text has. -/
theorem dollar_mem_of_upper (member : '$' ∈ upper text) : '$' ∈ text := by
  obtain ⟨c, inText, inImage⟩ := List.mem_flatMap.mp member
  exact eq_dollar_of_mem_upperOf inImage ▸ inText

theorem dollar_mem_of_lowerAfter
    {casedBefore : Bool}
    (member : '$' ∈ lowerAfter casedBefore text) :
    '$' ∈ text := by
  induction text generalizing casedBefore with
  | nil => simp [lowerAfter] at member
  | cons c rest restHypothesis =>
      unfold lowerAfter at member
      rcases List.mem_append.mp member with inSmall | later
      · split at inSmall
        · split at inSmall <;> simp at inSmall
        · rw [eq_dollar_of_mem_lowerOf inSmall]
          exact List.mem_cons_self ..
      · exact List.mem_cons_of_mem _ (restHypothesis later)

theorem dollar_mem_of_lower (member : '$' ∈ lower text) : '$' ∈ text :=
  dollar_mem_of_lowerAfter member

theorem dollar_mem_of_capitalize (member : '$' ∈ capitalize text) : '$' ∈ text := by
  cases text with
  | nil => exact member
  | cons c rest =>
      rcases List.mem_append.mp member with inImage | later
      · rw [eq_dollar_of_mem_upperOf inImage]
        exact List.mem_cons_self ..
      · exact List.mem_cons_of_mem _ later

end Text

/-! ## Names -/

namespace Naming

open Text

variable {name : Text}

/-- An identifier has no dollar sign, whatever it stands for. -/
theorem dollar_notMem_identifier (name : Text) : '$' ∉ identifier name := by
  intro member
  have isLetter := ((mem_identifier_iff (by decide)).mp member).2
  revert isLetter
  decide

theorem dollar_mem_of_pascalCase (member : '$' ∈ pascalCase name) : '$' ∈ name := by
  obtain ⟨word, isWord, inWord⟩ := List.mem_flatMap.mp member
  exact mem_of_mem_segments isWord (dollar_mem_of_capitalize inWord)

theorem dollar_mem_of_snakeCase (member : '$' ∈ snakeCase name) : '$' ∈ name := by
  have inMarked := dollar_mem_of_lower member
  cases name with
  | nil => exact inMarked
  | cons c rest =>
      rcases List.mem_cons.mp inMarked with rfl | later
      · exact List.mem_cons_self ..
      · obtain ⟨d, inRest, inImage⟩ := List.mem_flatMap.mp later
        refine List.mem_cons_of_mem _ ?_
        split at inImage
        · rcases List.mem_cons.mp inImage with isUnderscore | isSame
          · cases isUnderscore
          · rwa [List.mem_singleton.mp isSame]
        · rwa [List.mem_singleton.mp inImage]

end Naming

/-! ## Literals and paths -/

theorem Cpp.dollar_mem_of_escape {text : Text} (member : '$' ∈ Cpp.escape text) : '$' ∈ text := by
  obtain ⟨c, inText, inImage⟩ := List.mem_flatMap.mp member
  unfold Cpp.escapeChar at inImage
  split at inImage
  all_goals first
    | exact absurd inImage (by decide)
    | exact List.mem_singleton.mp inImage ▸ inText

theorem FileTree.Path.dollar_mem_of_name
    {text : Text}
    (member : '$' ∈ (FileTree.Path.ofText text).name) :
    '$' ∈ text := by
  unfold FileTree.Path.name at member
  cases last : (FileTree.Path.ofText text).parts.getLast? with
  | none => simp [last] at member
  | some part =>
      have isPart : part ∈ FileTree.Path.partsOf text := List.mem_of_getLast? last
      rw [last] at member
      exact Text.mem_of_mem_segments (List.mem_filter.mp isPart).1 member

end SkillNode
