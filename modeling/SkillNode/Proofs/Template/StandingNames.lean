import SkillNode.Proofs.Template.CutTexts
import SkillNode.Proofs.Template.NamePlaces

/-!
# Names among tokens

A name that is cut off a template stands there as a word, on the line that the token has. Only one
right after a number may not: the digits of a number are word characters too.

Cutting keeps count of the lines, and it leaves off in the middle of a word only after a number.
-/

namespace SkillNode
namespace Template

/-- A token of a number. -/
def Token.isNumeral : Token → Bool
  | .number _ | .fraction | .longNumber => true
  | _ => false

theorem isNumeral_numberToken (written : Text) (number : Nat) :
    (numberToken written number).isNumeral = true := by
  unfold numberToken
  dsimp only
  split <;> rfl

/-- A name stands in a template as a word on a line. -/
def StandsOn (source : Text) (line : Nat) (name : Text) : Prop :=
  Text.isIdentifier name = true ∧
    ∃ before, StandsAsWord source name before ∧ line = 1 + Text.lineFeeds before

/-- The names among tokens stand in a template on their lines, those right after numbers apart. -/
def NamesStand (source : Text) : Bool → List PlacedToken → Prop
  | _, [] => True
  | afterNumeral, ⟨line, token⟩ :: rest =>
      (afterNumeral = false → ∀ name, token = .name name → StandsOn source line name) ∧
        NamesStand source token.isNumeral rest

/-! ## What has been cut off -/

/-- A text is what is left of a template from a line on. -/
def IsReached (source : Text) (line : Nat) (text : Text) : Prop :=
  ∃ before, source = before ++ text ∧ line = 1 + Text.lineFeeds before

/-- A text is what is left of a template from a line on, and unless a number stands before it, it
does not start in the middle of a word. -/
def IsReachedInTag (source : Text) (afterNumeral : Bool) (line : Nat) (text : Text) : Prop :=
  ∃ before, source = before ++ text ∧ line = 1 + Text.lineFeeds before ∧
    (afterNumeral = false → isInWord text.head? = true → isInWord before.getLast? = false)

section Reached

variable {source text rest taken : Text} {line : Nat}

theorem isReached_start (source : Text) : IsReached source 1 source := ⟨[], rfl, rfl⟩

theorem IsReached.append (reached : IsReached source line (taken ++ rest)) :
    IsReached source (line + Text.lineFeeds taken) rest := by
  obtain ⟨before, rfl, rfl⟩ := reached
  exact ⟨before ++ taken, (List.append_assoc ..).symm, by rw [Text.lineFeeds_append, Nat.add_assoc]⟩

theorem IsReached.suffix (reached : IsReached source line text) (isSuffix : rest <:+ text) :
    IsReached source (line + Text.lineFeeds (takenBefore text rest)) rest := by
  rw [← takenBefore_append_self isSuffix] at reached
  exact reached.append

theorem IsReachedInTag.isReached
    {afterNumeral : Bool}
    (reached : IsReachedInTag source afterNumeral line text) :
    IsReached source line text := by
  obtain ⟨before, whole, isLine, -⟩ := reached
  exact ⟨before, whole, isLine⟩

/-- Past something that ends in no word, what is left does not start in the middle of one. -/
theorem IsReached.inTag
    {last : Char}
    (reached : IsReached source line (taken ++ rest))
    (isLast : taken.getLast? = some last)
    (noWord : Text.isWordCharacter last = false)
    (afterNumeral : Bool) :
    IsReachedInTag source afterNumeral (line + Text.lineFeeds taken) rest := by
  obtain ⟨before, rfl, rfl⟩ := reached
  refine ⟨before ++ taken, (List.append_assoc ..).symm, ?_, fun _ _ => ?_⟩
  · rw [Text.lineFeeds_append, Nat.add_assoc]
  · rw [List.getLast?_append, isLast]
    exact noWord

/-- Past the end of a word, what is left does not start in the middle of one. -/
theorem IsReached.inTag_of_head
    (reached : IsReached source line text)
    (noWord : isInWord text.head? = false)
    (afterNumeral : Bool) :
    IsReachedInTag source afterNumeral line text := by
  obtain ⟨before, whole, isLine⟩ := reached
  refine ⟨before, whole, isLine, fun _ inWord => ?_⟩
  rw [noWord] at inWord
  cases inWord

/-- Nothing is asked of what is left after a number. -/
theorem IsReached.inTag_of_numeral (reached : IsReached source line text) :
    IsReachedInTag source true line text := by
  obtain ⟨before, whole, isLine⟩ := reached
  exact ⟨before, whole, isLine, nofun⟩

/-- The signs at the beginning of a tag are cut off. -/
theorem IsReached.afterSigns
    (reached : IsReached source line text)
    (isAfter : IsAfterSigns text rest)
    (afterNumeral : Bool) :
    IsReachedInTag source afterNumeral line rest := by
  obtain ⟨taken, rfl, notEmpty, areSigns⟩ := isAfter
  have isLast := List.getLast?_eq_some_getLast notEmpty
  have noWord : tagSigns.any Text.isWordCharacter = false := by decide
  have noBreak : '\n' ∉ tagSigns := by decide
  have isSign := areSigns _ (List.getLast_mem notEmpty)
  have inTag := reached.inTag isLast
    (Bool.eq_false_iff.mpr (List.any_eq_false.mp noWord _ isSign)) afterNumeral
  rwa [Text.lineFeeds_of_notMem fun member => noBreak (areSigns _ member), Nat.add_zero] at inTag

end Reached

/-! ## Names that are cut off -/

/-- A name that is cut off stands there. -/
theorem standsOn_of_isReachedInTag
    {source name rest : Text}
    {line : Nat}
    (isName : Text.isIdentifier name = true)
    (ends : isInWord rest.head? = false)
    (reached : IsReachedInTag source false line (name ++ rest)) :
    StandsOn source line name := by
  obtain ⟨before, whole, isLine, isEdge⟩ := reached
  have starts : isInWord before.getLast? = false :=
    isEdge rfl (isInWord_head?_of_isIdentifier isName rest)
  exact ⟨isName, before, ⟨rest, whole, starts, ends⟩, isLine⟩

/-- A token that is cut off a text, and what is left of it. -/
structure IsCut (text : Text) (token : Token) (rest : Text) : Prop where
  suffix : rest <:+ text
  name : ∀ name, token = .name name →
    Text.isIdentifier name = true ∧ text = name ++ rest ∧ isInWord rest.head? = false
  /-- What is neither a number nor a name ends in no word. -/
  ends : token.isNumeral = false → (∃ name, token = .name name) ∨
    ∃ taken last, text = taken ++ rest ∧ taken.getLast? = some last ∧
      Text.isWordCharacter last = false

theorem isCut_numeral
    {text rest : Text}
    {token : Token}
    (isSuffix : rest <:+ text)
    (isNumeral : token.isNumeral = true) :
    IsCut text token rest := by
  refine ⟨isSuffix, ?_, ?_⟩
  · rintro name rfl
    cases isNumeral
  · intro notNumeral
    rw [isNumeral] at notNumeral
    cases notNumeral

theorem isCut_name
    {name rest : Text}
    (isName : Text.isIdentifier name = true)
    (ends : isInWord rest.head? = false) :
    IsCut (name ++ rest) (.name name) rest := by
  refine ⟨List.suffix_append name rest, ?_, fun _ => .inl ⟨name, rfl⟩⟩
  rintro other ⟨⟩
  exact ⟨isName, rfl, ends⟩

theorem isCut_of_last
    {taken rest : Text}
    {token : Token}
    {last : Char}
    (noName : ∀ name, token ≠ .name name)
    (isLast : taken.getLast? = some last)
    (noWord : Text.isWordCharacter last = false) :
    IsCut (taken ++ rest) token rest :=
  ⟨List.suffix_append taken rest, fun name isName => absurd isName (noName name),
    fun _ => .inr ⟨taken, last, rfl, isLast, noWord⟩⟩

/-- Every sign ends in no word. -/
theorem exists_getLast?_of_mem_signs :
    ∀ sign ∈ signs, ∃ last, sign.getLast? = some last ∧ Text.isWordCharacter last = false := by
  have checked : ∀ sign ∈ signs,
      (sign.getLast?.map fun last => !Text.isWordCharacter last) = some true := by
    decide
  intro sign member
  obtain ⟨last, isLast, noWord⟩ := Option.map_eq_some_iff.mp (checked sign member)
  exact ⟨last, isLast, by simpa using noWord⟩

/-- A run of word characters is cut off whole. -/
theorem isCut_word
    {text : Text}
    (isName : Text.isIdentifier (text.takeWhile Text.isWordCharacter) = true) :
    IsCut text (.name (text.takeWhile Text.isWordCharacter))
      (text.drop (text.takeWhile Text.isWordCharacter).length) := by
  have whole := List.takeWhile_append_dropWhile (p := Text.isWordCharacter) (l := text)
  have isRest : text.drop (text.takeWhile Text.isWordCharacter).length =
      text.dropWhile Text.isWordCharacter := by
    calc text.drop (text.takeWhile Text.isWordCharacter).length
        = (text.takeWhile Text.isWordCharacter ++ text.dropWhile Text.isWordCharacter).drop
            (text.takeWhile Text.isWordCharacter).length := by rw [whole]
      _ = text.dropWhile Text.isWordCharacter := List.drop_left
  have ends : isInWord (text.dropWhile Text.isWordCharacter).head? = false := by
    have stops := List.head?_dropWhile_not Text.isWordCharacter text
    cases isHead : (text.dropWhile Text.isWordCharacter).head? with
    | none => rfl
    | some c =>
        rw [isHead] at stops
        exact stops
  have cut := isCut_name isName ends
  rwa [whole, ← isRest] at cut

/-- A string with its quotes is cut off whole. -/
theorem isCut_string
    {quote : Char}
    {body rest : Text}
    {token : Token}
    (noName : ∀ name, token ≠ .name name)
    (isQuote : quote = '\'' ∨ quote = '"') :
    IsCut (quote :: (body ++ quote :: rest)) token rest := by
  have noWord : Text.isWordCharacter quote = false := by
    rcases isQuote with rfl | rfl <;> decide
  have isLast : (quote :: body ++ [quote]).getLast? = some quote := List.getLast?_concat
  have cut : IsCut (quote :: body ++ [quote] ++ rest) token rest :=
    isCut_of_last noName isLast noWord
  rwa [List.append_assoc] at cut

theorem isCut_of_cutToken
    {afterPoint : Bool}
    {text rest : Text}
    {token : Token}
    (cut : cutToken afterPoint text = (token, rest))
    (noFault : token ≠ .fault) :
    IsCut text token rest := by
  unfold cutToken at cut
  dsimp only at cut
  split at cut
  · next after isFraction =>
      obtain ⟨rfl, rfl⟩ := Prod.mk.inj cut
      split at isFraction
      · cases isFraction
      · exact isCut_numeral (suffix_of_afterFraction? isFraction) rfl
  · split at cut
    · next value after isNumber =>
        obtain ⟨rfl, rfl⟩ := Prod.mk.inj cut
        exact isCut_numeral (suffix_of_readNumber? isNumber) (isNumeral_numberToken _ _)
    · split at cut
      · obtain ⟨isToken, rfl⟩ := Prod.mk.inj cut
        split at isToken
        · next isName =>
            obtain rfl := isToken
            exact isCut_word isName
        · exact absurd isToken.symm noFault
      · split at cut
        · next c others _ _ =>
            split at cut
            · next body after isString =>
                split at isString
                · next isQuote =>
                    rw [Bool.or_eq_true, decide_eq_true_eq, decide_eq_true_eq] at isQuote
                    rw [exists_of_stringBody? isString]
                    split at cut
                    · obtain ⟨rfl, rfl⟩ := Prod.mk.inj cut
                      exact isCut_string nofun isQuote
                    · obtain ⟨rfl, -⟩ := Prod.mk.inj cut
                      exact absurd rfl noFault
                · cases isString
            · split at cut
              · next sign isSign =>
                  obtain ⟨rfl, rfl⟩ := Prod.mk.inj cut
                  obtain ⟨last, isLast, noWord⟩ :=
                    exists_getLast?_of_mem_signs sign (List.mem_of_find?_eq_some isSign)
                  have starts := List.find?_some isSign
                  obtain ⟨after, isWhole⟩ := List.isPrefixOf_iff_prefix.mp starts
                  rw [← isWhole, List.drop_left]
                  exact isCut_of_last nofun isLast noWord
              · obtain ⟨rfl, -⟩ := Prod.mk.inj cut
                exact absurd rfl noFault
        · obtain ⟨rfl, -⟩ := Prod.mk.inj cut
          exact absurd rfl noFault

/-- Past a token that is cut off, what is left starts in the middle of a word only if the token
is a number. -/
theorem IsReached.afterToken
    {source text rest : Text}
    {line : Nat}
    {token : Token}
    (reached : IsReached source line text)
    (isCut : IsCut text token rest) :
    IsReachedInTag source token.isNumeral (line + Text.lineFeeds (takenBefore text rest)) rest := by
  have left := reached.suffix isCut.suffix
  cases isNumeral : token.isNumeral with
  | true => exact left.inTag_of_numeral
  | false =>
      rcases isCut.ends isNumeral with ⟨name, isName⟩ | ⟨taken, last, rfl, isLast, noWord⟩
      · exact left.inTag_of_head (isCut.name name isName).2.2 false
      · rw [takenBefore_append]
        exact reached.inTag isLast noWord false

theorem standsOn_of_isCut
    {source text rest name : Text}
    {line : Nat}
    (reached : IsReachedInTag source false line text)
    (isCut : IsCut text (.name name) rest) :
    StandsOn source line name := by
  obtain ⟨isName, rfl, ends⟩ := isCut.name name rfl
  exact standsOn_of_isReachedInTag isName ends reached

/-! ## Cutting step by step -/

section Steps

variable {source : Text} {fuel : Nat}

/-- Cut from outside of tags with some fuel, the names stand in the template. -/
def TextNamesStand (source : Text) (fuel : Nat) : Prop :=
  ∀ {lineStarting line text} afterNumeral, IsReached source line text →
    NamesStand source afterNumeral (tokensFrom fuel (.inText lineStarting) line text)

/-- Cut from inside of a tag with some fuel, the names stand in the template. -/
def TagNamesStand (source : Text) (fuel : Nat) : Prop :=
  ∀ {isOutput awaited afterPoint line text afterNumeral},
    IsReachedInTag source afterNumeral line text →
      NamesStand source afterNumeral
        (tokensFrom fuel (.inTag isOutput awaited afterPoint) line text)

theorem namesStand_nil (afterNumeral : Bool) : NamesStand source afterNumeral [] := trivial

/-- A token that is no name leaves the question to those after it. -/
theorem namesStand_cons
    (line : Nat)
    (token : Token)
    {rest : List PlacedToken}
    (noName : ∀ name, token ≠ .name name)
    (restStand : NamesStand source token.isNumeral rest)
    (afterNumeral : Bool) :
    NamesStand source afterNumeral (⟨line, token⟩ :: rest) :=
  ⟨fun _ name isName => absurd isName (noName name), restStand⟩

theorem namesStand_fault (line : Nat) (afterNumeral : Bool) :
    NamesStand source afterNumeral [⟨line, .fault⟩] :=
  namesStand_cons line .fault nofun (namesStand_nil false) afterNumeral

theorem namesStand_dataToken_append
    {rest : List PlacedToken}
    (restStand : ∀ afterNumeral, NamesStand source afterNumeral rest)
    (line : Nat)
    (content : Text)
    (afterNumeral : Bool) :
    NamesStand source afterNumeral (dataToken line content ++ rest) := by
  rw [dataToken]
  split
  · exact restStand afterNumeral
  · exact namesStand_cons line (.data content) nofun (restStand false) afterNumeral

/-- Outside of tags, text and the beginning of a tag are cut off. -/
theorem textNamesStand_succ
    (textStands : TextNamesStand source fuel)
    (tagStands : TagNamesStand source fuel) :
    TextNamesStand source (fuel + 1) := by
  intro lineStarting line text afterNumeral reached
  rw [tokensFrom]
  split
  · rw [← List.append_nil (dataToken line text)]
    exact namesStand_dataToken_append namesStand_nil line text afterNumeral
  · next before kind sign rest isFirst =>
      obtain ⟨inside, rfl, opens⟩ := exists_of_firstOpening? isFirst
      have opened : IsReached source (line + Text.lineFeeds before) inside := reached.append
      refine namesStand_dataToken_append (fun flag => ?_) _ _ afterNumeral
      cases kind with
      | output =>
          have begun := opened.afterSigns (isAfterSigns_of_openingAt? opens nofun) false
          exact namesStand_cons _ .outputBegin nofun (tagStands begun) flag
      | statement =>
          have begun := opened.afterSigns (isAfterSigns_of_openingAt? opens nofun) false
          exact namesStand_cons _ .statementBegin nofun (tagStands begun) flag
      | comment =>
          have begun := opened.afterSigns (isAfterSigns_of_openingAt? opens nofun) false
          dsimp only
          split
          · exact namesStand_fault _ flag
          · next after isAfter =>
              exact textStands flag (begun.isReached.suffix (suffix_of_afterComment? isAfter))
      | raw =>
          have isSuffix := suffix_of_openingAt? opens
          have begun := opened.suffix isSuffix
          -- What was taken of the text from its start on is the text before the tag and the tag.
          have isOpening : (takenBefore (before ++ inside) rest).drop before.length =
              takenBefore inside rest := by
            obtain ⟨taken, rfl⟩ := isSuffix
            rw [← List.append_assoc, takenBefore_append, List.drop_left, takenBefore_append]
          dsimp only
          rw [isOpening]
          split
          · exact namesStand_fault _ flag
          · next content endSign after isPart =>
              refine namesStand_dataToken_append (fun flag => ?_) _ _ flag
              exact textStands flag (begun.suffix (suffix_of_rawPart? isPart))

/-- What follows the end of a tag is an end of the text. -/
theorem suffix_of_tagEnd
    {isOutput : Bool}
    {awaited : List Text}
    {text rest : Text}
    (found : (if !awaited.isEmpty then none
      else if isOutput then afterOutputEnd? text else afterEnd? "%" text) = some rest) :
    rest <:+ text := by
  split at found
  · cases found
  · split at found
    · exact suffix_of_afterOutputEnd? found
    · exact suffix_of_afterEnd? found

theorem namesStand_tagEnd
    (textStands : TextNamesStand source fuel)
    {text rest : Text}
    {line : Nat}
    (reached : IsReached source line text)
    (isSuffix : rest <:+ text)
    (isOutput : Bool)
    (afterNumeral : Bool) :
    NamesStand source afterNumeral
      (⟨line, if isOutput then .outputEnd else .statementEnd⟩ ::
        tokensFrom fuel (.inText (endsLine (takenBefore text rest)))
          (line + Text.lineFeeds (takenBefore text rest)) rest) := by
  refine namesStand_cons line _ ?_ (textStands _ (reached.suffix isSuffix)) afterNumeral
  cases isOutput <;> exact nofun

/-- Inside of a tag, its end or a token is cut off. -/
theorem tagNamesStand_succ
    (textStands : TextNamesStand source fuel)
    (tagStands : TagNamesStand source fuel) :
    TagNamesStand source (fuel + 1) := by
  intro isOutput awaited afterPoint line text afterNumeral reached
  cases text with
  | nil =>
      rw [tokensFrom]
      split
      · next isEnd =>
          exact namesStand_tagEnd textStands reached.isReached (suffix_of_tagEnd isEnd) isOutput
            afterNumeral
      · exact namesStand_nil afterNumeral
  | cons c text =>
      rw [tokensFrom]
      split
      · next isEnd =>
          exact namesStand_tagEnd textStands reached.isReached (suffix_of_tagEnd isEnd) isOutput
            afterNumeral
      · split
        · next blank =>
            have past : IsReachedInTag source afterNumeral (line + Text.lineFeeds [c]) text :=
              reached.isReached.inTag rfl (Text.isWordCharacter_of_isBlank blank) afterNumeral
            have isLine : (if c = '\n' then line + 1 else line) = line + Text.lineFeeds [c] := by
              rw [Text.lineFeeds_cons]
              split <;> rfl
            rw [isLine]
            exact tagStands past
        · split
          next token rest isToken =>
          have isCut := isCut_of_cutToken isToken
          dsimp only
          split
          · exact namesStand_fault line afterNumeral
          · next sign =>
              split
              · exact namesStand_fault line afterNumeral
              · exact namesStand_cons line (.sign sign) nofun
                  (tagStands (reached.isReached.afterToken (isCut nofun))) afterNumeral
          · next noFault _ =>
              refine ⟨?_, tagStands (reached.isReached.afterToken (isCut noFault))⟩
              rintro rfl name rfl
              exact standsOn_of_isCut reached (isCut noFault)

theorem namesStand_tokensFrom (fuel : Nat) :
    TextNamesStand source fuel ∧ TagNamesStand source fuel := by
  induction fuel with
  | zero =>
      exact ⟨fun afterNumeral _ => namesStand_fault _ afterNumeral,
        fun _ => namesStand_fault _ _⟩
  | succ fuel fuelHypothesis =>
      obtain ⟨textStands, tagStands⟩ := fuelHypothesis
      exact ⟨textNamesStand_succ textStands tagStands, tagNamesStand_succ textStands tagStands⟩

end Steps

theorem NamesStand.append_ending
    {source : Text}
    {afterNumeral : Bool}
    {tokens : List PlacedToken}
    (stand : NamesStand source afterNumeral tokens)
    (endLine : Nat) :
    NamesStand source afterNumeral (tokens ++ [⟨endLine, .ending⟩]) := by
  induction tokens generalizing afterNumeral with
  | nil => exact namesStand_cons endLine .ending nofun (namesStand_nil false) afterNumeral
  | cons token tokens tokensHypothesis => exact ⟨stand.1, tokensHypothesis stand.2⟩

/-- The names of a template stand in it, those right after numbers apart. -/
theorem namesStand_tokens (source : Text) : NamesStand source false (tokens source) :=
  ((namesStand_tokensFrom (source.length + 1)).1 false (isReached_start source)).append_ending _

/-! ## Names past other tokens -/

/-- Whether the last of some tokens is a number. -/
def endsInNumeral (passed : List PlacedToken) : Bool :=
  (passed.getLast?.map fun last => last.token.isNumeral).getD false

theorem standsOn_of_namesStand
    {source name : Text}
    {line : Nat}
    {token : PlacedToken}
    {passed rest : List PlacedToken}
    {afterNumeral : Bool}
    (stand : NamesStand source afterNumeral (token :: passed ++ ⟨line, .name name⟩ :: rest))
    (noNumeral : endsInNumeral (token :: passed) = false) :
    StandsOn source line name := by
  induction passed generalizing token afterNumeral with
  | nil => exact stand.2.1 noNumeral name rfl
  | cons next passed passedHypothesis => exact passedHypothesis stand.2 noNumeral

/-- A name among the tokens of a template stands in it, unless a number comes right before it. -/
theorem standsOn_of_tokens
    {source name : Text}
    {line : Nat}
    {passed rest : List PlacedToken}
    (whole : tokens source = passed ++ ⟨line, .name name⟩ :: rest)
    (noNumeral : endsInNumeral passed = false) :
    StandsOn source line name := by
  have stand := namesStand_tokens source
  rw [whole] at stand
  cases passed with
  | nil => exact stand.1 rfl name rfl
  | cons token passed => exact standsOn_of_namesStand stand noNumeral

end Template
end SkillNode
