import Mathlib.Data.List.Basic
import SkillNode.Proofs.Generation.ClassNames

/-!
# Type names and their snake case

A type name is a capital followed by letters and digits. Its snake case has one word for each of
its capitals, and the words with a capital each make up the type name again. So no two type names
have one snake case.

The class of a skill is a type name. The main statement says that it determines the name of the
node and is determined by it, and that include files of different types differ.
-/

namespace SkillNode

namespace Text

/-- Small letters of ASCII are written one by one. -/
theorem lowerAfter_of_ascii
    {text : Text}
    (ascii : ∀ c ∈ text, c.toNat < 128)
    (casedBefore : Bool) :
    lowerAfter casedBefore text = text.map Char.toLower := by
  induction text generalizing casedBefore with
  | nil => rfl
  | cons c rest restHypothesis =>
      obtain ⟨cAscii, restAscii⟩ := List.forall_mem_cons.mp ascii
      have noSigma : c ≠ 'Σ' := by
        rintro rfl
        exact absurd cAscii (by decide)
      rw [lowerAfter, if_neg noSigma, lowerOf_of_ascii cAscii, restHypothesis restAscii]
      rfl

theorem lower_of_ascii {text : Text} (ascii : ∀ c ∈ text, c.toNat < 128) :
    lower text = text.map Char.toLower :=
  lowerAfter_of_ascii ascii false

end Text

namespace Naming

/-- A capital, and then letters and digits. -/
def isTypeName : Text → Bool
  | [] => false
  | c :: rest => c.isUpper && rest.all Char.isAlphanum

theorem isTypeName_cons_iff {c : Char} {rest : Text} :
    isTypeName (c :: rest) = true ↔ c.isUpper = true ∧ ∀ d ∈ rest, d.isAlphanum = true := by
  rw [isTypeName, Bool.and_eq_true, List.all_eq_true]

theorem isAlphanum_of_isUpper {c : Char} (isUpper : c.isUpper = true) : c.isAlphanum = true := by
  have isAlpha : (c.isUpper || c.isLower) = true := by rw [isUpper, Bool.true_or]
  exact (Bool.or_eq_true c.isAlpha c.isDigit).mpr (.inl isAlpha)

theorem isAlphanum_of_isTypeName {name : Text} (isType : isTypeName name = true) :
    ∀ c ∈ name, c.isAlphanum = true := by
  cases name with
  | nil => simp
  | cons c rest =>
      obtain ⟨isUpper, restAlphanum⟩ := isTypeName_cons_iff.mp isType
      exact List.forall_mem_cons.mpr ⟨isAlphanum_of_isUpper isUpper, restAlphanum⟩

/-! ## Letters -/

section Letters

variable {c : Char}

theorem toUpper_toLower_of_isUpper (isUpper : c.isUpper = true) : c.toLower.toUpper = c :=
  Text.forall_ascii (fun c => c.isUpper = true → c.toLower.toUpper = c) (by decide)
    (toNat_lt_of_isAlphanum (isAlphanum_of_isUpper isUpper)) isUpper

theorem toUpper_of_isUpper (isUpper : c.isUpper = true) : c.toUpper = c :=
  Text.forall_ascii (fun c => c.isUpper = true → c.toUpper = c) (by decide)
    (toNat_lt_of_isAlphanum (isAlphanum_of_isUpper isUpper)) isUpper

theorem toLower_of_not_isUpper (isAlphanum : c.isAlphanum = true) (noUpper : ¬ c.isUpper = true) :
    c.toLower = c :=
  Text.forall_ascii (fun c => ¬ c.isUpper = true → c.toLower = c) (by decide)
    (toNat_lt_of_isAlphanum isAlphanum) noUpper

theorem isAlphanum_toLower (isAlphanum : c.isAlphanum = true) : c.toLower.isAlphanum = true :=
  Text.forall_ascii (fun c => c.isAlphanum = true → c.toLower.isAlphanum = true) (by decide)
    (toNat_lt_of_isAlphanum isAlphanum) isAlphanum

theorem isUpper_toUpper (isAlphanum : c.isAlphanum = true) (noDigit : ¬ c.toUpper.isDigit = true) :
    c.toUpper.isUpper = true :=
  Text.forall_ascii
    (fun c => c.isAlphanum = true → ¬ c.toUpper.isDigit = true → c.toUpper.isUpper = true)
    (by decide) (toNat_lt_of_isAlphanum isAlphanum) isAlphanum noDigit

theorem ne_underscore_of_isAlphanum (isAlphanum : c.isAlphanum = true) : c ≠ '_' := by
  rintro rfl
  exact absurd isAlphanum (by decide)

theorem capitalize_of_isUpper (isUpper : c.isUpper = true) (rest : Text) :
    Text.capitalize (c :: rest) = c :: rest := by
  have ascii := toNat_lt_of_isAlphanum (isAlphanum_of_isUpper isUpper)
  rw [Text.capitalize, Text.upperOf_of_ascii ascii, toUpper_of_isUpper isUpper]
  rfl

theorem capitalize_toLower (isUpper : c.isUpper = true) (rest : Text) :
    Text.capitalize (c.toLower :: rest) = c :: rest := by
  have smallAlphanum := isAlphanum_toLower (isAlphanum_of_isUpper isUpper)
  rw [Text.capitalize, Text.upperOf_of_ascii (toNat_lt_of_isAlphanum smallAlphanum),
    toUpper_toLower_of_isUpper isUpper]
  rfl

end Letters

/-! ## Snake case -/

/-- A letter or digit of a name after its first, in snake case. -/
def snakeLetter (c : Char) : Text := if c.isUpper then ['_', c.toLower] else [c]

theorem snakeCase_cons
    {c : Char}
    {rest : Text}
    (isType : isTypeName (c :: rest) = true) :
    snakeCase (c :: rest) = c.toLower :: rest.flatMap snakeLetter := by
  obtain ⟨isUpper, restAlphanum⟩ := isTypeName_cons_iff.mp isType
  have markedAscii : ∀ d ∈ markCapitals (c :: rest), d.toNat < 128 := by
    intro d member
    rcases List.mem_cons.mp member with rfl | later
    · exact toNat_lt_of_isAlphanum (isAlphanum_of_isUpper isUpper)
    · obtain ⟨original, inRest, isMarked⟩ := List.mem_flatMap.mp later
      have originalAscii := toNat_lt_of_isAlphanum (restAlphanum original inRest)
      split at isMarked
      · rcases List.mem_cons.mp isMarked with rfl | isSame
        · decide
        · exact List.mem_singleton.mp isSame ▸ originalAscii
      · exact List.mem_singleton.mp isMarked ▸ originalAscii
  rw [snakeCase, Text.lower_of_ascii markedAscii, markCapitals, List.map_cons, List.map_flatMap]
  refine congrArg _ (List.flatMap_congr fun d member => ?_)
  by_cases dUpper : d.isUpper = true
  · rw [snakeLetter, if_pos dUpper, if_pos dUpper]
    rfl
  · rw [snakeLetter, if_neg dUpper, if_neg dUpper, List.map_singleton,
      toLower_of_not_isUpper (restAlphanum d member) dUpper]

/-- Between its underscores, the snake case of what follows the first letter of a name has the
rest of a word and then whole words. With a capital each they make up what follows. -/
theorem exists_splitOn_snakeLetters
    {rest : Text}
    (areAlphanum : ∀ c ∈ rest, c.isAlphanum = true) :
    ∃ first others, Text.splitOn '_' (rest.flatMap snakeLetter) = first :: others ∧
      (∀ word ∈ others, word ≠ []) ∧ first ++ others.flatMap Text.capitalize = rest := by
  induction rest with
  | nil => exact ⟨[], [], rfl, by simp, rfl⟩
  | cons c rest restHypothesis =>
      obtain ⟨cAlphanum, restAlphanum⟩ := List.forall_mem_cons.mp areAlphanum
      obtain ⟨first, others, cut, areWords, joined⟩ := restHypothesis restAlphanum
      rw [List.flatMap_cons, snakeLetter]
      by_cases isUpper : c.isUpper = true
      · -- A capital ends the word before it and begins one of its own.
        have noSeparator := ne_underscore_of_isAlphanum (isAlphanum_toLower cAlphanum)
        refine ⟨[], (c.toLower :: first) :: others, ?_, ?_, ?_⟩
        · rw [if_pos isUpper, List.cons_append, List.cons_append, List.nil_append, Text.splitOn,
            if_pos rfl, Text.splitOn, if_neg noSeparator, cut]
        · exact List.forall_mem_cons.mpr ⟨by simp, areWords⟩
        · rw [List.flatMap_cons, capitalize_toLower isUpper, List.cons_append, joined]
          rfl
      · have noSeparator := ne_underscore_of_isAlphanum cAlphanum
        refine ⟨c :: first, others, ?_, areWords, ?_⟩
        · rw [if_neg isUpper, List.cons_append, List.nil_append, Text.splitOn,
            if_neg noSeparator, cut]
        · rw [List.cons_append, joined]

/-- The words of the snake case of a type name, with a capital each, make up the name. -/
theorem pascalCase_snakeCase {name : Text} (isType : isTypeName name = true) :
    pascalCase (snakeCase name) = name := by
  cases name with
  | nil => cases isType
  | cons c rest =>
      obtain ⟨isUpper, restAlphanum⟩ := isTypeName_cons_iff.mp isType
      obtain ⟨first, others, cut, areWords, joined⟩ := exists_splitOn_snakeLetters restAlphanum
      have noSeparator := ne_underscore_of_isAlphanum
        (isAlphanum_toLower (isAlphanum_of_isUpper isUpper))
      have words : Text.segments '_' (snakeCase (c :: rest)) = (c.toLower :: first) :: others := by
        rw [snakeCase_cons isType, Text.segments, Text.splitOn, if_neg noSeparator, cut]
        refine List.filter_eq_self.mpr (List.forall_mem_cons.mpr ⟨rfl, fun word member => ?_⟩)
        simpa using areWords word member
      rw [pascalCase, words, List.flatMap_cons, capitalize_toLower isUpper, List.cons_append,
        joined]

/-- No two type names have one snake case. -/
theorem eq_of_snakeCase_eq
    {first second : Text}
    (firstType : isTypeName first = true)
    (secondType : isTypeName second = true)
    (same : snakeCase first = snakeCase second) :
    first = second := by
  rw [← pascalCase_snakeCase firstType, same, pascalCase_snakeCase secondType]

theorem isAsciiWord_of_mem_snakeCase
    {name : Text}
    (isType : isTypeName name = true) :
    ∀ c ∈ snakeCase name, Text.isAsciiWord c = true := by
  have wordOfAlphanum : ∀ c : Char, c.isAlphanum = true → Text.isAsciiWord c = true := by
    intro c isAlphanum
    rw [Text.isAsciiWord, isAlphanum, Bool.true_or]
  cases name with
  | nil => cases isType
  | cons first rest =>
      obtain ⟨isUpper, restAlphanum⟩ := isTypeName_cons_iff.mp isType
      rw [snakeCase_cons isType]
      refine List.forall_mem_cons.mpr ⟨?_, fun c member => ?_⟩
      · exact wordOfAlphanum _ (isAlphanum_toLower (isAlphanum_of_isUpper isUpper))
      · obtain ⟨original, inRest, isLetter⟩ := List.mem_flatMap.mp member
        have isAlphanum := restAlphanum original inRest
        unfold snakeLetter at isLetter
        split at isLetter
        · rcases List.mem_cons.mp isLetter with rfl | isSmall
          · decide
          · rw [List.mem_singleton.mp isSmall]
            exact wordOfAlphanum _ (isAlphanum_toLower isAlphanum)
        · rw [List.mem_singleton.mp isLetter]
          exact wordOfAlphanum _ isAlphanum

/-! ## Class names -/

/-- The ASCII words of a name without other characters are those between its underscores. -/
theorem asciiWords_eq_segments {name : Text} (areWords : ∀ c ∈ name, Text.isAsciiWord c = true) :
    asciiWords name = Text.segments '_' name := by
  have cutAlike : Text.splitOn ' ' (name.map fun c => if c.isAlphanum then c else ' ') =
      Text.splitOn '_' name := by
    induction name with
    | nil => rfl
    | cons c rest restHypothesis =>
        obtain ⟨isWord, restWords⟩ := List.forall_mem_cons.mp areWords
        rw [List.map_cons, Text.splitOn, Text.splitOn, restHypothesis restWords]
        by_cases isAlphanum : c.isAlphanum = true
        · have noBlank : c ≠ ' ' := by
            rintro rfl
            exact absurd isAlphanum (by decide)
          rw [if_pos isAlphanum, if_neg noBlank, if_neg (ne_underscore_of_isAlphanum isAlphanum)]
        · have isUnderscore : c = '_' := by simpa [Text.isAsciiWord, isAlphanum] using isWord
          rw [if_neg isAlphanum, if_pos rfl, if_pos isUnderscore]
  rw [asciiWords, Text.segments, cutAlike, Text.segments]

theorem classStem_eq_pascalCase {name : Text} (areWords : ∀ c ∈ name, Text.isAsciiWord c = true) :
    classStem name = pascalCase name := by
  rw [classStem, pascalCase, asciiWords_eq_segments areWords]

/-- A type name is one word. -/
theorem classStem_of_isTypeName {name : Text} (isType : isTypeName name = true) :
    classStem name = name := by
  have areAlphanum := isAlphanum_of_isTypeName isType
  have noUnderscore : '_' ∉ name := fun member =>
    ne_underscore_of_isAlphanum (areAlphanum '_' member) rfl
  rw [classStem_eq_pascalCase fun c member => by rw [Text.isAsciiWord, areAlphanum c member]; rfl,
    pascalCase, Text.segments, Text.splitOn_of_notMem noUnderscore]
  cases name with
  | nil => cases isType
  | cons c rest =>
      have capital := capitalize_of_isUpper (isTypeName_cons_iff.mp isType).1 rest
      simpa using capital

/-- A name whose words make up a type name with the suffix has it as its class. -/
theorem className?_of_classStem
    {name className : Text}
    (stem : classStem name = className)
    (isType : isTypeName className = true)
    (hasSuffix : classSuffix <:+ className) :
    className? name = some className := by
  cases className with
  | nil => cases isType
  | cons c rest =>
      have noDigit : ¬ c.isDigit = true :=
        Text.forall_ascii (fun c => c.isUpper = true → ¬ c.isDigit = true) (by decide)
          (toNat_lt_of_isAlphanum (isAlphanum_of_isTypeName isType c List.mem_cons_self))
          (isTypeName_cons_iff.mp isType).1
      rw [className?, stem]
      simp only [if_neg noDigit, if_pos (List.isSuffixOf_iff_suffix.mpr hasSuffix)]

/-- The first letter of a class stem is the capital form of a letter or digit. -/
theorem exists_of_classStem_cons
    {name rest : Text}
    {c : Char}
    (stem : classStem name = c :: rest) :
    ∃ first : Char, first.isAlphanum = true ∧ c = first.toUpper := by
  cases words : asciiWords name with
  | nil => simp [classStem, words] at stem
  | cons word others =>
      have isWord : word ∈ asciiWords name := words ▸ List.mem_cons_self
      cases word with
      | nil => simpa using (List.mem_filter.mp isWord).2
      | cons first wordRest =>
          have isAlphanum := isAlphanum_of_mem_asciiWords isWord first List.mem_cons_self
          rw [classStem, words, List.flatMap_cons, Text.capitalize,
            Text.upperOf_of_ascii (toNat_lt_of_isAlphanum isAlphanum)] at stem
          exact ⟨first, isAlphanum, (List.cons.inj stem).1.symm⟩

/-- The class of a skill is a type name that ends in the suffix. -/
theorem isTypeName_of_className?
    {name className : Text}
    (named : className? name = some className) :
    isTypeName className = true ∧ classSuffix <:+ className := by
  have stemAlphanum : ∀ c ∈ classStem name, c.isAlphanum = true :=
    fun c => isAlphanum_of_mem_classStem
  have suffixAlphanum : ∀ c ∈ classSuffix, c.isAlphanum = true :=
    List.all_eq_true.mp (by decide)
  unfold className? at named
  split at named
  · cases named
  · next c rest stem =>
      obtain ⟨first, isAlphanum, isCapital⟩ := exists_of_classStem_cons stem
      rw [stem] at stemAlphanum
      have restAlphanum := (List.forall_mem_cons.mp stemAlphanum).2
      split at named
      · cases named
      · next noDigit =>
          have isUpper : c.isUpper = true := by
            rw [isCapital] at noDigit ⊢
            exact isUpper_toUpper isAlphanum noDigit
          split at named
          · next endsSo =>
              cases named
              exact ⟨isTypeName_cons_iff.mpr ⟨isUpper, restAlphanum⟩,
                List.isSuffixOf_iff_suffix.mp endsSo⟩
          · cases named
            refine ⟨?_, List.suffix_append _ _⟩
            rw [List.cons_append, isTypeName_cons_iff]
            exact ⟨isUpper, List.forall_mem_append.mpr ⟨restAlphanum, suffixAlphanum⟩⟩

/-! ## Include files -/

open Generation (Binding)

/-- Include files of one package and kind are different for different types. -/
theorem includePath_ne
    {first second : Binding}
    (firstType : isTypeName first.endpoint.key.typeName = true)
    (secondType : isTypeName second.endpoint.key.typeName = true)
    (samePackage : first.endpoint.key.package = second.endpoint.key.package)
    (sameKind : first.endpoint.kind = second.endpoint.kind)
    (differ : first.endpoint.key.typeName ≠ second.endpoint.key.typeName) :
    first.includePath ≠ second.includePath := by
  have sameFolder : first.folder = second.folder := by
    rw [Binding.folder, Binding.folder, Binding.isService, Binding.isService,
      Statechart.Endpoint.isService, Statechart.Endpoint.isService, sameKind]
  intro same
  simp only [Binding.includePath, samePackage, sameFolder, List.append_cancel_left_eq,
    List.append_cancel_right_eq] at same
  exact differ (eq_of_snakeCase_eq firstType secondType same)

/-- The class of a skill and the name of its node determine each other. The class is a type name
that ends in the suffix, it is its own class and the class of its node's name, and the words of
that name with a capital each make it up. The same words make up every type name from its snake
case, so that no two type names have one snake case, and no two types of a package and kind have
one include file. -/
theorem className_nodeName_inverse :
    (∀ name className, className? name = some className →
      isTypeName className = true ∧ classSuffix <:+ className ∧
        className? className = some className ∧
        className? (snakeCase className) = some className ∧
        (className? (snakeCase className)).map snakeCase = some (snakeCase className) ∧
        pascalCase (snakeCase className) = className) ∧
    (∀ typeName, isTypeName typeName = true → pascalCase (snakeCase typeName) = typeName) ∧
    (∀ first second, isTypeName first = true → isTypeName second = true →
      snakeCase first = snakeCase second → first = second) ∧
    ∀ first second : Binding,
      isTypeName first.endpoint.key.typeName = true →
      isTypeName second.endpoint.key.typeName = true →
      first.endpoint.key.package = second.endpoint.key.package →
      first.endpoint.kind = second.endpoint.kind →
      first.endpoint.key.typeName ≠ second.endpoint.key.typeName →
        first.includePath ≠ second.includePath := by
  refine ⟨fun name className named => ?_, fun _ => pascalCase_snakeCase,
    fun _ _ => eq_of_snakeCase_eq, fun _ _ => includePath_ne⟩
  obtain ⟨isType, hasSuffix⟩ := isTypeName_of_className? named
  have ofClass := className?_of_classStem (classStem_of_isTypeName isType) isType hasSuffix
  have ofNode : className? (snakeCase className) = some className := by
    refine className?_of_classStem ?_ isType hasSuffix
    rw [classStem_eq_pascalCase (isAsciiWord_of_mem_snakeCase isType),
      pascalCase_snakeCase isType]
  refine ⟨isType, hasSuffix, ofClass, ofNode, ?_, pascalCase_snakeCase isType⟩
  rw [ofNode, Option.map_some]

/-- The binding of a service of a type. -/
def serviceOf (typeName : Text) : Binding where
  resolved :=
    ⟨{ nodeName := [], clientName := [], kind := .service, rosName := "/s",
       key := ⟨"p", typeName⟩ }, [], []⟩
  responseFields := []

/-- A name with a digit and a run of capitals, and two types whose names differ in one capital. -/
theorem className_nodeName_inverse_armXY :
    className? "arm XY 2go" = some ("ArmXY2goSkill" : Text) ∧
      snakeCase "ArmXY2goSkill" = ("arm_x_y2go_skill" : Text) ∧
      className? (snakeCase "ArmXY2goSkill") = some ("ArmXY2goSkill" : Text) ∧
      pascalCase (snakeCase "GetXYPose2D") = ("GetXYPose2D" : Text) ∧
      (serviceOf "GetInt").includePath ≠ (serviceOf "Getint").includePath ∧
      (∀ other, isTypeName other = true → snakeCase other = snakeCase "GetInt" →
        other = ("GetInt" : Text)) := by
  obtain ⟨ofClass, ofType, injective, includes⟩ := className_nodeName_inverse
  have named : className? "arm XY 2go" = some ("ArmXY2goSkill" : Text) := by decide
  exact ⟨named, by decide, (ofClass _ _ named).2.2.2.1, ofType _ (by decide),
    includes _ _ (by decide) (by decide) rfl rfl (by decide),
    fun other isType same => injective other _ isType (by decide) same⟩

end Naming
end SkillNode
