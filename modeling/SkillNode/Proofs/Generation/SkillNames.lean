import SkillNode.Proofs.Generation.FileNames
import SkillNode.Proofs.Generation.Outcomes
import SkillNode.Proofs.Naming.AsciiIdentifiers
import SkillNode.Proofs.Naming.TypeNames
import SkillNode.Proofs.Statechart.OutlineComplaints
import SkillNode.Proofs.Statechart.TakenItems

/-!
# Names of a skill

Whatever a skill is called, and whatever its class is set to, the names that stand once in the
generated code are usable: the class is an identifier, the files are called after it and lie in
the directory that they are written to, the header is guarded by a symbol of capitals, and the
node is called by small words with single underscores between them.

The node is called after the skill, not after the class that is set, and all endpoints tell its
name.
-/

namespace SkillNode

namespace Text

/-- A symbol of capitals, digits and underscores that does not start with a digit. -/
def isGuardSymbol : Text → Bool
  | [] => false
  | c :: rest =>
      (c.isUpper || c = '_') && rest.all fun d => d.isUpper || d.isDigit || d = '_'

/-- A small letter, and then small letters and digits. -/
def isSmallWord : Text → Bool
  | [] => false
  | c :: rest => c.isLower && rest.all fun d => d.isLower || d.isDigit

/-- Small words with single underscores between them. -/
def isNodeName (name : Text) : Bool := (splitOn '_' name).all isSmallWord

theorem upper_of_ascii {text : Text} (ascii : ∀ c ∈ text, c.toNat < 128) :
    upper text = text.map Char.toUpper := by
  induction text with
  | nil => rfl
  | cons c rest restHypothesis =>
      obtain ⟨cAscii, restAscii⟩ := List.forall_mem_cons.mp ascii
      rw [← List.singleton_append, upper_append, restHypothesis restAscii, List.map_append]
      exact congrArg (· ++ _) ((List.append_nil _).trans (upperOf_of_ascii cAscii))

end Text

namespace Naming

theorem toNat_lt_of_isAsciiWord {c : Char} (isWord : Text.isAsciiWord c = true) :
    c.toNat < 128 := by
  rcases isAsciiWord_iff.mp isWord with isAlphanum | rfl
  · exact toNat_lt_of_isAlphanum isAlphanum
  · decide

/-! ## Header guards -/

/-- The identifier of a name of ASCII, in capitals, is a symbol once something follows that may
stand at its start. -/
theorem isGuardSymbol_upper_identifier
    {name : Text}
    (hasAscii : HasAsciiLetters name) :
    Text.isGuardSymbol (Text.upper (identifier name) ++ "_H") = true := by
  have areWords := forall_isAsciiWord_identifier_iff.mpr hasAscii
  have inner : ∀ c : Char, Text.isAsciiWord c = true →
      (c.toUpper.isUpper || c.toUpper.isDigit || c.toUpper = '_') = true := fun c isWord =>
    Text.forall_ascii (fun c => Text.isAsciiWord c = true →
      (c.toUpper.isUpper || c.toUpper.isDigit || c.toUpper = '_') = true) (by decide +kernel)
      (toNat_lt_of_isAsciiWord isWord) isWord
  have outer : ∀ c : Char, Text.isAsciiWord c = true → Text.isDigit c = false →
      (c.toUpper.isUpper || c.toUpper = '_') = true := fun c isWord =>
    Text.forall_ascii (fun c => Text.isAsciiWord c = true → Text.isDigit c = false →
      (c.toUpper.isUpper || c.toUpper = '_') = true) (by decide +kernel)
      (toNat_lt_of_isAsciiWord isWord) isWord
  rw [Text.upper_of_ascii fun c member => toNat_lt_of_isAsciiWord (areWords c member)]
  cases stands : identifier name with
  | nil => decide
  | cons first rest =>
      rw [stands] at areWords
      obtain ⟨firstWord, restWords⟩ := List.forall_mem_cons.mp areWords
      rw [List.map_cons, List.cons_append, Text.isGuardSymbol,
        outer first firstWord (not_isDigit_of_identifier_eq_cons stands), Bool.true_and,
        List.all_append, List.all_map, Bool.and_eq_true, List.all_eq_true]
      exact ⟨fun c member => inner c (restWords c member), by decide⟩

/-! ## Node names -/

theorem isLower_toLower {c : Char} (isUpper : c.isUpper = true) : c.toLower.isLower = true :=
  Text.forall_ascii (fun c => c.isUpper = true → c.toLower.isLower = true) (by decide)
    (toNat_lt_of_isAlphanum (isAlphanum_of_isUpper isUpper)) isUpper

/-- Between its underscores, the snake case of what follows the first letter of a name has small
letters and digits, and then small words. -/
theorem exists_smallWords
    {rest : Text}
    (areAlphanum : ∀ c ∈ rest, c.isAlphanum = true) :
    ∃ first others, Text.splitOn '_' (rest.flatMap snakeLetter) = first :: others ∧
      first.all (fun d => d.isLower || d.isDigit) = true ∧
        others.all Text.isSmallWord = true := by
  induction rest with
  | nil => exact ⟨[], [], rfl, rfl, rfl⟩
  | cons c rest restHypothesis =>
      obtain ⟨cAlphanum, restAlphanum⟩ := List.forall_mem_cons.mp areAlphanum
      obtain ⟨first, others, cut, areSmall, areWords⟩ := restHypothesis restAlphanum
      rw [List.flatMap_cons, snakeLetter]
      by_cases isUpper : c.isUpper = true
      · -- A capital starts a small word.
        have noSeparator := ne_underscore_of_isAlphanum (isAlphanum_toLower cAlphanum)
        refine ⟨[], (c.toLower :: first) :: others, ?_, rfl, ?_⟩
        · rw [if_pos isUpper, List.cons_append, List.cons_append, List.nil_append, Text.splitOn,
            if_pos rfl, Text.splitOn, if_neg noSeparator, cut]
        · rw [List.all_cons, areWords, Text.isSmallWord, isLower_toLower isUpper, areSmall]
          rfl
      · have noSeparator := ne_underscore_of_isAlphanum cAlphanum
        have isSmall : (c.isLower || c.isDigit) = true :=
          Text.forall_ascii (fun c => c.isAlphanum = true → ¬ c.isUpper = true →
            (c.isLower || c.isDigit) = true) (by decide)
            (toNat_lt_of_isAlphanum cAlphanum) cAlphanum isUpper
        refine ⟨c :: first, others, ?_, ?_, areWords⟩
        · rw [if_neg isUpper, List.cons_append, List.nil_append, Text.splitOn,
            if_neg noSeparator, cut]
        · rw [List.all_cons, isSmall, areSmall]
          rfl

/-- The snake case of a type name is the name of a node. -/
theorem isNodeName_snakeCase {name : Text} (isType : isTypeName name = true) :
    Text.isNodeName (snakeCase name) = true := by
  cases name with
  | nil => cases isType
  | cons c rest =>
      obtain ⟨isUpper, restAlphanum⟩ := isTypeName_cons_iff.mp isType
      obtain ⟨first, others, cut, areSmall, areWords⟩ := exists_smallWords restAlphanum
      have noSeparator := ne_underscore_of_isAlphanum
        (isAlphanum_toLower (isAlphanum_of_isUpper isUpper))
      rw [Text.isNodeName, snakeCase_cons isType, Text.splitOn, if_neg noSeparator, cut]
      dsimp only
      rw [List.all_cons, areWords, Text.isSmallWord, isLower_toLower isUpper, areSmall]
      rfl

end Naming

namespace Statechart

/-- The endpoints of a model that is read tell the name of the node of the skill. -/
theorem IsRead.nodeNames
    {model : RawModel}
    (isRead : IsRead model) :
    ∀ endpoint ∈ model.endpoints, nodeName? model.name = some endpoint.nodeName := by
  obtain ⟨usable, _⟩ := isRead.guarantees
  obtain ⟨outline, source, fallbackName, extracts⟩ := isRead.exists_extract
  rw [Outline.outcome_extract] at extracts
  cases found : outline.complaints source fallbackName with
  | cons first later =>
      rw [found] at extracts
      cases extracts
  | nil =>
      rw [found] at extracts
      obtain rfl := Except.ok.inj extracts
      intro endpoint member
      rw [Outline.model, Progress.finish, Outline.taken, Outline.endpoints_takeAll] at member
      obtain ⟨item, _, rfl⟩ := List.mem_map.mp member
      obtain ⟨className, named⟩ := Option.ne_none_iff_exists'.mp usable
      change nodeName? (outline.skillName fallbackName) = _
      change Naming.className? (outline.skillName fallbackName) = _ at named
      have nodeNamed : nodeName? (outline.skillName fallbackName) =
          some (Naming.snakeCase className) := by
        rw [nodeName?, named, Option.map_some]
      -- Handlers and requests leave the name of the node alone.
      rw [nodeNamed, Option.getD_some, Endpoint.heed]
      split <;> rfl

end Statechart

namespace Generation

open FileTree (Path Tree)
open Statechart (TypedModel IsTyped nodeName?)

/-- A file with a visible name lies in the directory that its path starts with. -/
theorem exists_inside_of_locate
    {file : Text}
    {tree : Tree}
    {directory : Path}
    {place : FileTree.Place}
    (isVisible : IsVisibleName file)
    (leads : tree.locate (directory.append file) = .ok place) :
    ∃ inside, tree.around directory = .ok inside ∧ place = inside ++ [file] := by
  rw [isVisible.isPlain.append_eq_child] at leads
  exact Tree.locate_child_eq_ok isVisible.isPlain.notUp leads

/-- A model with a blueprint has one under all settings, and its node keeps its name. -/
theorem exists_blueprint_of_options
    {options : Options}
    {model : TypedModel}
    {blueprint : Blueprint}
    (gathers : Blueprint.ofModel options model = .ok blueprint)
    (other : Options) :
    ∃ renamed, Blueprint.ofModel other model = .ok renamed ∧
      renamed.nodeName = blueprint.nodeName := by
  obtain ⟨className, derived, all, _, named, mapped, apart, rfl⟩ :=
    Blueprint.ofModel_eq_ok_iff.mp gathers
  obtain ⟨otherName, chosen⟩ := chooseClassName_of_usable other named
  exact ⟨_, Blueprint.ofModel_eq_ok_iff.mpr
    ⟨otherName, derived, all, chosen, named, mapped, apart, rfl⟩, rfl⟩

/-- The names of a skill are usable, under all settings that hold. The class is an identifier;
the files are called by it with an ending, and wherever a path to a directory leads, such a file
of the directory lies in it; the guard of the header is a symbol of capitals; and the node has a
name of small words, which is the same whatever class is set, and the one that every endpoint of
the model and every binding tells. -/
theorem skillNames_usable
    {model : TypedModel}
    {options : Options}
    {blueprint : Blueprint}
    (isTyped : IsTyped model)
    (holds : options.fault? = none)
    (gathers : Blueprint.ofModel options model = .ok blueprint) :
    Text.isCIdentifier blueprint.className = true ∧
      (blueprint.headerFile = blueprint.className ++ ".h" ∧
        blueprint.sourceFile = blueprint.className ++ ".cpp" ∧
        blueprint.stateMachineHeader = blueprint.className ++ "SM.h") ∧
      (∀ file ∈ [blueprint.headerFile, blueprint.sourceFile, blueprint.stateMachineHeader],
        IsVisibleName file ∧
        ∀ (tree : Tree) (directory : Path) place,
          tree.locate (directory.append file) = .ok place →
            ∃ inside, tree.around directory = .ok inside ∧ place = inside ++ [file]) ∧
      (Text.isGuardSymbol blueprint.headerGuard = true ∧ "_H" <:+ blueprint.headerGuard) ∧
      Text.isNodeName blueprint.nodeName = true ∧
      (∀ other : Options, ∃ renamed, Blueprint.ofModel other model = .ok renamed ∧
        renamed.nodeName = blueprint.nodeName) ∧
      (∀ resolved ∈ model.endpoints, resolved.endpoint.nodeName = blueprint.nodeName) ∧
      ∀ binding ∈ blueprint.bindings, binding.endpoint.nodeName = blueprint.nodeName := by
  have sameNode := exists_blueprint_of_options gathers
  have restored := (Blueprint.bindings_of_distinct isTyped.guarantees.2 gathers).1
  obtain ⟨className, derived, all, chosen, named, _, _, rfl⟩ :=
    Blueprint.ofModel_eq_ok_iff.mp gathers
  have isName := isCIdentifier_of_chooseClassName holds chosen
  have hasAscii : Naming.HasAsciiLetters className := fun c member isLetter =>
    (Naming.isAsciiWord_iff.mp (Text.isAsciiWord_of_isCIdentifier isName c member)).resolve_right
      (Text.ne_underscore_of_isAlphanumeric isLetter)
  have endpointsTell : ∀ resolved ∈ model.endpoints,
      resolved.endpoint.nodeName = Naming.snakeCase derived := by
    obtain ⟨raw, catalog, isRead, rfl⟩ := isTyped
    intro resolved member
    obtain ⟨endpoint, isEndpoint, rfl⟩ := List.mem_map.mp member
    have tells := isRead.nodeNames endpoint isEndpoint
    change Naming.className? raw.name = some derived at named
    rw [nodeName?, named] at tells
    exact (Option.some.inj tells).symm
  have noSlash : ∀ ending ∈ [(".h" : Text), ".cpp", "SM.h"], '/' ∉ ending := by decide
  refine ⟨isName, ⟨rfl, rfl, rfl⟩, fun file isFile => ?_,
    ⟨Naming.isGuardSymbol_upper_identifier hasAscii, ?_⟩,
    Naming.isNodeName_snakeCase (Naming.isTypeName_of_className? named).1, sameNode,
    endpointsTell, fun binding member => ?_⟩
  · have hasEnding : file ∈ [(".h" : Text), ".cpp", "SM.h"].map (className ++ ·) := isFile
    obtain ⟨ending, isEnding, rfl⟩ := List.mem_map.mp hasEnding
    have isVisible := isVisibleName_append isName (noSlash ending isEnding)
    exact ⟨isVisible, fun _ _ _ => exists_inside_of_locate isVisible⟩
  · exact List.suffix_append _ _
  · refine endpointsTell binding.resolved ?_
    rw [← restored]
    exact List.mem_map_of_mem member

/-- A skill that is called in letters that a class name does not take. -/
def summerChart : Text :=
  "<scxml name='étéXY'><ros_topic_subscriber topic='/t' type='p/T'/></scxml>"

/-- What is read of it. -/
def summerModel : Statechart.RawModel where
  name := "étéXY"
  source := "summer.scxml"
  initial := ""
  datamodel := []
  states := []
  endpoints :=
    [{ nodeName := "t_x_y_skill", clientName := "/t", kind := .topic, rosName := "/t",
       key := ⟨"p", "T"⟩ }]

/-- The skill keeps the name of its node under a class name of an underscore and a digit. -/
theorem skillNames_usable_summer :
    ∃ blueprint,
      IsTyped (Statechart.resolve summerModel Interface.Catalog.empty) ∧
        ({ className? := some "_9" } : Options).fault? = none ∧
        Blueprint.ofModel { className? := some "_9" }
          (Statechart.resolve summerModel Interface.Catalog.empty) = .ok blueprint ∧
        blueprint.headerFile = ("_9.h" : Text) ∧
        blueprint.headerGuard = ("_9_H" : Text) ∧
        Text.isGuardSymbol blueprint.headerGuard = true ∧
        blueprint.nodeName = ("t_x_y_skill" : Text) ∧
        Text.isNodeName blueprint.nodeName = true := by
  have isTyped : IsTyped (Statechart.resolve summerModel Interface.Catalog.empty) :=
    ⟨summerModel, _, .inl ⟨"summer.scxml", summerChart, .none, by decide +kernel⟩, rfl⟩
  have gathered : (Blueprint.ofModel { className? := some "_9" }
      (Statechart.resolve summerModel Interface.Catalog.empty)).toOption.map
        (fun blueprint => (blueprint.headerFile, blueprint.headerGuard, blueprint.nodeName)) =
      some (("_9.h" : Text), ("_9_H" : Text), ("t_x_y_skill" : Text)) := by
    decide +kernel
  obtain ⟨blueprint, isGathered, names⟩ := Option.map_eq_some_iff.mp gathered
  have gathers := eq_ok_of_toOption isGathered
  obtain ⟨headerFile, headerGuard, nodeName⟩ : _ ∧ _ ∧ _ := by simpa using names
  have holds : ({ className? := some "_9" } : Options).fault? = none := by decide
  obtain ⟨_, _, _, ⟨isGuard, _⟩, isNode, _⟩ := skillNames_usable isTyped holds gathers
  exact ⟨blueprint, isTyped, holds, gathers, headerFile, headerGuard, isGuard, nodeName, isNode⟩

end Generation
end SkillNode
