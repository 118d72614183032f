import SkillNode.Proofs.Cpp.Comments
import SkillNode.Proofs.Generation.FileNames
import SkillNode.Proofs.Generation.Outcomes
import SkillNode.Proofs.Generation.ResponseFields

/-!
# Comments in generated files

Texts of a model are printed in comments at three kinds of places: the name and the
variables of a skill in the block comment of its class, the name of its source in the lines
at the top of both files, and the variables that responses are handed over to at the ends
of lines. Only the name is escaped.

The main statement says which models keep every such text in its comment.
-/

namespace SkillNode
namespace Generation

open Cpp (EndsBlock StaysOnLine blockComment? blockEnd endsBlock_append_cons_iff
  endsBlock_cons_iff joinLines)
open Statechart (IsTyped TypedModel Variable)

/-! ## The block comment of the class -/

/-- The lines of a header before the block comment of the class. -/
def linesBeforeClass (blueprint : Blueprint) : List Text :=
  List.flatten
    [[blueprint.fileHeader, "", "#ifndef " ++ blueprint.headerGuard,
        "#define " ++ blueprint.headerGuard],
      libraryIncludes,
      blueprint.includes.map includeLine,
      ["", "#include \"" ++ blueprint.stateMachineHeader ++ "\"", ""]]

/-- The lines of the block comment of the class between those that open and end it. -/
def classCommentLines (model : TypedModel) : List Text :=
  List.flatten
    [[" * Skill node for the \"" ++ Cpp.escape model.name ++ "\" behavior.", " *",
        " * Datamodel:"],
      datamodelLines model.datamodel]

/-- What stands in the block comment of the class between its opening and its end. -/
def classComment (model : TypedModel) : Text :=
  '*' :: '\n' :: Text.ofLines (classCommentLines model) ++ " "

/-- The block comment of the class stands in the middle of the header. -/
theorem exists_headerText_eq (blueprint : Blueprint) :
    ∃ after, headerText blueprint =
      Text.ofLines (linesBeforeClass blueprint) ++ "/*" ++ classComment blueprint.model ++
        blockEnd ++ after := by
  obtain ⟨linesAfter, layout⟩ : ∃ linesAfter, headerLines blueprint =
      linesBeforeClass blueprint ++ ("/**" : Text) :: classCommentLines blueprint.model ++
        (" */" : Text) :: linesAfter := by
    apply Exists.intro
    simp only [headerLines, linesBeforeClass, classCommentLines, List.flatten_cons,
      List.cons_append, List.nil_append, List.append_assoc]
    rfl
  refine ⟨'\n' :: Text.ofLines linesAfter, ?_⟩
  rw [headerText, layout]
  simp [classComment, blockEnd]

/-- The comment line of a variable, cut at characters that end no comment. -/
theorem ofLines_variableLine_cons (declared : Variable) (lines : List Text) (rest : Text) :
    Text.ofLines (variableLine declared :: lines) ++ rest =
      [' ', '*', ' ', ' '] ++ ' ' :: (declared.id ++ ' ' :: '(' ::
        (declared.type ++ ')' :: '\n' :: (Text.ofLines lines ++ rest))) := by
  unfold variableLine
  repeat rw [String.toList_ofList]
  simp

theorem endsBlock_datamodelLines_iff (datamodel : List Variable) :
    EndsBlock (Text.ofLines (datamodelLines datamodel) ++ " ") ↔
      ∃ declared ∈ datamodel, EndsBlock declared.id ∨ EndsBlock declared.type := by
  have variableLines_iff :
      EndsBlock (Text.ofLines (datamodel.map variableLine) ++ " ") ↔
        ∃ declared ∈ datamodel, EndsBlock declared.id ∨ EndsBlock declared.type := by
    induction datamodel with
    | nil =>
        refine iff_of_false ?_ (by simp)
        decide
    | cons declared rest restHypothesis =>
        have noneBefore : ¬ EndsBlock [' ', '*', ' ', ' '] := by decide
        rw [List.map_cons, ofLines_variableLine_cons,
          endsBlock_append_cons_iff (by decide) (by decide) (by decide),
          endsBlock_append_cons_iff (by decide) (by decide) (by decide),
          endsBlock_cons_iff (c := '(') (by decide) (by decide),
          endsBlock_append_cons_iff (by decide) (by decide) (by decide),
          endsBlock_cons_iff (c := '\n') (by decide) (by decide), restHypothesis,
          or_iff_right noneBefore]
        simp [or_assoc]
  unfold datamodelLines
  split
  · next isEmpty =>
      obtain rfl := List.isEmpty_iff.mp isEmpty
      refine iff_of_false ?_ (by simp)
      decide
  · exact variableLines_iff

/-- The block comment is ended early by the name, or by an id or type of a variable. -/
theorem endsBlock_classComment_iff (model : TypedModel) :
    EndsBlock (classComment model) ↔
      blockEnd <:+: model.name ∨
        ∃ declared ∈ model.datamodel, EndsBlock declared.id ∨ EndsBlock declared.type := by
  have parts : classComment model =
      "*\n * Skill node for the ".toList ++ '"' :: (Cpp.escape model.name ++ '"' ::
        (" behavior.\n *\n * Datamodel".toList ++ ':' :: '\n' ::
          (Text.ofLines (datamodelLines model.datamodel) ++ " "))) := by
    unfold classComment classCommentLines
    repeat rw [String.toList_ofList]
    simp
  have noneBefore : ¬ EndsBlock "*\n * Skill node for the ".toList := by decide +kernel
  have noneBetween : ¬ EndsBlock " behavior.\n *\n * Datamodel".toList := by decide +kernel
  rw [parts, endsBlock_append_cons_iff (by decide) (by decide) (by decide),
    endsBlock_append_cons_iff (by decide) (by decide) (by decide),
    endsBlock_append_cons_iff (by decide) (by decide) (by decide),
    endsBlock_cons_iff (c := '\n') (by decide) (by decide), Cpp.endsBlock_escape_iff,
    endsBlock_datamodelLines_iff, or_iff_right noneBefore, or_iff_right noneBetween]

/-! ## The comment at the top -/

/-- A text is a comment line by line. -/
def IsMarked (text : Text) : Prop := ∀ line ∈ Text.splitOn '\n' text, lineComment <+: line

instance (text : Text) : Decidable (IsMarked text) :=
  inferInstanceAs (Decidable (∀ line ∈ Text.splitOn '\n' text, lineComment <+: line))

/-- A text after a comment marker is a comment exactly if its further lines are. -/
theorem isMarked_append_iff
    {start : Text}
    (noFeed : '\n' ∉ start)
    (startMarked : lineComment <+: start)
    (text : Text) :
    IsMarked (start ++ text) ↔
      ∀ line ∈ (Text.splitOn '\n' text).tail, lineComment <+: line := by
  obtain ⟨first, further, cut⟩ := List.exists_cons_of_ne_nil (Text.splitOn_ne_nil '\n' text)
  rw [IsMarked, Text.splitOn_append_of_notMem noFeed cut, cut, List.tail_cons,
    List.forall_mem_cons, and_iff_right (startMarked.trans (List.prefix_append start first))]

/-- The line that names the source is a comment exactly if every further line of the name
is one by itself. -/
theorem isMarked_sourceLine_iff (sourceName : Text) :
    IsMarked (Text.trimEnd ("// From: " ++ sourceName)) ↔
      ∀ line ∈ (Text.splitOn '\n' (Text.trimEnd sourceName)).tail, lineComment <+: line := by
  rw [Text.trimEnd_append]
  split
  · next isBlank =>
      rw [isBlank]
      exact iff_of_true (by decide +kernel) (by decide)
  · exact isMarked_append_iff (by decide +kernel) (by decide +kernel) _

theorem isMarked_join_iff (text : Text) (texts : List Text) :
    IsMarked (Text.join "\n" (text :: texts)) ↔ ∀ part ∈ text :: texts, IsMarked part := by
  have feed : ("\n" : Text) = ['\n'] := rfl
  simp only [IsMarked, feed, Text.splitOn_join, List.mem_flatMap]
  exact ⟨fun all part member line inPart => all line ⟨part, member, inPart⟩,
    fun all line ⟨part, member, inPart⟩ => all part member line inPart⟩

/-- Every line at the top of a file is a comment exactly if every further line of the name
of the source is one by itself. -/
theorem isMarked_fileHeader_iff (sourceName : Text) :
    IsMarked (fileHeader sourceName lineComment) ↔
      ∀ line ∈ (Text.splitOn '\n' (Text.trimEnd sourceName)).tail, lineComment <+: line := by
  cases sourceName with
  | nil => exact iff_of_true (by decide +kernel) (by decide)
  | cons c rest =>
      have sourceLine : lineComment ++ " ".toList ++ ("From: ".toList ++ c :: rest) =
          "// From: ".toList ++ c :: rest := rfl
      simp only [fileHeader, fileHeaderLines, List.isEmpty_cons, Bool.false_eq_true, if_false,
        List.map_cons, List.map_nil, isMarked_join_iff, List.forall_mem_cons, sourceLine,
        isMarked_sourceLine_iff]
      -- All lines but that one are fixed.
      rw [and_iff_right (by decide +kernel), and_iff_right (by decide +kernel),
        and_iff_right (by decide +kernel), and_iff_right (by decide +kernel),
        and_iff_left (by decide +kernel)]

/-! ## Comments after response fields -/

theorem exists_ofLines_eq {line : Text} {lines : List Text} (member : line ∈ lines) :
    ∃ before after, Text.ofLines lines = before ++ line ++ '\n' :: after := by
  obtain ⟨before, after, rfl⟩ := List.append_of_mem member
  exact ⟨Text.ofLines before, Text.ofLines after, by simp⟩

theorem insertLine_mem_submitLines
    {binding : Binding}
    {field : ResponseField}
    (isField : field ∈ binding.responseFields)
    (indent : Text)
    (taking ignoring : List Text) :
    insertLine indent field ∈ submitLines indent taking ignoring binding := by
  have notEmpty : binding.responseFields.isEmpty = false :=
    List.isEmpty_eq_false_iff.mpr (List.ne_nil_of_mem isField)
  unfold submitLines
  simp only [notEmpty, Bool.false_eq_true, if_false]
  exact List.mem_append_left _ (List.mem_append_right _ (List.mem_map_of_mem isField))

/-- Every response field has a line in the source that hands it over. -/
theorem exists_sourceText_eq
    {blueprint : Blueprint}
    {binding : Binding}
    (member : binding ∈ blueprint.services ++ blueprint.topics)
    {field : ResponseField}
    (isField : field ∈ binding.responseFields) :
    ∃ indent before after,
      sourceText blueprint = before ++ insertLine indent field ++ '\n' :: after := by
  have inSource : ∃ indent, insertLine indent field ∈ sourceLines blueprint := by
    rcases List.mem_append.mp member with isService | isTopic
    · have inCall : insertLine responseIndent field ∈ callLines blueprint.className binding := by
        simp [callLines, insertLine_mem_submitLines isField]
      have inCalls := List.mem_flatMap.mpr ⟨binding, isService, inCall⟩
      exact ⟨responseIndent, by simp [sourceLines, inCalls]⟩
    · have inCallback : insertLine messageIndent field ∈
          callbackLines blueprint.className binding := by
        simp [callbackLines, insertLine_mem_submitLines isField]
      have inCallbacks := List.mem_flatMap.mpr ⟨binding, isTopic, inCallback⟩
      exact ⟨messageIndent, by simp [sourceLines, inCallbacks]⟩
  obtain ⟨indent, inLines⟩ := inSource
  exact ⟨indent, exists_ofLines_eq inLines⟩

/-- Every endpoint has its binding among those of services and topics. -/
theorem exists_binding_of_endpoint
    {options : Options}
    {model : TypedModel}
    {blueprint : Blueprint}
    (isTyped : IsTyped model)
    (gathers : Blueprint.ofModel options model = .ok blueprint)
    {resolved : Statechart.ResolvedEndpoint}
    (isEndpoint : resolved ∈ model.endpoints) :
    ∃ binding ∈ blueprint.services ++ blueprint.topics,
      Binding.ofResolved resolved = .ok binding := by
  obtain ⟨_, _, services, topics, bound⟩ := Blueprint.bindings_inOrder gathers
  have named : resolved.endpoint.clientName ∈
      (blueprint.services ++ blueprint.topics).map Binding.clientName := by
    rw [List.map_append, services, topics, ← List.map_append]
    refine List.mem_map_of_mem ?_
    by_cases isService : resolved.endpoint.isService
    · exact List.mem_append_left _ (List.mem_filter.mpr ⟨isEndpoint, isService⟩)
    · exact List.mem_append_right _ (List.mem_filter.mpr ⟨isEndpoint, by simp [isService]⟩)
  obtain ⟨binding, member, sameClient⟩ := List.mem_map.mp named
  obtain ⟨bindingEndpoint, isBound⟩ := bound binding member
  obtain rfl : binding.resolved = resolved :=
    List.inj_on_of_nodup_map isTyped.guarantees.2 bindingEndpoint isEndpoint sameClient
  exact ⟨binding, member, isBound⟩

/-- What is printed of response fields are the variables of all resolved fields. -/
theorem forall_printedLocation_iff
    {options : Options}
    {model : TypedModel}
    {blueprint : Blueprint}
    (isTyped : IsTyped model)
    (gathers : Blueprint.ofModel options model = .ok blueprint)
    (Fits : Text → Prop) :
    (∀ binding ∈ blueprint.services ++ blueprint.topics, ∀ field ∈ binding.responseFields,
        Fits field.location) ↔
      ∀ resolved ∈ model.endpoints, ∀ field ∈ resolved.resolvedFields, Fits field.location := by
  constructor
  · intro fit resolved isEndpoint field isField
    obtain ⟨binding, member, bound⟩ := exists_binding_of_endpoint isTyped gathers isEndpoint
    obtain ⟨first, isFirst, sameName⟩ := exists_mem_distinctFields isField
    obtain rfl : first = field :=
      isTyped.eq_of_name_eq isEndpoint (mem_of_mem_distinctFields isFirst) isField sameName
    have isPrinted := List.mem_map_of_mem (f := fun field : Statechart.ResolvedField =>
      Statechart.Assignment.mk field.name field.location) isFirst
    rw [← assignments_of_ofResolved bound] at isPrinted
    obtain ⟨response, isResponse, same⟩ := List.mem_map.mp isPrinted
    have sameLocation : response.location = first.location :=
      congrArg Statechart.Assignment.location same
    exact sameLocation ▸ fit binding member response isResponse
  · intro fit binding member response isResponse
    obtain ⟨_, _, _, _, bound⟩ := Blueprint.bindings_inOrder gathers
    obtain ⟨isEndpoint, isBound⟩ := bound binding member
    have isAssigned := List.mem_map_of_mem (f := ResponseField.assignment) isResponse
    rw [assignments_of_ofResolved isBound] at isAssigned
    obtain ⟨field, isField, same⟩ := List.mem_map.mp isAssigned
    have sameLocation : field.location = response.location :=
      congrArg Statechart.Assignment.location same
    exact sameLocation ▸ fit _ isEndpoint field (mem_of_mem_distinctFields isField)

/-! ## All comments -/

/-- Every text that is printed in a comment stays in it: the block comment of the class ends
where its last line ends it, every line at the top of both files is a comment, and every
comment after a response field that is handed over ends with its line. -/
structure KeepsComments (blueprint : Blueprint) (sources : Sources) : Prop where
  classComment : ∃ after,
    sources.header = Text.ofLines (linesBeforeClass blueprint) ++ "/*" ++
        classComment blueprint.model ++ blockEnd ++ after ∧
      blockComment? (joinLines (classComment blueprint.model ++ blockEnd ++ after)) =
        some (joinLines (classComment blueprint.model), joinLines after)
  fileHeader : IsMarked blueprint.fileHeader ∧
    (∃ rest, sources.header = blueprint.fileHeader ++ '\n' :: rest) ∧
      ∃ rest, sources.source = blueprint.fileHeader ++ '\n' :: rest
  insertions : ∀ binding ∈ blueprint.services ++ blueprint.topics,
    ∀ field ∈ binding.responseFields, ∃ indent before after,
      sources.source = before ++ insertLine indent field ++ '\n' :: after ∧
        StaysOnLine field.location after

/-- The texts of a model that are printed in comments may stand there. -/
structure FitsComments (model : TypedModel) : Prop where
  name : ¬ blockEnd <:+: model.name
  datamodel : ∀ declared ∈ model.datamodel,
    ¬ EndsBlock declared.id ∧ ¬ EndsBlock declared.type
  source : ∀ line ∈ (Text.splitOn '\n'
    (Text.trimEnd (FileTree.Path.ofText model.source).name)).tail, lineComment <+: line
  locations : ∀ resolved ∈ model.endpoints, ∀ field ∈ resolved.resolvedFields,
    '\n' ∉ field.location ∧ field.location.getLast? ≠ some '\\'

section Parts

variable (blueprint : Blueprint)

theorem classComment_holds_iff :
    (∃ after, (layoutSources blueprint).header = Text.ofLines (linesBeforeClass blueprint) ++
        "/*" ++ classComment blueprint.model ++ blockEnd ++ after ∧
      blockComment? (joinLines (classComment blueprint.model ++ blockEnd ++ after)) =
        some (joinLines (classComment blueprint.model), joinLines after)) ↔
      ¬ blockEnd <:+: blueprint.model.name ∧ ∀ declared ∈ blueprint.model.datamodel,
        ¬ EndsBlock declared.id ∧ ¬ EndsBlock declared.type := by
  have fits_iff : ¬ EndsBlock (classComment blueprint.model) ↔
      ¬ blockEnd <:+: blueprint.model.name ∧ ∀ declared ∈ blueprint.model.datamodel,
        ¬ EndsBlock declared.id ∧ ¬ EndsBlock declared.type := by
    simp only [endsBlock_classComment_iff, not_or, not_exists, not_and]
  simp only [Cpp.blockComment?_joinLines_iff, exists_and_right]
  exact (and_iff_right (exists_headerText_eq blueprint)).trans fits_iff

theorem fileHeader_holds_iff :
    (IsMarked blueprint.fileHeader ∧
        (∃ rest, (layoutSources blueprint).header = blueprint.fileHeader ++ '\n' :: rest) ∧
          ∃ rest, (layoutSources blueprint).source = blueprint.fileHeader ++ '\n' :: rest) ↔
      ∀ line ∈ (Text.splitOn '\n'
        (Text.trimEnd (FileTree.Path.ofText blueprint.model.source).name)).tail,
          lineComment <+: line := by
  have inHeader : ∃ rest, headerText blueprint = blueprint.fileHeader ++ '\n' :: rest :=
    ⟨_, Text.ofLines_cons _ _⟩
  have inSource : ∃ rest, sourceText blueprint = blueprint.fileHeader ++ '\n' :: rest :=
    ⟨_, Text.ofLines_cons _ _⟩
  exact (and_iff_left ⟨inHeader, inSource⟩).trans (isMarked_fileHeader_iff _)

end Parts

/-- What is printed in comments stays in them exactly if no end of a block comment is in
the name of the skill, or in an id or type of a variable after lines were joined; every
further line of the name of the source is a comment by itself; and no variable that a
response field is handed over to has a line feed or ends in a backslash. -/
theorem keepsComments_iff
    {options : Options}
    {model : TypedModel}
    {sources : Sources}
    (isTyped : IsTyped model)
    (generates : generate bundledFolder [] options model = .ok sources) :
    ∃ blueprint, Blueprint.ofModel options model = .ok blueprint ∧
      (KeepsComments blueprint sources ↔ FitsComments model) := by
  obtain ⟨_, blueprint, gathers, rfl⟩ := exists_blueprint_of_generate generates
  obtain ⟨rfl, _⟩ := Blueprint.bindings_inOrder gathers
  refine ⟨blueprint, gathers, ?_⟩
  have locations_iff := forall_printedLocation_iff isTyped gathers
    fun location => '\n' ∉ location ∧ location.getLast? ≠ some '\\'
  constructor
  · rintro ⟨inBlock, atTop, onLines⟩
    obtain ⟨name, datamodel⟩ := (classComment_holds_iff blueprint).mp inBlock
    refine ⟨name, datamodel, (fileHeader_holds_iff blueprint).mp atTop, locations_iff.mp ?_⟩
    intro binding member field isField
    obtain ⟨_, _, _, _, stays⟩ := onLines binding member field isField
    exact Cpp.staysOnLine_iff.mp stays
  · rintro ⟨name, datamodel, source, locations⟩
    refine ⟨(classComment_holds_iff blueprint).mpr ⟨name, datamodel⟩,
      (fileHeader_holds_iff blueprint).mpr source, fun binding member field isField => ?_⟩
    obtain ⟨indent, before, after, whole⟩ := exists_sourceText_eq member isField
    exact ⟨indent, before, after, whole,
      Cpp.staysOnLine_iff.mpr (locations_iff.mpr locations binding member field isField)⟩

/-- The comments of the door skill hold. -/
theorem keepsComments_door :
    let model := Statechart.resolve doorModel Interface.Catalog.empty
    IsTyped model ∧ ∃ sources blueprint, generate bundledFolder [] {} model = .ok sources ∧
      Blueprint.ofModel {} model = .ok blueprint ∧ KeepsComments blueprint sources := by
  intro model
  have isGathered : (Blueprint.ofModel {} model).isOk = true := by decide +kernel
  obtain ⟨_, gathers⟩ := exists_ok_of_isOk isGathered
  have generates := generate_of_isPlain isPlain_doorModel rfl Options.isPrintable_default gathers
  have fits : FitsComments model :=
    ⟨by decide +kernel, by decide +kernel, by decide +kernel, by decide +kernel⟩
  obtain ⟨blueprint, gathersToo, keeps_iff⟩ := keepsComments_iff isTyped_doorModel generates
  exact ⟨isTyped_doorModel, _, blueprint, generates, gathersToo, keeps_iff.mpr fits⟩

/-- A skill whose name ends a block comment. -/
def starModel : Statechart.RawModel where
  name := "a*/b"
  source := "s.scxml"
  initial := []
  datamodel := []
  states := []
  endpoints := []

/-- The block comment of its class ends in the middle of the name, and the rest of the name
stands outside. -/
theorem classComment_endsEarly_star :
    let model := Statechart.resolve starModel Interface.Catalog.empty
    IsTyped model ∧ ∃ sources blueprint after,
      generate bundledFolder [] {} model = .ok sources ∧
        Blueprint.ofModel {} model = .ok blueprint ∧
          sources.header = Text.ofLines (linesBeforeClass blueprint) ++ "/*" ++
            classComment model ++ blockEnd ++ after ∧
            (∃ outside, blockComment? (joinLines (classComment model ++ blockEnd ++ after)) =
              some ("*\n * Skill node for the \"a".toList, "b\" behavior.".toList ++ outside)) ∧
              ¬ KeepsComments blueprint sources := by
  intro model
  have isTyped : IsTyped model :=
    ⟨starModel, _, .inl ⟨"s.scxml", "<scxml name='a*/b'/>", .none, by decide +kernel⟩, rfl⟩
  have isPlain : model.IsPlain :=
    ⟨by decide +kernel, by decide +kernel, by decide +kernel, fun _ member => nomatch member⟩
  have isGathered : (Blueprint.ofModel {} model).isOk = true := by decide +kernel
  obtain ⟨blueprint, gathers⟩ := exists_ok_of_isOk isGathered
  have sameModel : blueprint.model = model := (Blueprint.bindings_inOrder gathers).1
  have generates := generate_of_isPlain isPlain rfl Options.isPrintable_default gathers
  obtain ⟨after, header⟩ := exists_headerText_eq blueprint
  rw [sameModel] at header
  have comment : joinLines (classComment model) =
      "*\n * Skill node for the \"a".toList ++ blockEnd ++ ("b\" behavior.".toList ++
        "\n *\n * Datamodel:\n *   (empty)\n ".toList) := by
    decide +kernel
  have noEndBefore : ¬ blockEnd <:+: "*\n * Skill node for the \"a".toList := by decide +kernel
  refine ⟨isTyped, _, blueprint, after, generates, gathers, header,
    ⟨"\n *\n * Datamodel:\n *   (empty)\n ".toList ++ (blockEnd ++ joinLines after), ?_⟩,
    fun keeps => ?_⟩
  · rw [Cpp.blockComment?_eq_some_iff, Cpp.joinLines_append_blockEnd, comment]
    exact ⟨by simp only [List.append_assoc], noEndBefore⟩
  · have noEnd := ((classComment_holds_iff blueprint).mp keeps.classComment).1
    rw [sameModel] at noEnd
    exact noEnd (by decide +kernel)

end Generation
end SkillNode
