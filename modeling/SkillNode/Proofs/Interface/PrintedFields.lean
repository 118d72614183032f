import Mathlib.Data.List.Basic
import SkillNode.Proofs.Interface.Comments
import SkillNode.Proofs.Interface.FieldLines
import SkillNode.Proofs.Text.Words

/-!
# Printed fields

Fields are printed one per line, the type before the name. What is printed is read as the same
fields, provided that every type is one word without a comment. The fields that were read from a
section are like that, whatever quotes, comments and constants stood around them, so that
printing them gives the section a normal form.
-/

namespace SkillNode
namespace Interface

/-- The line that declares a field: its type and its name. -/
def Field.line (field : Field) : Text := field.type ++ ' ' :: field.name

/-- Fields as a section, one on each line. -/
def printFields (fields : List Field) : Text := fields.flatMap fun field => field.line ++ ['\n']

/-- A field that can stand on a line: its name is one of a field, and its type is a word that
starts no comment. The type may leave a quote open. -/
structure Field.IsWritable (field : Field) : Prop where
  named : isFieldName field.name = true
  typed : Text.IsWord field.type
  kept : KeepsAll none field.type

/-! ## Names -/

/-- The name of a field is made of letters, digits and underscores. -/
theorem isAsciiWord_of_isFieldName {name : Text} (isName : isFieldName name = true) :
    ∀ c ∈ name, Text.isAsciiWord c = true := by
  cases name with
  | nil => cases isName
  | cons first rest =>
      simp only [isFieldName, Bool.and_eq_true, List.all_eq_true] at isName
      obtain ⟨isLetter, restWords⟩ := isName
      intro c member
      rcases List.mem_cons.mp member with rfl | inRest
      · have isAlphanum : (c.isAlpha || c.isDigit) = true := by rw [isLetter, Bool.true_or]
        exact Bool.or_eq_true_iff.mpr (.inl isAlphanum)
      · exact restWords c inRest

/-- A character outside letters, digits and underscores is in no name of a field. -/
theorem notMem_of_isFieldName
    {name : Text}
    {c : Char}
    (isName : isFieldName name = true)
    (isOther : Text.isAsciiWord c = false) :
    c ∉ name := by
  intro member
  rw [isAsciiWord_of_isFieldName isName c member] at isOther
  cases isOther

theorem isWord_of_isFieldName {name : Text} (isName : isFieldName name = true) :
    Text.IsWord name where
  notEmpty := by
    rintro rfl
    cases isName
  unblank c member := Text.isBlank_of_isAsciiWord (isAsciiWord_of_isFieldName isName c member)

/-! ## Reading what was printed -/

namespace Field.IsWritable

variable {field : Field} (writable : field.IsWritable)

include writable

/-- The line of a field holds no comment. -/
theorem stripComment_line : stripComment field.line = field.line := by
  have noSign : '#' ∉ ' ' :: field.name := by
    have notInName : '#' ∉ field.name := notMem_of_isFieldName writable.named (by decide)
    simp [notInName]
  exact keepsAll_append_iff.mpr ⟨writable.kept, keepsAll_of_notMem noSign⟩

/-- The line of a field starts and ends with a word, so there is nothing to trim. -/
theorem lineContent_line : lineContent field.line = field.line := by
  have split : field.line = (field.type ++ [' ']) ++ field.name := by simp [Field.line]
  rw [lineContent, writable.stripComment_line, Text.trim, Field.line,
    writable.typed.trimStart_append, ← Field.line, split]
  exact (isWord_of_isFieldName writable.named).trimEnd_append _

theorem ofLine_line : Field.ofLine field.line = .ok (some field) := by
  have nameWord := isWord_of_isFieldName writable.named
  have typeFirst : Text.firstWord? field.line = some (field.type, field.name) := by
    have blankNext : ∀ c, (' ' :: field.name).head? = some c → Text.isBlank c = true := by
      intro c isNext
      obtain rfl : ' ' = c := by simpa using isNext
      decide
    have nameStays : Text.trimStart (' ' :: field.name) = field.name := by
      have blankDropped : Text.trimStart (' ' :: field.name) = Text.trimStart field.name := by
        simp [Text.trimStart, show Text.isBlank ' ' = true by decide]
      rw [blankDropped]
      simpa using nameWord.trimStart_append []
    rw [Field.line, writable.typed.firstWord?_append blankNext, nameStays]
  have nameNext : Text.firstWord? field.name = some (field.name, []) := by
    have nothingNext : ∀ c, ([] : Text).head? = some c → Text.isBlank c = true := by simp
    simpa [Text.trimStart] using nameWord.firstWord?_append nothingNext
  have noValue : '=' ∉ field.name := notMem_of_isFieldName writable.named (by decide)
  rw [Field.ofLine, writable.lineContent_line, Field.ofContent, typeFirst]
  simp [nameNext, noValue, writable.named]

/-- The line of a field is one line. -/
theorem isUnbroken_line : Text.IsUnbroken field.line := by
  have nameWord := isWord_of_isFieldName writable.named
  intro c member
  rcases List.mem_append.mp member with inType | inRest
  · exact Text.isLineBreak_of_unblank (writable.typed.unblank c inType)
  · rcases List.mem_cons.mp inRest with rfl | inName
    · decide
    · exact Text.isLineBreak_of_unblank (nameWord.unblank c inName)

end Field.IsWritable

/-- Fields that can stand on lines are read from what they are printed as. -/
theorem readFields_printFields
    {fields : List Field}
    (writable : ∀ field ∈ fields, field.IsWritable)
    (source : Text)
    (firstLine : Int) :
    readFields (printFields fields) source firstLine = .ok fields := by
  have printedLines : Text.lines (printFields fields) = fields.map Field.line := by
    have unbroken : ∀ line ∈ fields.map Field.line, Text.IsUnbroken line := by
      intro line member
      obtain ⟨field, fieldMember, rfl⟩ := List.mem_map.mp member
      exact (writable field fieldMember).isUnbroken_line
    have endedLines := Text.lines_flatMap_lineFeed unbroken
    rwa [List.flatMap_map] at endedLines
  have wellFormed : ∀ line ∈ fields.map Field.line, IsWellFormed line := by
    intro line member
    obtain ⟨field, fieldMember, rfl⟩ := List.mem_map.mp member
    exact ⟨some field, (writable field fieldMember).ofLine_line⟩
  have declaredBack : declaredFields (fields.map Field.line) = fields := by
    have readsBack : ∀ field ∈ fields, declaredField? field.line = some field := by
      intro field member
      simp [declaredField?, (writable field member).ofLine_line]
    rw [declaredFields, List.filterMap_map]
    calc fields.filterMap (declaredField? ∘ Field.line)
        _ = fields.filterMap some := List.filterMap_congr readsBack
        _ = fields := List.filterMap_some
  rw [readFields, printedLines, fieldsOfLines_of_wellFormed wellFormed, declaredBack]

/-! ## Printing what was read -/

/-- A declared field is named like one, and its type is the first word of what the line says. -/
theorem ofContent_eq_some
    {content : Text}
    {field : Field}
    (declares : Field.ofContent content = .ok (some field)) :
    isFieldName field.name = true ∧ ∃ rest, Text.firstWord? content = some (field.type, rest) := by
  unfold Field.ofContent at declares
  split at declares
  · cases declares
  · next type rest typeFirst =>
      split at declares
      · cases declares
      · split at declares
        · cases declares
        · split at declares
          · next isName =>
              obtain rfl := Option.some.inj (Except.ok.inj declares)
              exact ⟨isName, rest, typeFirst⟩
          · cases declares

/-- A declared field can stand on a line. The type starts its line, blanks apart, so the quotes
in it open and close in print as they did there. -/
theorem isWritable_of_ofLine
    {line : Text}
    {field : Field}
    (declares : Field.ofLine line = .ok (some field)) :
    field.IsWritable := by
  obtain ⟨named, rest, typeFirst⟩ := ofContent_eq_some declares
  obtain ⟨typed, inner, more, content, innerBlank⟩ := Text.firstWord?_eq_some typeFirst
  obtain ⟨leading, after, whole, leadingBlank⟩ := Text.exists_trim_eq (stripComment line)
  refine ⟨named, typed, ?_⟩
  have stripped : KeepsAll none (leading ++ (inner ++ (field.type ++ (more ++ after)))) := by
    have lineKept : KeepsAll none (stripComment line) := keepsAll_stripCommentWithin
    rw [whole, ← lineContent, content] at lineKept
    simpa using lineKept
  have innerKept := stripped.of_blank leadingBlank
  exact (keepsAll_append_iff.mp (innerKept.of_blank innerBlank)).1

/-- The fields of a section can stand on lines. -/
theorem isWritable_of_readFields
    {text source : Text}
    {firstLine : Int}
    {fields : List Field}
    (reads : readFields text source firstLine = .ok fields) :
    ∀ field ∈ fields, field.IsWritable := by
  rw [readFields] at reads
  generalize Text.lines text = lines at reads
  induction lines generalizing firstLine fields with
  | nil =>
      obtain rfl := Except.ok.inj reads
      simp
  | cons line rest restHypothesis =>
      rw [fieldsOfLines] at reads
      split at reads
      · cases reads
      · next declared lineReads =>
          split at reads
          · cases reads
          · next others restReads =>
              obtain rfl := Except.ok.inj reads
              intro field member
              rcases List.mem_append.mp member with isDeclared | inOthers
              · obtain rfl : declared = some field := by simpa using isDeclared
                exact isWritable_of_ofLine lineReads
              · exact restHypothesis restReads field inOthers

/-- Sections have a normal form. Fields with names of fields and with types that are not empty
and hold no blank, quote or number sign are read back from what they are printed as, and so are
the fields of every section that is accepted. -/
theorem readFields_normalForm (source : Text) (firstLine : Int) :
    (∀ fields : List Field,
      (∀ field ∈ fields, isFieldName field.name = true ∧ field.type ≠ [] ∧
        ∀ c ∈ field.type, Text.isBlank c = false ∧ isQuote c = false ∧ c ≠ '#') →
      readFields (printFields fields) source firstLine = .ok fields) ∧
    ∀ text fields, readFields text source firstLine = .ok fields →
      readFields (printFields fields) source firstLine = .ok fields := by
  constructor
  · intro fields plain
    apply readFields_printFields
    intro field member
    obtain ⟨named, notEmpty, plainType⟩ := plain field member
    have noSign : '#' ∉ field.type := fun isMember => (plainType _ isMember).2.2 rfl
    exact ⟨named, ⟨notEmpty, fun c isMember => (plainType c isMember).1⟩,
      keepsAll_of_notMem noSign⟩
  · intro text fields reads
    exact readFields_printFields (isWritable_of_readFields reads) source firstLine

/-- A section with a comment, a constant and no-break spaces, and a type in which a quoted number
sign stands and a quote stays open. -/
def quotedSection : Text :=
  "# speeds\nint32 LIMIT=3 # top\n\u00a0float64\u00a0speed 1.5\nstring<='#'>' label # x\n"

/-- Two fields with signs in their types. -/
def signedFields : List Field := [⟨"a_1", "p/T[<=3]"⟩, ⟨"B", "="⟩]

/-- Two fields that were not read from any text, and those of a section full of quotes. -/
theorem readFields_normalForm_quoted :
    readFields (printFields signedFields) [] 1 = .ok signedFields ∧
    readFields quotedSection [] 1 = .ok [⟨"speed", "float64"⟩, ⟨"label", "string<='#'>'"⟩] ∧
    readFields (printFields [⟨"speed", "float64"⟩, ⟨"label", "string<='#'>'"⟩]) [] 1 =
      .ok [⟨"speed", "float64"⟩, ⟨"label", "string<='#'>'"⟩] := by
  have quotedReads : readFields quotedSection [] 1 =
      .ok [⟨"speed", "float64"⟩, ⟨"label", "string<='#'>'"⟩] := by
    rw [readFields, fieldsOfLines_of_wellFormed (by decide +kernel)]
    exact congrArg Except.ok (by decide +kernel)
  have arePlain : ∀ field ∈ signedFields, isFieldName field.name = true ∧ field.type ≠ [] ∧
      field.type.all (fun c => !Text.isBlank c && !isQuote c && c != '#') = true := by
    decide +kernel
  refine ⟨?_, quotedReads, (readFields_normalForm [] 1).2 quotedSection _ quotedReads⟩
  apply (readFields_normalForm [] 1).1
  intro field member
  obtain ⟨named, notEmpty, plainType⟩ := arePlain field member
  refine ⟨named, notEmpty, fun c inType => ?_⟩
  simpa [and_assoc] using List.all_eq_true.mp plainType c inType

end Interface
end SkillNode
