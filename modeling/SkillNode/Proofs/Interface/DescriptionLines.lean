import SkillNode.Interface.Catalog
import SkillNode.Proofs.Interface.FieldLines

/-!
# Lines of a description

A message is one section. A service is two, which its only separator parts; they are cut
apart, joined and read each on its own, but what is said of them is said of the whole text.

The main statement says which sections a description declares, and that a refused one is
refused at its first line that cannot be read, counted from the start of the text.
-/

namespace SkillNode
namespace Interface

open Description (isSeparator)

/-- Whether the lines of a service are some lines, a separator, and some more lines, without
another separator among them. -/
structure IsParted (lines before after : List Text) : Prop where
  whole : ∃ separator, isSeparator separator = true ∧ lines = before ++ separator :: after
  beforePlain : ∀ line ∈ before, isSeparator line = false
  afterPlain : ∀ line ∈ after, isSeparator line = false

/-- Lines with one separator are parted by it. -/
theorem exists_isParted_iff {lines : List Text} :
    (∃ before after, IsParted lines before after) ↔ lines.countP isSeparator = 1 := by
  constructor
  · rintro ⟨before, after, ⟨separator, parts, rfl⟩, beforePlain, afterPlain⟩
    have noneBefore : before.countP isSeparator = 0 := by
      rw [List.countP_eq_zero]
      intro line member
      simp [beforePlain line member]
    have noneAfter : after.countP isSeparator = 0 := by
      rw [List.countP_eq_zero]
      intro line member
      simp [afterPlain line member]
    rw [List.countP_append, List.countP_cons, noneBefore, noneAfter, parts]
    rfl
  · intro isOne
    induction lines with
    | nil => simp at isOne
    | cons line rest restHypothesis =>
        rw [List.countP_cons] at isOne
        cases parts : isSeparator line with
        | true =>
            have noneAfter : rest.countP isSeparator = 0 := by
              rw [parts] at isOne
              simpa using isOne
            refine ⟨[], rest, ⟨line, parts, rfl⟩, by simp, ?_⟩
            intro other member
            simpa using List.countP_eq_zero.mp noneAfter other member
        | false =>
            obtain ⟨before, after, ⟨separator, partsRest, rfl⟩, beforePlain, afterPlain⟩ :=
              restHypothesis (by rw [parts] at isOne; simpa using isOne)
            refine ⟨line :: before, after, ⟨separator, partsRest, rfl⟩, ?_, afterPlain⟩
            intro other member
            rcases List.mem_cons.mp member with rfl | later
            · exact parts
            · exact beforePlain other later

/-! ## Sections of a service -/

/-- The lines before the separator are the request, those after it the response; their
numbers are those that they have in the whole. -/
theorem serviceSections_of_isParted
    {text source : Text}
    {before after : List Text}
    (parted : IsParted (Text.lines text) before after) :
    Description.serviceSections source (Text.lines text) =
      (fieldsOfLines source 1 before).bind fun request =>
        (fieldsOfLines source (before.length + 2) after).map (Sections.service request) := by
  have isOne := exists_isParted_iff.mp ⟨before, after, parted⟩
  have unbroken : ∀ line ∈ Text.lines text, Text.IsUnbroken line := fun line member =>
    Text.isLineBreak_of_mem_lines member
  obtain ⟨⟨separator, parts, whole⟩, beforePlain, afterPlain⟩ := parted
  rw [whole] at isOne unbroken
  have taken : (before ++ separator :: after).takeWhile (! isSeparator ·) = before := by
    rw [List.takeWhile_append_of_pos (by simpa using beforePlain)]
    simp [parts]
  have left : (before ++ separator :: after).drop (before.length + 1) = after := by
    rw [← List.drop_drop, List.drop_left]
    rfl
  have beforeUnbroken : ∀ line ∈ before, Text.IsUnbroken line := fun line member =>
    unbroken line (List.mem_append_left _ member)
  have afterUnbroken : ∀ line ∈ after, Text.IsUnbroken line := fun line member =>
    unbroken line (List.mem_append_right _ (List.mem_cons_of_mem _ member))
  rw [whole]
  unfold Description.serviceSections
  rw [isOne]
  simp only [taken, left, readFields_join beforeUnbroken, readFields_join afterUnbroken]
  cases fieldsOfLines source 1 before with
  | error error => rfl
  | ok request => cases fieldsOfLines source (before.length + 2) after <;> rfl

/-- The first fault of a service stands in its request, or in its response after a request
that can be read. -/
theorem firstFault_cases
    {lines before after : List Text}
    (parted : IsParted lines before after)
    {index : Nat}
    {fault : Fault}
    (isFirst : IsFirstFault (! isSeparator ·) lines index fault) :
    IsFirstFault (fun _ => true) before index fault ∨
      (∀ line ∈ before, IsWellFormed line) ∧
        ∃ place, index = before.length + 1 + place ∧
          IsFirstFault (fun _ => true) after place fault := by
  obtain ⟨⟨separator, parts, rfl⟩, beforePlain, afterPlain⟩ := parted
  induction before generalizing index with
  | nil =>
      cases index with
      | zero =>
          obtain ⟨reads, _⟩ := isFirstFault_cons_zero_iff.mp isFirst
          simp [parts] at reads
      | succ place =>
          obtain ⟨_, ⟨line, found, _, isFaulty⟩, readBefore⟩ :=
            isFirstFault_cons_succ_iff.mp isFirst
          refine .inr ⟨by simp, place, by simp; omega, ⟨line, found, rfl, isFaulty⟩, ?_⟩
          intro earlier isEarlier other isOther _
          have isPlain := afterPlain other (List.mem_of_getElem? isOther)
          exact readBefore earlier isEarlier other isOther (by simp [isPlain])
  | cons line before beforeHypothesis =>
      have lineIsRead : (! isSeparator line) = true := by
        simp [beforePlain line (List.mem_cons_self ..)]
      cases index with
      | zero =>
          obtain ⟨_, isFaulty⟩ := isFirstFault_cons_zero_iff.mp isFirst
          exact .inl (isFirstFault_cons_zero_iff.mpr ⟨rfl, isFaulty⟩)
      | succ place =>
          obtain ⟨lineReads, isFirstLater⟩ := isFirstFault_cons_succ_iff.mp isFirst
          rcases beforeHypothesis
              (fun other member => beforePlain other (List.mem_cons_of_mem _ member))
              isFirstLater with
            inRequest | ⟨requestReads, further, isPlace, inResponse⟩
          · exact .inl (isFirstFault_cons_succ_iff.mpr ⟨fun _ => lineReads lineIsRead, inRequest⟩)
          · refine .inr ⟨?_, further, by simp; omega, inResponse⟩
            intro other member
            rcases List.mem_cons.mp member with rfl | later
            · exact lineReads lineIsRead
            · exact requestReads other later

/-! ## Whole descriptions -/

namespace Description

/-- Whether a line of a description is one of a section: the separator of a service is not. -/
def isSectionLine (description : Description) (line : Text) : Bool :=
  !(description.isService && isSeparator line)

/-- A description is refused at its first line that cannot be read. -/
theorem sections_of_firstFault
    {description : Description}
    (parts : description.isService = true →
      (Text.lines description.text).countP isSeparator = 1)
    {index : Nat}
    {fault : Fault}
    (isFirst :
      IsFirstFault description.isSectionLine (Text.lines description.text) index fault) :
    description.sections = .error ⟨description.sourceName, some (index + 1), fault⟩ := by
  unfold sections
  cases sort : description.isService with
  | false =>
      have allRead : description.isSectionLine = fun _ => true := by
        funext line
        simp [isSectionLine, sort]
      rw [allRead] at isFirst
      have fails := fieldsOfLines_of_firstFault isFirst description.sourceName 1
      rw [if_neg Bool.false_ne_true, readFields, fails, Int.add_comm]
      rfl
  | true =>
      have onlyOthers : description.isSectionLine = (! isSeparator ·) := by
        funext line
        simp [isSectionLine, sort]
      rw [onlyOthers] at isFirst
      obtain ⟨before, after, parted⟩ := exists_isParted_iff.mpr (parts sort)
      rw [if_pos rfl, serviceSections_of_isParted parted]
      rcases firstFault_cases parted isFirst with
        inRequest | ⟨requestReads, place, rfl, inResponse⟩
      · rw [fieldsOfLines_of_firstFault inRequest, Int.add_comm]
        rfl
      · have sameLine : (before.length : Int) + 2 + place =
            ((before.length + 1 + place : Nat) : Int) + 1 := by
          omega
        rw [fieldsOfLines_of_wellFormed requestReads, fieldsOfLines_of_firstFault inResponse,
          sameLine]
        rfl

end Description

/-- A description that declares sections is added with them. -/
theorem Catalog.fields_of_add
    {description : Description}
    {sections : Sections}
    (declares : description.sections = .ok sections)
    (catalog : Catalog) :
    ∃ extended log, catalog.add description = .ok (extended, log) ∧
      ∀ kind, extended.fields description.key kind = sections.fields kind := by
  refine ⟨_, _, by rw [Catalog.add, declares], ?_⟩
  intro kind
  rw [Catalog.fields, Catalog.find?_insert, if_pos rfl]

/-- A service without exactly one separator is refused as a whole. Any other description is
refused at its first line that cannot be read, counted in the whole text; if there is none, its
sections are in the catalog, namely the fields of the lines before the separator and of those
after it, or of all lines of a message, each line read on its own. -/
theorem add_readsLines (catalog : Catalog) (description : Description) :
    (description.isService = true →
      (Text.lines description.text).countP isSeparator ≠ 1 →
      catalog.add description =
        .error ⟨description.sourceName, none,
          .separatorCount ((Text.lines description.text).countP isSeparator)⟩) ∧
    ((description.isService = true →
        (Text.lines description.text).countP isSeparator = 1) →
      (∃ line ∈ Text.lines description.text,
        description.isSectionLine line = true ∧ ¬ IsWellFormed line) →
      ∃ index fault,
        IsFirstFault description.isSectionLine (Text.lines description.text) index fault ∧
          catalog.add description =
            .error ⟨description.sourceName, some (index + 1), fault⟩) ∧
    (∀ before after, description.isService = true →
      IsParted (Text.lines description.text) before after →
      (∀ line ∈ before ++ after, IsWellFormed line) →
      ∃ extended log, catalog.add description = .ok (extended, log) ∧
        extended.fields description.key .request = declaredFields before ∧
        extended.fields description.key .response = declaredFields after) ∧
    (description.isService = false →
      (∀ line ∈ Text.lines description.text, IsWellFormed line) →
      ∃ extended log, catalog.add description = .ok (extended, log) ∧
        extended.fields description.key .message =
          declaredFields (Text.lines description.text)) := by
  refine ⟨?_, ?_, ?_, ?_⟩
  · intro isService notOne
    have refused : description.sections =
        .error ⟨description.sourceName, none,
          .separatorCount ((Text.lines description.text).countP isSeparator)⟩ := by
      rw [Description.sections, if_pos isService, Description.serviceSections]
      split
      · contradiction
      · rfl
    rw [Catalog.add, refused]
  · intro parts notAllRead
    obtain ⟨index, fault, isFirst⟩ := exists_isFirstFault notAllRead
    refine ⟨index, fault, isFirst, ?_⟩
    rw [Catalog.add, Description.sections_of_firstFault parts isFirst]
  · intro before after isService parted wellFormed
    have beforeReads := fieldsOfLines_of_wellFormed
      (fun line member => wellFormed line (List.mem_append_left _ member)) description.sourceName 1
    have afterReads := fieldsOfLines_of_wellFormed
      (fun line member => wellFormed line (List.mem_append_right _ member)) description.sourceName
      (before.length + 2)
    have declares : description.sections =
        .ok (.service (declaredFields before) (declaredFields after)) := by
      rw [Description.sections, if_pos isService, serviceSections_of_isParted parted, beforeReads,
        afterReads]
      rfl
    obtain ⟨extended, log, added, fields⟩ := Catalog.fields_of_add declares catalog
    exact ⟨extended, log, added, fields .request, fields .response⟩
  · intro isMessage wellFormed
    have declares : description.sections =
        .ok (.message (declaredFields (Text.lines description.text))) := by
      rw [Description.sections, isMessage, if_neg Bool.false_ne_true, readFields,
        fieldsOfLines_of_wellFormed wellFormed]
      rfl
    obtain ⟨extended, log, added, fields⟩ := Catalog.fields_of_add declares catalog
    exact ⟨extended, log, added, fields .message⟩

/-- A description of a gauge, as a service or as a message. -/
def gaugeDescription (isService : Bool) (text : Text) : Description :=
  ⟨⟨"p", "Gauge"⟩, text, isService, []⟩

/-- A service without a separator, one with a fault after it, one that is read, and a message. -/
theorem add_readsLines_gauge :
    Catalog.empty.add (gaugeDescription true "bool ok\n") =
      .error ⟨"p/Gauge", none, .separatorCount 0⟩ ∧
    (∃ index fault,
      IsFirstFault (gaugeDescription true "int32 a\n---\nbool b\nbool\n").isSectionLine
        ["int32 a", "---", "bool b", "bool"] index fault ∧
      Catalog.empty.add (gaugeDescription true "int32 a\n---\nbool b\nbool\n") =
        .error ⟨"p/Gauge", some (index + 1), fault⟩) ∧
    (∃ extended log,
      Catalog.empty.add (gaugeDescription true "int32 a # b\n--- # c\nbool d\n") =
        .ok (extended, log) ∧
      extended.fields ⟨"p", "Gauge"⟩ .request = [⟨"a", "int32"⟩] ∧
      extended.fields ⟨"p", "Gauge"⟩ .response = [⟨"d", "bool"⟩]) ∧
    ∃ extended log,
      Catalog.empty.add (gaugeDescription false "bool ok\n") = .ok (extended, log) ∧
      extended.fields ⟨"p", "Gauge"⟩ .message = [⟨"ok", "bool"⟩] := by
  have faultyLines : Text.lines "int32 a\n---\nbool b\nbool\n" =
      (["int32 a", "---", "bool b", "bool"] : List Text) := by
    decide +kernel
  have partedLines : IsParted (Text.lines "int32 a # b\n--- # c\nbool d\n")
      ["int32 a # b"] ["bool d"] := by
    refine ⟨⟨"--- # c", by decide +kernel, by decide +kernel⟩, ?_, ?_⟩ <;> decide +kernel
  refine ⟨?_, ?_, ?_, ?_⟩
  · exact (add_readsLines Catalog.empty (gaugeDescription true "bool ok\n")).1 rfl
      (by decide +kernel)
  · have located := (add_readsLines Catalog.empty
        (gaugeDescription true "int32 a\n---\nbool b\nbool\n")).2.1
      (fun _ => by decide +kernel) ⟨"bool", by decide +kernel, by decide +kernel, by decide +kernel⟩
    rw [gaugeDescription, faultyLines] at located
    exact located
  · obtain ⟨extended, log, added, request, response⟩ := (add_readsLines Catalog.empty
        (gaugeDescription true "int32 a # b\n--- # c\nbool d\n")).2.2.1
      _ _ rfl partedLines (by decide +kernel)
    exact ⟨extended, log, added, request.trans (by decide +kernel),
      response.trans (by decide +kernel)⟩
  · obtain ⟨extended, log, added, fields⟩ := (add_readsLines Catalog.empty
        (gaugeDescription false "bool ok\n")).2.2.2 rfl (by decide +kernel)
    exact ⟨extended, log, added, fields.trans (by decide +kernel)⟩

end Interface
end SkillNode
