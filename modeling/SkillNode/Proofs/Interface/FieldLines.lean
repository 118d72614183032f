import SkillNode.Interface.Field
import SkillNode.Proofs.Text.JoinedLines

/-!
# Lines of a section

A section is read line by line. Each line is well formed or not whatever stands around it, so
the fields of a section are those of its lines, and the first line that is not well formed is
the one that is reported.
-/

namespace SkillNode
namespace Interface

/-- Whether a line can be read: it declares a field, or nothing. -/
def IsWellFormed (line : Text) : Prop := ∃ declared, Field.ofLine line = .ok declared

instance (line : Text) : Decidable (IsWellFormed line) :=
  match outcome : Field.ofLine line with
  | .ok declared => isTrue ⟨declared, outcome⟩
  | .error _ => isFalse fun ⟨_, reads⟩ => by rw [outcome] at reads; cases reads

/-- The field that a line declares, read on its own. -/
def declaredField? (line : Text) : Option Field :=
  match Field.ofLine line with
  | .ok declared => declared
  | .error _ => none

/-- The fields that lines declare, each line read on its own. -/
def declaredFields (lines : List Text) : List Field := lines.filterMap declaredField?

/-- A line that cannot be read has a fault. -/
theorem exists_fault_of_not_wellFormed {line : Text} (isBad : ¬ IsWellFormed line) :
    ∃ fault, Field.ofLine line = .error fault := by
  cases outcome : Field.ofLine line with
  | ok declared => exact absurd ⟨declared, outcome⟩ isBad
  | error fault => exact ⟨fault, rfl⟩

/-! ## The first fault -/

/-- The first of the lines to be read that cannot be read: how many lines stand before it, and
what is wrong with it. -/
structure IsFirstFault
    (isRead : Text → Bool)
    (lines : List Text)
    (index : Nat)
    (fault : Fault) : Prop where
  found : ∃ line, lines[index]? = some line ∧ isRead line = true ∧ Field.ofLine line = .error fault
  readBefore : ∀ earlier, earlier < index → ∀ other, lines[earlier]? = some other →
    isRead other = true → IsWellFormed other

section FirstFault

variable {isRead : Text → Bool} {line : Text} {rest : List Text} {index : Nat} {fault : Fault}

theorem isFirstFault_cons_zero_iff :
    IsFirstFault isRead (line :: rest) 0 fault ↔
      isRead line = true ∧ Field.ofLine line = .error fault := by
  constructor
  · rintro ⟨⟨other, isFirst, reads, isFaulty⟩, _⟩
    obtain rfl : line = other := by simpa using isFirst
    exact ⟨reads, isFaulty⟩
  · rintro ⟨reads, isFaulty⟩
    exact ⟨⟨line, rfl, reads, isFaulty⟩, by intro earlier isEarlier; omega⟩

theorem isFirstFault_cons_succ_iff :
    IsFirstFault isRead (line :: rest) (index + 1) fault ↔
      (isRead line = true → IsWellFormed line) ∧ IsFirstFault isRead rest index fault := by
  constructor
  · rintro ⟨found, readBefore⟩
    refine ⟨readBefore 0 (by omega) line rfl, by simpa using found, ?_⟩
    intro earlier isEarlier other isOther
    exact readBefore (earlier + 1) (by omega) other (by simpa using isOther)
  · rintro ⟨lineReads, found, readBefore⟩
    refine ⟨by simpa using found, ?_⟩
    intro earlier isEarlier other isOther
    cases earlier with
    | zero =>
        obtain rfl : line = other := by simpa using isOther
        exact lineReads
    | succ place => exact readBefore place (by omega) other (by simpa using isOther)

/-- Of lines that cannot all be read one is the first. -/
theorem exists_isFirstFault
    {lines : List Text}
    (notAllRead : ∃ line ∈ lines, isRead line = true ∧ ¬ IsWellFormed line) :
    ∃ index fault, IsFirstFault isRead lines index fault := by
  induction lines with
  | nil => simp at notAllRead
  | cons line rest restHypothesis =>
      by_cases lineReads : isRead line = true → IsWellFormed line
      · obtain ⟨other, member, reads, isBad⟩ := notAllRead
        have inRest : other ∈ rest := by
          rcases List.mem_cons.mp member with rfl | later
          · exact absurd (lineReads reads) isBad
          · exact later
        obtain ⟨index, fault, isFirst⟩ := restHypothesis ⟨other, inRest, reads, isBad⟩
        exact ⟨index + 1, fault, isFirstFault_cons_succ_iff.mpr ⟨lineReads, isFirst⟩⟩
      · obtain ⟨reads, isBad⟩ := Classical.not_imp.mp lineReads
        obtain ⟨fault, isFaulty⟩ := exists_fault_of_not_wellFormed isBad
        exact ⟨0, fault, isFirstFault_cons_zero_iff.mpr ⟨reads, isFaulty⟩⟩

end FirstFault

/-! ## Sections -/

/-- A section whose lines can all be read has the fields of its lines. -/
theorem fieldsOfLines_of_wellFormed
    {lines : List Text}
    (wellFormed : ∀ line ∈ lines, IsWellFormed line)
    (source : Text)
    (number : Int) :
    fieldsOfLines source number lines = .ok (declaredFields lines) := by
  induction lines generalizing number with
  | nil => rfl
  | cons line rest restHypothesis =>
      obtain ⟨declared, reads⟩ := wellFormed line (List.mem_cons_self ..)
      have restReads := restHypothesis
        (fun other member => wellFormed other (List.mem_cons_of_mem _ member)) (number + 1)
      have first : declaredField? line = declared := by simp [declaredField?, reads]
      rw [fieldsOfLines, reads, declaredFields, List.filterMap_cons, first]
      cases declared <;> simp [restReads, declaredFields]

/-- A section is refused at its first line that cannot be read. -/
theorem fieldsOfLines_of_firstFault
    {lines : List Text}
    {index : Nat}
    {fault : Fault}
    (isFirst : IsFirstFault (fun _ => true) lines index fault)
    (source : Text)
    (number : Int) :
    fieldsOfLines source number lines = .error ⟨source, some (number + index), fault⟩ := by
  induction lines generalizing index number with
  | nil =>
      obtain ⟨line, found, _⟩ := isFirst.found
      simp at found
  | cons line rest restHypothesis =>
      cases index with
      | zero =>
          obtain ⟨_, isFaulty⟩ := isFirstFault_cons_zero_iff.mp isFirst
          simp [fieldsOfLines, isFaulty]
      | succ place =>
          obtain ⟨lineReads, isFirstOfRest⟩ := isFirstFault_cons_succ_iff.mp isFirst
          obtain ⟨declared, reads⟩ := lineReads rfl
          have sameLine : number + 1 + (place : Int) = number + ((place + 1 : Nat) : Int) := by
            omega
          rw [fieldsOfLines, reads]
          simp only [restHypothesis isFirstOfRest, sameLine]

/-- An empty line at the end of a section adds nothing to it. -/
theorem fieldsOfLines_concat_empty (source : Text) (number : Int) (lines : List Text) :
    fieldsOfLines source number (lines ++ [[]]) = fieldsOfLines source number lines := by
  induction lines generalizing number with
  | nil => rfl
  | cons line rest restHypothesis =>
      rw [List.cons_append, fieldsOfLines, fieldsOfLines]
      simp only [restHypothesis]

/-- Lines are read alike after they were joined: only an empty last line can get lost. -/
theorem readFields_join
    {lines : List Text}
    (unbroken : ∀ line ∈ lines, Text.IsUnbroken line)
    (source : Text)
    (firstLine : Int) :
    readFields (Text.join ['\n'] lines) source firstLine =
      fieldsOfLines source firstLine lines := by
  rw [readFields]
  rcases Text.lines_join unbroken with same | lost
  · rw [same]
  · rw [← fieldsOfLines_concat_empty, lost]

end Interface
end SkillNode
