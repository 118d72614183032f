import SkillNode.Proofs.Template.OpenExpansion

/-!
# Data in templates

The values that a context gives to names are data: no state of a loop is among them or in their
parts. What evaluation makes of data is data again, or the state of a loop around. A state may
hold back a fault until it is asked for; it is sound if that fault blames no name.

The main statements say that parts, items and filtered values of sound values are sound, and that
looking for them blames no name.
-/

namespace SkillNode
namespace Template

/-! ## Data -/

namespace Value

mutual

/-- Whether no state of a loop is in a value. -/
def isData : Value → Bool
  | .null | .bool _ | .int _ | .text _ => true
  | .list items | .tuple items => areData items
  | .record entries | .view entries => entriesAreData entries
  | .object _ fields derived => entriesAreData fields && entriesAreData derived
  | .symbol _ _ _ derived => entriesAreData derived
  | .method owner _ => owner.isData
  | .loop .. => false

/-- Whether no state of a loop is in items. -/
def areData : List Value → Bool
  | [] => true
  | item :: rest => item.isData && areData rest

/-- Whether no state of a loop is in the values of entries. -/
def entriesAreData : List (Text × Value) → Bool
  | [] => true
  | (_, value) :: rest => value.isData && entriesAreData rest

end

theorem areData_iff {items : List Value} :
    areData items = true ↔ ∀ item ∈ items, item.isData = true := by
  induction items with
  | nil => simp [areData]
  | cons item rest restHypothesis => simp [areData, restHypothesis]

theorem entriesAreData_iff {entries : List (Text × Value)} :
    entriesAreData entries = true ↔ ∀ entry ∈ entries, entry.2.isData = true := by
  induction entries with
  | nil => simp [entriesAreData]
  | cons entry rest restHypothesis => simp [entriesAreData, restHypothesis]

/-- The value of a name among data is data. -/
theorem isData_of_entry?
    {entries : List (Text × Value)}
    {name : Text}
    {found : Value}
    (areData : ∀ entry ∈ entries, entry.2.isData = true)
    (isFound : entry? entries name = some found) :
    found.isData = true := by
  obtain ⟨entry, isEntry, rfl⟩ := Option.map_eq_some_iff.mp isFound
  exact areData entry (List.mem_of_find?_eq_some isEntry)

/-- An item of data is data. -/
theorem isData_of_itemAt?
    {items : List Value}
    {index : Int}
    {found : Value}
    (areData : ∀ item ∈ items, item.isData = true)
    (isFound : itemAt? items index = some found) :
    found.isData = true := by
  simp only [itemAt?] at isFound
  generalize (if index < 0 then index + items.length else index) = place at isFound
  split at isFound
  · cases isFound
  · exact areData found (List.mem_of_getElem? isFound)

/-- The named parts of data are data. -/
theorem isData_parts
    {member value : Text}
    {derived : List (Text × Value)}
    (areData : ∀ entry ∈ derived, entry.2.isData = true) :
    ∀ entry ∈ parts member value derived, entry.2.isData = true := by
  intro entry isPart
  rcases List.mem_cons.mp isPart with rfl | isOther
  · rfl
  · rcases List.mem_cons.mp isOther with rfl | isDerived
    · rfl
    · exact areData entry isDerived

/-- What the type of data gives under a name is data. -/
theorem isData_of_member?
    {value found : Value}
    {name : Text}
    (isData : value.isData = true)
    (isFound : value.member? name = some found) :
    found.isData = true := by
  unfold member? at isFound
  split at isFound
  · obtain rfl := Option.some.inj isFound
    exact isData
  · obtain ⟨number, _, isPart⟩ := Option.bind_eq_some_iff.mp isFound
    unfold numberPart? at isPart
    repeat' split at isPart
    all_goals cases isPart <;> rfl

/-- So are members and entries of a record together, whichever of them come first. -/
theorem isData_of_or
    {first? second? : Option Value}
    {found : Value}
    (firstIsData : ∀ found, first? = some found → found.isData = true)
    (secondIsData : ∀ found, second? = some found → found.isData = true)
    (isFound : first?.or second? = some found) :
    found.isData = true := by
  rcases Option.or_eq_some_iff.mp isFound with isFirst | ⟨-, isSecond⟩
  · exact firstIsData found isFirst
  · exact secondIsData found isSecond

/-- What a loop over a value goes through is data. -/
theorem isData_of_items?
    {value : Value}
    {items : List Value}
    (isData : value.isData = true)
    (areItems : value.items? = some items) :
    ∀ item ∈ items, item.isData = true := by
  unfold items? at areItems
  split at areItems
  case h_1 | h_2 =>
      obtain rfl := Option.some.inj areItems
      exact areData_iff.mp isData
  case h_3 | h_4 | h_5 =>
      obtain rfl := Option.some.inj areItems
      intro item member
      obtain ⟨_, _, rfl⟩ := List.mem_map.mp member
      rfl
  case h_6 => cases areItems

/-- An item of data at an index or under a name is data. -/
theorem isData_of_item?
    {value index found : Value}
    (isData : value.isData = true)
    (isFound : value.item? index = some found) :
    found.isData = true := by
  unfold item? at isFound
  split at isFound
  case h_1 | h_2 =>
      exact isData_of_or (fun _ => isData_of_entry? (entriesAreData_iff.mp isData))
        (fun _ => isData_of_member? isData) isFound
  case h_3 =>
      rw [Value.isData, Bool.and_eq_true, entriesAreData_iff, entriesAreData_iff] at isData
      exact isData_of_entry? (List.forall_mem_append.mpr isData) isFound
  case h_4 => exact isData_of_entry? (isData_parts (entriesAreData_iff.mp isData)) isFound
  case h_5 => exact isData_of_member? isData isFound
  case h_6 | h_7 =>
      obtain ⟨place, _, isAt⟩ := Option.bind_eq_some_iff.mp isFound
      exact isData_of_itemAt? (areData_iff.mp isData) isAt
  case h_8 =>
      obtain ⟨c, _, rfl⟩ := Option.map_eq_some_iff.mp isFound
      rfl
  case h_9 => cases isFound

end Value

/-! ## Faults that blame no name -/

/-- Whether a fault is that a name is missing. -/
def Fault.blamesName : Fault → Bool
  | .unresolved _ (.name _) => true
  | _ => false

section Spares

variable {Result Other : Type} {holds : Result → Prop} {others : Other → Prop}
  {outcome : Except Fault Result}

/-- A result is as it should be if there is one, and a fault blames no name. -/
def Spares (holds : Result → Prop) : Except Fault Result → Prop
  | .ok result => holds result
  | .error fault => fault.blamesName = false

theorem Spares.bind
    {next : Result → Except Fault Other}
    (spares : Spares holds outcome)
    (goesOn : ∀ result, holds result → Spares others (next result)) :
    Spares others (outcome >>= next) := by
  cases outcome with
  | error fault => exact spares
  | ok result => exact goesOn result spares

theorem Spares.map
    {change : Result → Other}
    (spares : Spares holds outcome)
    (keeps : ∀ result, holds result → others (change result)) :
    Spares others (outcome.map change) := by
  cases outcome with
  | error fault => exact spares
  | ok result => exact keeps result spares

theorem Spares.mono
    {weaker : Result → Prop}
    (spares : Spares holds outcome)
    (follows : ∀ result, holds result → weaker result) :
    Spares weaker outcome := by
  cases outcome with
  | error fault => exact spares
  | ok result => exact follows result spares

end Spares

/-- A result may be anything, and a fault blames no name. -/
abbrev SparesNames {Result : Type} (outcome : Except Fault Result) : Prop :=
  Spares (fun _ => True) outcome

/-- A count may be taken for an integer. -/
theorem Spares.asInt {count : Except Fault Nat} (spares : SparesNames count) :
    SparesNames (do return ((← count) : Int)) :=
  spares.bind fun _ _ => True.intro

/-! ## Sound values -/

/-- Data, or the state of a loop whose held back faults blame no name. -/
inductive Value.IsSound : Value → Prop
  | data {value : Value} : value.isData = true → IsSound value
  | state {index : Nat} {isLast : Except Fault Bool} {length : Except Fault Nat} :
      SparesNames isLast → SparesNames length → IsSound (.loop index isLast length)

/-- A sound value, or a part or an item that is missing. -/
def Outcome.IsSound : Outcome → Prop
  | .value found => found.IsSound
  | .missing lacking => ∀ name, lacking ≠ .name name

theorem Outcome.IsSound.use {outcome : Outcome} (isSound : outcome.IsSound) (line : Nat) :
    Spares Value.IsSound (outcome.use line) := by
  cases outcome with
  | value value => exact isSound
  | missing lacking =>
      cases lacking with
      | name name => exact absurd rfl (isSound name)
      | part | item | longItem => exact Eq.refl false

/-- A missing item is no name. -/
theorem Value.missingItem_ne_name (value index : Value) (name : Text) :
    value.missingItem index ≠ .name name := by
  unfold missingItem
  split
  · exact nofun
  · split <;> exact nofun

/-- What is looked for and found is sound; what is missed is no name. -/
theorem Outcome.isSound_ofOption
    {lacking : Missing}
    {found? : Option Value}
    (isOther : ∀ name, lacking ≠ .name name)
    (areSound : ∀ found, found? = some found → found.IsSound) :
    (Outcome.ofOption lacking found?).IsSound := by
  cases found? with
  | none => exact isOther
  | some found => exact areSound found rfl

/-- Every part of the state of a loop is data, if it can be told. -/
theorem loopField?_spares
    {isLast : Except Fault Bool}
    {length : Except Fault Nat}
    (lastSpares : SparesNames isLast)
    (lengthSpares : SparesNames length)
    {index : Nat}
    (part : Text) :
    Spares (fun found? => ∀ found, found? = some found → found.IsSound)
      (loopField? index isLast length part) := by
  have isPlain : ∀ plain : Value, plain.isData = true →
      ∀ found, some plain = some found → found.IsSound := by
    rintro plain isData _ ⟨⟩
    exact .data isData
  have lengthPart : ∀ change : Int → Int,
      Spares (fun found? => ∀ found, found? = some found → Value.IsSound found)
        ((do return ((← length) : Int)).map fun count => some (.int (change count))) := by
    intro change
    exact lengthSpares.asInt.map fun count _ => isPlain (.int (change count)) rfl
  unfold loopField?
  split
  · exact isPlain _ rfl
  split
  · exact isPlain _ rfl
  split
  · exact isPlain _ rfl
  split
  · exact lastSpares.map fun value _ => isPlain (.bool value) rfl
  split
  · exact lengthPart id
  split
  · exact lengthPart (· - index)
  split
  · exact lengthPart (· - index - 1)
  split
  · exact isPlain _ rfl
  split
  · exact isPlain _ rfl
  · intro found isFound
    cases isFound

theorem Value.shown_spares (value : Value) : SparesNames value.shown := by
  unfold shown
  split
  · exact True.intro
  · exact Eq.refl false

theorem Value.joinWith_spares (value : Value) (separator : Text) :
    SparesNames (value.joinWith separator) := by
  unfold joinWith
  split
  · split
    · exact True.intro
    · exact Eq.refl false
  · exact Eq.refl false

theorem Value.escapeCpp_spares (value : Value) : SparesNames value.escapeCpp := by
  unfold escapeCpp
  split
  · exact True.intro
  · split
    · exact True.intro
    · exact Eq.refl false

/-- What a filter makes of sound outcomes is data. -/
theorem Filter.applyWith_spares
    (filter : Filter)
    (line : Nat)
    {outcome argument : Outcome}
    (isSound : outcome.IsSound)
    (argumentIsSound : argument.IsSound) :
    Spares Value.IsSound (filter.applyWith line outcome argument) := by
  cases filter with
  | join =>
      rw [applyWith]
      refine (argumentIsSound.use line).bind fun given _ => ?_
      refine given.shown_spares.bind fun separator _ => ?_
      refine (isSound.use line).bind fun value _ => ?_
      exact (value.joinWith_spares separator).bind fun _ _ => .data rfl
  | escapeCpp | upper | lower | length => exact Eq.refl false

namespace Value.IsSound

variable {value : Value} (isSound : value.IsSound)

include isSound

theorem isData_of_items?
    {items : List Value}
    (areItems : value.items? = some items) :
    ∀ item ∈ items, item.isData = true := by
  cases isSound with
  | data isData => exact Value.isData_of_items? isData areItems
  | state => cases areItems

theorem item?
    {index found : Value}
    (isFound : value.item? index = some found) :
    found.IsSound := by
  cases isSound with
  | data isData => exact .data (Value.isData_of_item? isData isFound)
  | state =>
      cases index <;> exact absurd isFound (by simp [Value.item?, member?, methodNames, index?])

/-- The named parts of a sound value are sound. -/
theorem field? (part : Text) :
    Spares (fun found? => ∀ found, found? = some found → found.IsSound) (value.field? part) := by
  cases isSound with
  | data isData =>
      cases value with
      | record entries | view entries =>
          intro found isFound
          exact .data (Value.isData_of_or (fun _ => Value.isData_of_member? isData)
            (fun _ => Value.isData_of_entry? (entriesAreData_iff.mp isData)) isFound)
      | object typeName fields derived =>
          rw [Value.isData, Bool.and_eq_true, entriesAreData_iff, entriesAreData_iff] at isData
          intro found isFound
          exact .data (Value.isData_of_entry? (List.forall_mem_append.mpr isData) isFound)
      | symbol typeName member value derived =>
          intro found isFound
          exact .data (Value.isData_of_entry?
            (Value.isData_parts (entriesAreData_iff.mp isData)) isFound)
      | loop => cases isData
      | null | bool | int | text | list | tuple | method =>
          intro found isFound
          exact .data (Value.isData_of_member? isData isFound)
  | state lastSpares lengthSpares => exact loopField?_spares lastSpares lengthSpares part

theorem length : SparesNames value.length := by
  cases isSound with
  | state _ lengthSpares => exact lengthSpares
  | data isData =>
      cases value with
      | loop => cases isData
      | _ => first | exact True.intro | exact Eq.refl false

/-- What a filter makes of a sound value is data. -/
theorem apply (filter : Filter) : Spares Value.IsSound (filter.apply value) := by
  cases filter with
  | escapeCpp => exact value.escapeCpp_spares.map fun _ _ => .data rfl
  | upper | lower => exact value.shown_spares.map fun _ _ => .data rfl
  | length => exact isSound.length.asInt.map fun _ _ => .data rfl
  | join => exact (value.joinWith_spares []).map fun _ _ => .data rfl

end Value.IsSound

end Template
end SkillNode
