import SkillNode.Template.Evaluation

/-!
# Operations on values

What evaluation does to the values that it has found: it asks for parts and items, applies
filters and tests, compares, goes through the items of a value, and prints it. An operation fits
if it is one that exists and works on values of the kind that it meets, and if no number that it
prints has too many digits. Parts, items and comparisons work on every kind; a part of the state
of a loop may depend on the tests of later items, though, and fail as they do.

The main statements say for each operation that it ends in a misuse exactly if it does not fit.
-/

namespace SkillNode
namespace Template

/-! ## Misuse -/

/-- Whether a fault is not that something is missing. -/
def Fault.isMisuse : Fault → Bool
  | .unresolved _ _ => false
  | .wrongKind | .notText | .unknownOperation | .longNumber => true

section Misused

variable {Result Other : Type}

/-- The fault of an outcome is a misuse. -/
def IsMisused (outcome : Except Fault Result) : Prop :=
  ∃ fault, outcome = .error fault ∧ fault.isMisuse = true

@[simp] theorem not_isMisused_ok (result : Result) :
    ¬ IsMisused (.ok result : Except Fault Result) := by
  simp [IsMisused]

@[simp] theorem not_isMisused_pure (result : Result) :
    ¬ IsMisused (pure result : Except Fault Result) :=
  not_isMisused_ok result

@[simp] theorem isMisused_error_iff {fault : Fault} :
    IsMisused (.error fault : Except Fault Result) ↔ fault.isMisuse = true := by
  simp [IsMisused]

@[simp] theorem isMisused_throw_iff {fault : Fault} :
    IsMisused (throw fault : Except Fault Result) ↔ fault.isMisuse = true :=
  isMisused_error_iff

theorem isMisused_bind_iff
    {outcome : Except Fault Result}
    {next : Result → Except Fault Other} :
    IsMisused (outcome >>= next) ↔
      IsMisused outcome ∨ ∃ result, outcome = .ok result ∧ IsMisused (next result) := by
  cases outcome with
  | error fault => simp [bind, Except.bind]
  | ok result => simp [bind, Except.bind]

theorem isMisused_ite_iff
    {condition : Prop}
    [Decidable condition]
    {first second : Except Fault Result} :
    IsMisused (if condition then first else second) ↔
      condition ∧ IsMisused first ∨ ¬ condition ∧ IsMisused second := by
  by_cases holds : condition <;> simp [holds]

@[simp] theorem isMisused_map_iff
    {outcome : Except Fault Result}
    {change : Result → Other} :
    IsMisused (outcome.map change) ↔ IsMisused outcome := by
  cases outcome <;> simp [Except.map]

@[simp] theorem isMisused_functorMap_iff
    {outcome : Except Fault Result}
    {change : Result → Other} :
    IsMisused (change <$> outcome) ↔ IsMisused outcome :=
  isMisused_map_iff

end Misused

/-! ## Fitting operations -/

/-- Whether a value has items to go through: a list, a text or a record. -/
def Value.isCollection : Value → Bool
  | .list _ | .tuple _ | .text _ | .record _ | .view _ => true
  | .null | .bool _ | .int _ | .object .. | .symbol .. | .method .. | .loop .. => false

/-- Whether the items of a value can be printed one after the other. -/
def Value.canBeJoined (value : Value) : Bool := value.items?.any Value.arePrintable

/-- Whether an outcome can be used, be it that something is told to be missing: that cannot be done
at an index of too many digits. -/
def Outcome.canBeUsed : Outcome → Bool
  | .missing .longItem => false
  | _ => true

/-- Whether what a loop knows of later items can be told: no test of them is misused. -/
def canTell {Result : Type} : Except Fault Result → Bool
  | .ok _ => true
  | .error fault => !fault.isMisuse

/-- Whether a value can tell of a part, be it that it lacks the part. -/
def Value.canTellPart (value : Value) (part : Text) : Bool :=
  match value with
  | .loop _ isLast length =>
      if part = "last" then canTell isLast
      else if part = "length" ∨ part = "revindex" ∨ part = "revindex0" then canTell length
      else true
  | _ => true

/-- Whether a filter works on a value. -/
def Filter.fits : Filter → Value → Bool
  | .escapeCpp, .text _ => true
  | .escapeCpp, value => !value.truth
  | .upper, value | .lower, value => value.isPrintable
  | .length, .loop _ _ count => canTell count
  | .length, value => value.isCollection
  | .join, value => value.canBeJoined

/-- Whether a filter works on an outcome with an argument: it must be the one that takes an
argument. It looks at the argument before the outcome. -/
def Filter.fitsWith : Filter → Outcome → Outcome → Bool
  | .join, outcome, .value separator =>
      separator.isPrintable &&
        match outcome with
        | .value value => value.canBeJoined
        | missing => missing.canBeUsed
  | .join, _, missing => missing.canBeUsed
  | .escapeCpp, _, _ | .upper, _, _ | .lower, _, _ | .length, _, _ => false

/-- What evaluation does to outcomes that it has found. -/
inductive Operation
  /-- Ask a value for a named part. -/
  | part (value : Value) (name : Text)
  /-- Ask a value for the item at an index or under a name. -/
  | item (value index : Value)
  /-- Use an outcome as a value. -/
  | use (outcome : Outcome)
  | filter (name : Text) (outcome : Outcome)
  | filterWith (name : Text) (outcome argument : Outcome)
  | test (name : Text) (outcome : Outcome)
  | equal (left right : Outcome)
  /-- Go through the items of a value. -/
  | loop (value : Value)
  | print (value : Value)

/-- Whether an operation exists and works on what it meets. Something missing is not met: it is
reported before. -/
def Operation.fits : Operation → Bool
  | .part value name => value.canTellPart name
  | .item _ _ => true
  | .use outcome => outcome.canBeUsed
  | .filter name outcome =>
      match Filter.ofName? name, outcome with
      | none, _ => false
      | some _, .missing lacking => Outcome.canBeUsed (.missing lacking)
      | some known, .value value => known.fits value
  | .filterWith name outcome argument =>
      (Filter.ofName? name).any fun known => known.fitsWith outcome argument
  | .test name _ => name = definedTest
  | .equal left right => left.canBeUsed && (!left.isDefined || right.canBeUsed)
  | .loop value => value.isCollection
  | .print value => value.isPrintable

/-! ## Operations that do not fit -/

theorem canTell_eq_false_iff {Result : Type} {outcome : Except Fault Result} :
    canTell outcome = false ↔ IsMisused outcome := by
  cases outcome <;> simp [canTell]

theorem isMisused_use_iff {outcome : Outcome} (line : Nat) :
    IsMisused (outcome.use line) ↔ outcome.canBeUsed = false := by
  rcases outcome with value | (_ | _ | _ | _) <;>
    simp [Outcome.use, Outcome.canBeUsed, Missing.fault, Fault.isMisuse]

namespace Value

variable {value : Value}

@[simp] theorem isMisused_shown_iff : IsMisused value.shown ↔ value.isPrintable = false := by
  unfold shown
  cases value.isPrintable <;> simp [Fault.isMisuse]

theorem isMisused_print_iff {escaping : Escaping} :
    IsMisused (value.print escaping) ↔ value.isPrintable = false := by
  rw [print, isMisused_map_iff, isMisused_shown_iff]

theorem items?_eq_none_iff : value.items? = none ↔ value.isCollection = false := by
  cases value <;> simp [items?, isCollection]

theorem isMisused_field?_iff {part : Text} :
    IsMisused (value.field? part) ↔ value.canTellPart part = false := by
  cases value with
  | loop index isLast length =>
      simp only [field?, loopField?, canTellPart]
      by_cases asksLast : part = "last"
      · subst asksLast
        simp [canTell_eq_false_iff]
      by_cases asksLength : part = "length"
      · subst asksLength
        simp [canTell_eq_false_iff]
      by_cases asksRest : part = "revindex"
      · subst asksRest
        simp [canTell_eq_false_iff]
      by_cases asksRest0 : part = "revindex0"
      · subst asksRest0
        simp [canTell_eq_false_iff]
      simp only [asksLast, asksLength, asksRest, asksRest0, or_self, if_false]
      repeat' split
      all_goals simp
  | _ => simp [field?, canTellPart]

theorem isMisused_length_iff : IsMisused value.length ↔ Filter.length.fits value = false := by
  cases value <;>
    simp [length, items?, Filter.fits, isCollection, canTell_eq_false_iff, Fault.isMisuse]

theorem isMisused_joinWith_iff {separator : Text} :
    IsMisused (value.joinWith separator) ↔ value.canBeJoined = false := by
  unfold joinWith canBeJoined
  cases value.items? with
  | none => simp [Fault.isMisuse]
  | some items => cases printable : arePrintable items <;> simp [printable, Fault.isMisuse]

theorem isMisused_escapeCpp_iff :
    IsMisused value.escapeCpp ↔ Filter.escapeCpp.fits value = false := by
  cases value with
  | text content => cases content <;> simp [escapeCpp, truth, Filter.fits]
  | _ =>
      simp only [escapeCpp, Filter.fits]
      split
      · next isFalse => simp [isFalse]
      · next isTrue => simpa [Fault.isMisuse] using isTrue

end Value

namespace Filter

variable {known : Filter} {value : Value}

theorem isMisused_apply_iff : IsMisused (known.apply value) ↔ known.fits value = false := by
  cases known with
  | escapeCpp => rw [apply, isMisused_map_iff, Value.isMisused_escapeCpp_iff]
  | upper | lower => rw [apply, isMisused_map_iff, Value.isMisused_shown_iff, fits]
  | length => rw [apply, isMisused_map_iff, ← Value.isMisused_length_iff]; simp
  | join => rw [apply, isMisused_map_iff, Value.isMisused_joinWith_iff, fits]

theorem isMisused_applyWith_iff {line : Nat} {outcome argument : Outcome} :
    IsMisused (known.applyWith line outcome argument) ↔
      known.fitsWith outcome argument = false := by
  cases known with
  | join =>
      cases argument with
      | missing lacking =>
          have fails : IsMisused (Filter.join.applyWith line outcome (.missing lacking)) ↔
              IsMisused (Outcome.use line (.missing lacking)) := by
            simp [applyWith, isMisused_bind_iff, Outcome.use]
          rw [fails, isMisused_use_iff, fitsWith]
          exact nofun
      | value separator =>
          cases printable : separator.isPrintable with
          | false =>
              simp [applyWith, isMisused_bind_iff, fitsWith, Outcome.use, Value.shown, printable,
                Fault.isMisuse]
          | true =>
              cases outcome with
              | missing lacking =>
                  have fails : IsMisused
                      (Filter.join.applyWith line (.missing lacking) (.value separator)) ↔
                        IsMisused (Outcome.use line (.missing lacking)) := by
                    simp [applyWith, isMisused_bind_iff, Outcome.use, Value.shown, printable]
                  rw [fails, isMisused_use_iff]
                  simp [fitsWith, printable]
              | value value =>
                  simp [applyWith, isMisused_bind_iff, fitsWith, Outcome.use, Value.shown,
                    printable, Value.isMisused_joinWith_iff]
  | escapeCpp | upper | lower | length => simp [applyWith, fitsWith, Fault.isMisuse]

end Filter

end Template
end SkillNode
