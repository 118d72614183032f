import Mathlib.Control.Monad.Basic
import SkillNode.Proofs.Template.HeldTemplates
import SkillNode.Proofs.Template.ReadNodes
import SkillNode.Proofs.Template.SoundAnswers

/-!
# Free names

A template is refused before its expansion if one of its free names has no value. Otherwise the
expansion asks for no name without a value, and what it may miss is a part or an item.

The main statement says both of a template in a folder.
-/

namespace SkillNode
namespace Template

/-! ## Names that are lacking -/

theorem least?_eq_none_iff {names : List Text} : least? names = none ↔ names = [] := by
  cases names with
  | nil => simp [least?]
  | cons name rest =>
      rw [least?]
      cases least? rest <;> simp

/-- The least of some names is one of them, and none of them is less. -/
theorem least?_eq_some
    {names : List Text}
    {least : Text}
    (isLeast : least? names = some least) :
    least ∈ names ∧ ∀ other ∈ names, ¬ other < least := by
  induction names generalizing least with
  | nil => cases isLeast
  | cons name rest restHypothesis =>
      rw [least?] at isLeast
      split at isLeast
      · next other isOther =>
          obtain ⟨otherMember, otherLeast⟩ := restHypothesis isOther
          split at isLeast
          · next less =>
              obtain rfl := Option.some.inj isLeast
              refine ⟨List.mem_cons_of_mem _ otherMember, List.forall_mem_cons.mpr ?_⟩
              exact ⟨List.lt_asymm less, otherLeast⟩
          · next notLess =>
              obtain rfl := Option.some.inj isLeast
              refine ⟨List.mem_cons_self .., List.forall_mem_cons.mpr ⟨List.lt_irrefl _, ?_⟩⟩
              intro later isLater laterLess
              have isBelow := List.le_trans (List.not_lt.mp notLess)
                (List.not_lt.mp (otherLeast later isLater))
              exact List.not_lt.mpr isBelow laterLess
      · next isLast =>
          obtain rfl := Option.some.inj isLeast
          obtain rfl := least?_eq_none_iff.mp isLast
          exact ⟨List.mem_singleton_self _, List.forall_mem_singleton.mpr (List.lt_irrefl _)⟩

/-- The names that nodes look up, do not bind and find no value for. -/
def IsLacking (nodes : List Node) (context : Context) (name : Text) : Prop :=
  name ∈ freeNamesOf nodes ∧ Value.entry? context name = none

theorem mem_lacking_iff
    {nodes : List Node}
    {context : Context}
    (usesNoBuiltin : ∀ name ∈ freeNamesOf nodes, name ∉ builtinNames)
    {name : Text} :
    name ∈ (freeNamesOf nodes).filter (fun name =>
        !(builtinNames.contains name) && (Value.entry? context name).isNone) ↔
      IsLacking nodes context name := by
  rw [List.mem_filter, IsLacking]
  constructor
  · rintro ⟨isFree, lacks⟩
    exact ⟨isFree, Option.isNone_iff_eq_none.mp (Bool.and_eq_true_iff.mp lacks).2⟩
  · rintro ⟨isFree, lacks⟩
    exact ⟨isFree, by simp [usesNoBuiltin name isFree, lacks]⟩

section MissingName

variable {nodes : List Node} {context : Context}
  (usesNoBuiltin : ∀ name ∈ freeNamesOf nodes, name ∉ builtinNames)

include usesNoBuiltin

theorem missingName?_eq_none_iff :
    missingName? nodes context = none ↔ ∀ name, ¬ IsLacking nodes context name := by
  rw [missingName?, least?_eq_none_iff, List.eq_nil_iff_forall_not_mem]
  exact forall_congr' fun name => not_congr (mem_lacking_iff usesNoBuiltin)

/-- The name that is reported is the least of those that are lacking. -/
theorem missingName?_of_isLacking
    {name : Text}
    (isLacking : IsLacking nodes context name) :
    ∃ least, missingName? nodes context = some least ∧ IsLacking nodes context least ∧
      ∀ other, IsLacking nodes context other → ¬ other < least := by
  cases reported : missingName? nodes context with
  | none => exact absurd isLacking ((missingName?_eq_none_iff usesNoBuiltin).mp reported name)
  | some least =>
      obtain ⟨isMember, isLeast⟩ := least?_eq_some reported
      refine ⟨least, rfl, (mem_lacking_iff usesNoBuiltin).mp isMember, ?_⟩
      intro other otherIsLacking
      exact isLeast other ((mem_lacking_iff usesNoBuiltin).mpr otherIsLacking)

end MissingName

/-! ## Names that are given -/

/-- Answers that tell the values that a context gives. Whatever they say of other names is left
open. -/
def Answers.Fit (answers : Answers) (context : Context) : Prop :=
  ∀ name value, Value.entry? context name = some value → answers name = .ok (.value value)

/-- The values that a context gives, and for any other name a fault that does not blame it. -/
def Answers.refusing (context : Context) : Answers := fun name =>
  (Value.entry? context name).elim (.error .wrongKind) fun value => .ok (.value value)

section Given

variable {nodes : List Node} {context : Context}
  (given : ∀ name ∈ freeNamesOf nodes, (Value.entry? context name).isSome = true)

include given

/-- Where every free name is given a value, no other name is asked for: whatever were answered,
the expansion is the same. -/
theorem expandAllWith_of_fit
    {answers : Answers}
    (fit : answers.Fit context)
    (escaping : Escaping) :
    expandAllWith escaping answers nodes = expandAll escaping context nodes := by
  rw [← expandAllWith_ofScope]
  apply expandAllWith_congr
  intro name isFree
  obtain ⟨value, isGiven⟩ := Option.isSome_iff_exists.mp (given name isFree)
  rw [fit name value isGiven, Answers.ofScope, isGiven, Outcome.ofOption]

/-- Where every free name is given a value, no fault blames a name. -/
theorem expandAll_sparesNames
    (areData : ∀ entry ∈ context, entry.2.isData = true)
    (escaping : Escaping) :
    SparesNames (expandAll escaping context nodes) := by
  have fit : (Answers.refusing context).Fit context := by
    intro name value isGiven
    rw [Answers.refusing, isGiven, Option.elim]
  have areSound : (Answers.refusing context).AreSound := by
    intro name
    cases isGiven : Value.entry? context name with
    | none =>
        rw [Answers.refusing, isGiven, Option.elim]
        exact Eq.refl false
    | some value =>
        rw [Answers.refusing, isGiven, Option.elim]
        exact Value.IsSound.data (Value.isData_of_entry? areData isGiven)
  rw [← expandAllWith_of_fit given fit escaping]
  exact expandAllWith_spares escaping areSound nodes

end Given

/-! ## Templates of a folder -/

/-- Of a template that lacks no name, what is reported as unresolved is what its expansion
missed. -/
theorem exists_of_renderNodes_unresolved
    {escaping : Escaping}
    {source : Text}
    {nodes : List Node}
    {context : Context}
    (noneLacking : missingName? nodes context = none)
    {line? : Option Nat}
    {placeholder : Text}
    (fails : renderNodes escaping source nodes context = .error (.unresolved line? placeholder)) :
    ∃ line lacking, expandAll escaping context nodes = .error (.unresolved line lacking) ∧
      line? = some line ∧ placeholder = lacking.placeholder := by
  rw [renderNodes, noneLacking] at fails
  dsimp only at fails
  split at fails
  · cases fails
  · split at fails
    · cases fails
    · cases expanded : expandAll escaping context nodes with
      | ok output =>
          rw [expanded] at fails
          dsimp only at fails
          split at fails <;> cases fails
      | error fault =>
          rw [expanded] at fails
          cases fault with
          | unresolved line lacking =>
              cases fails
              exact ⟨line, lacking, rfl, rfl, rfl⟩
          | wrongKind | notText | unknownOperation | longNumber => cases fails

/-- A part or an item, not a name. -/
def Missing.IsPartOrItem : Missing → Prop
  | .name _ => False
  | .part _ | .item _ _ | .longItem => True

/-- A template is checked for its free names. If all of them are given values, the expansion asks
for no other name, whatever would be answered, and what is reported as unresolved is a part or an
item that was missing. If one is not given a value, the rendering fails, and what is reported is
the least name that is lacking. -/
theorem Folder.render_checksNames
    {folder : Folder}
    {name path source : Text}
    {nodes : List Node}
    {context : Context}
    (holds : folder.Holds name path source)
    (reads : readTemplate source = .ok nodes)
    (usesNoBuiltin : ∀ used ∈ freeNamesOf nodes, used ∉ builtinNames)
    (areData : ∀ entry ∈ context, entry.2.isData = true) :
    ((∀ used ∈ freeNamesOf nodes, (Value.entry? context used).isSome = true) →
      (∀ answers : Answers, answers.Fit context →
        expandAllWith (isMarkupName name) answers nodes =
          expandAll (isMarkupName name) context nodes) ∧
      ∀ line? placeholder,
        folder.render name context = .error ⟨path, .unresolved line? placeholder⟩ →
          ∃ line lacking, expandAll (isMarkupName name) context nodes =
              .error (.unresolved line lacking) ∧
            line? = some line ∧ placeholder = lacking.placeholder ∧ lacking.IsPartOrItem) ∧
    ((∃ used ∈ freeNamesOf nodes, Value.entry? context used = none) →
      ∃ least, IsLacking nodes context least ∧
        (∀ other, IsLacking nodes context other → ¬ other < least) ∧
        folder.render name context =
          .error ⟨path, .unresolved (lineOfName? source least) least⟩) := by
  constructor
  · intro given
    refine ⟨fun answers fit => expandAllWith_of_fit given fit _, ?_⟩
    intro line? placeholder fails
    have noneLacking : missingName? nodes context = none := by
      refine (missingName?_eq_none_iff usesNoBuiltin).mpr fun used isLacking => ?_
      have isGiven := given used isLacking.1
      rw [isLacking.2] at isGiven
      cases isGiven
    obtain ⟨line, lacking, expanded, isLine, isPlaceholder⟩ :=
      exists_of_renderNodes_unresolved noneLacking
        (Folder.renderNodes_of_render_eq_error holds reads fails)
    refine ⟨line, lacking, expanded, isLine, isPlaceholder, ?_⟩
    have spares := expandAll_sparesNames given areData (isMarkupName name)
    rw [expanded] at spares
    cases lacking with
    | name => cases spares
    | part | item | longItem => exact True.intro
  · rintro ⟨used, isLacking⟩
    obtain ⟨least, isReported, leastIsLacking, isLeast⟩ :=
      missingName?_of_isLacking usesNoBuiltin isLacking
    refine ⟨least, leastIsLacking, isLeast, ?_⟩
    rw [Folder.render_of_nodes holds reads, renderNodes, isReported]
    rfl

/-- A template with a name in the test of a part that only stands if a loop has no item. -/
def guardedTemplate : Text :=
  "{% for x in xs %}$x.y$\n{% else %}{% if z is defined %}$z$\n{% endif %}{% endfor %}"

/-- What the template is read as. -/
def guardedNodes : List Node :=
  [.loop 1 "x" (.name 1 "xs") none [.output (.field 1 (.name 1 "x") "y"), .text "\n"]
    [.branch 2 (.test 2 (.name 2 "z") "defined") [.output (.name 2 "z"), .text "\n"] []]]

/-- A context with a list of one record without parts. -/
def emptyRecord : Context := [("xs", .list [.record []])]

/-- The same with a value for the name in the test. -/
def testedRecord : Context := ("z", .int 1) :: emptyRecord

/-- A record without the part that is printed of it, first with a value for the name in the test
and then without one. -/
theorem render_checksNames_guarded :
    (∃ line lacking, expandAll false testedRecord guardedNodes =
        .error (.unresolved line lacking) ∧
      some 1 = some line ∧ ("y" : Text) = lacking.placeholder ∧ lacking.IsPartOrItem) ∧
    ∃ least, IsLacking guardedNodes emptyRecord least ∧
      (∀ other, IsLacking guardedNodes emptyRecord other → ¬ other < least) ∧
      (singleFolder "t" guardedTemplate).render "t" emptyRecord =
        .error ⟨"templates/t", .unresolved (lineOfName? guardedTemplate least) least⟩ := by
  have holds : (singleFolder "t" guardedTemplate).Holds "t" "templates/t" guardedTemplate := by
    refine ⟨["t"], guardedTemplate, ?_, ?_, ?_, ?_⟩ <;> decide +kernel
  have isRead : readTemplate guardedTemplate = .ok guardedNodes := eq_of_reads (by decide +kernel)
  have usesNoBuiltin : ∀ used ∈ freeNamesOf guardedNodes, used ∉ builtinNames := by decide +kernel
  constructor
  · have fails : (singleFolder "t" guardedTemplate).render "t" testedRecord =
        .error ⟨"templates/t", .unresolved (some 1) "y"⟩ := by
      decide +kernel
    have areData : ∀ entry ∈ testedRecord, entry.2.isData = true := by
      decide +kernel
    have checked := Folder.render_checksNames holds isRead usesNoBuiltin areData
    exact (checked.1 (by decide +kernel)).2 _ _ fails
  · have areData : ∀ entry ∈ emptyRecord, entry.2.isData = true := by decide +kernel
    have checked := Folder.render_checksNames holds isRead usesNoBuiltin areData
    exact checked.2 ⟨"z", by decide +kernel, by decide +kernel⟩

end Template
end SkillNode
