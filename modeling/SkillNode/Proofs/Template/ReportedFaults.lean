import SkillNode.Proofs.Template.HeldTemplates
import SkillNode.Proofs.Template.PerformedOperations
import SkillNode.Proofs.Template.ReadNodes

/-!
# Faults that are reported

A rendering that fails is meant to report where and why. It does so for what is missing, what
cannot be read and what is left over. It does not for an operation that does not fit the value
that it meets, nor for an obstacle that keeps a template from being made ready: these faults are
passed on as they are.

The main statement says exactly when every fault of a rendering is reported, and a loop over a
number shows that not every one is.
-/

namespace SkillNode
namespace Template

/-- Whether a fault is reported with the template and the line that it concerns. -/
def RenderFault.isReported : RenderFault → Bool
  | .notFound _ | .malformed _ | .unresolved _ _ | .markerLeft _ _ _ => true
  | .undecodable _ | .wrongKind | .notText | .unknownOperation | .longNumber | .obstructed _
  | .reservedName | .leftOut _ => false

theorem isReported_ofFault (fault : Fault) :
    (RenderFault.ofFault fault).isReported = !fault.isMisuse := by
  cases fault <;> rfl

/-- Every fault of an outcome is reported. -/
def ReportsFaults {Result : Type} (outcome : Except RenderFault Result) : Prop :=
  ∀ fault, outcome = .error fault → fault.isReported = true

section ReportsFaults

variable {Result : Type}

@[simp] theorem reportsFaults_ok (result : Result) :
    ReportsFaults (.ok result : Except RenderFault Result) := by
  simp [ReportsFaults]

@[simp] theorem reportsFaults_error_iff {fault : RenderFault} :
    ReportsFaults (.error fault : Except RenderFault Result) ↔ fault.isReported = true := by
  simp [ReportsFaults]

end ReportsFaults

/-- Nothing that the expansion of nodes does is unfit, and the context leaves the name of the
template alone. -/
structure IsFitting (escaping : Escaping) (nodes : List Node) (context : Context) : Prop where
  operationsFit : ∀ operation, NodesPerform escaping context operation nodes →
    operation.fits = true
  selfIsFree : Value.entry? context selfName = none

theorem not_isMisused_expandAll_iff
    {escaping : Escaping}
    {nodes : List Node}
    {context : Context} :
    ¬ IsMisused (expandAll escaping context nodes) ↔
      ∀ operation, NodesPerform escaping context operation nodes → operation.fits = true := by
  rw [isMisused_expandAll_iff, SomeMisfit]
  simp

/-- A template that lacks no name reports every fault exactly if what it does fits. -/
theorem reportsFaults_renderNodes_iff
    {escaping : Escaping}
    {source : Text}
    {nodes : List Node}
    {context : Context}
    (noneLeftOut : leftOutName? nodes context = none) :
    ReportsFaults (renderNodes escaping source nodes context) ↔
      (missingName? nodes context = none → IsFitting escaping nodes context) := by
  rw [renderNodes]
  cases missingName? nodes context with
  | some name => simp [RenderFault.isReported]
  | none =>
      cases selfValue : Value.entry? context selfName with
      | some value =>
          have taken : ¬ IsFitting escaping nodes context := by
            rintro ⟨_, selfIsFree⟩
            rw [selfValue] at selfIsFree
            cases selfIsFree
          simp [RenderFault.isReported, taken]
      | none =>
          have fitting : IsFitting escaping nodes context ↔
              ¬ IsMisused (expandAll escaping context nodes) := by
            rw [not_isMisused_expandAll_iff]
            exact ⟨IsFitting.operationsFit, fun operationsFit => ⟨operationsFit, selfValue⟩⟩
          rw [fitting, noneLeftOut]
          cases expandAll escaping context nodes with
          | error fault => simp [isReported_ofFault]
          | ok output =>
              cases marked : firstMarker? 1 output <;> simp [marked, RenderFault.isReported]

/-- A template held in memory reports every fault exactly if it meets no obstacle and, where it
can be read and lacks no name, what it does fits. -/
theorem reportsFaults_renderText_iff
    {escaping : Escaping}
    {source : Text}
    {context : Context}
    (noneLeftOut : ∀ nodes, readTemplate source = .ok nodes → leftOutName? nodes context = none) :
    ReportsFaults (renderText escaping source context) ↔
      (∀ obstacle, readTemplate source ≠ .error (.obstructed obstacle)) ∧
        ∀ nodes, readTemplate source = .ok nodes → missingName? nodes context = none →
          IsFitting escaping nodes context := by
  unfold renderText
  cases reads : readTemplate source with
  | error fault => cases fault <;> simp [RenderFault.ofReadFault, RenderFault.isReported]
  | ok nodes => simp [reportsFaults_renderNodes_iff (noneLeftOut nodes reads)]

/-- What is rendered from a folder reports every fault exactly if it is a text that does, or is
not there. -/
theorem Folder.forall_isReported_iff {folder : Folder} {name : Text} {context : Context} :
    (∀ error, folder.render name context = .error error → error.fault.isReported = true) ↔
      (∀ parts fault, nameParts? name = some parts →
        folder.content? parts ≠ some (.error fault)) ∧
      ∀ path source, folder.Holds name path source →
        ReportsFaults (renderText (isMarkupName name) source context) := by
  constructor
  · intro reported
    refine ⟨fun parts fault isName isUndecodable => ?_, fun path source holds fault fails => ?_⟩
    · have failure : folder.render name context =
          .error ⟨folder.pathOf parts, .undecodable fault⟩ := by
        rw [Folder.render, isName]
        simp [isUndecodable]
      cases reported _ failure
    · exact reported _ ((Folder.render_eq_error_iff holds).mpr ⟨fault, fails, rfl⟩)
  · rintro ⟨isText, textReports⟩
    cases isName : nameParts? name with
    | none => simp [Folder.render, isName, RenderFault.isReported]
    | some parts =>
        cases isContent : folder.content? parts with
        | none => simp [Folder.render, isName, isContent, RenderFault.isReported]
        | some content =>
            cases content with
            | error fault => exact absurd isContent (isText parts fault isName)
            | ok text =>
                intro error fails
                have holds : folder.Holds name (folder.pathOf parts) (Text.withLineFeeds text) :=
                  ⟨parts, text, isName, isContent, rfl, rfl⟩
                obtain ⟨fault, textFails, rfl⟩ := (Folder.render_eq_error_iff holds).mp fails
                exact textReports _ _ holds fault textFails

/-- A context gives a value to each name that every template may use, if the template of a name
looks it up. -/
def Folder.IsGivenBuiltins (folder : Folder) (name : Text) (context : Context) : Prop :=
  ∀ path source nodes, folder.Holds name path source → readTemplate source = .ok nodes →
    ∀ used ∈ freeNamesOf nodes, used ∈ builtinNames → used ∈ context.map Prod.fst

/-- Every fault of a rendering is reported exactly if the template is a text, meets no obstacle
and, where it can be read and lacks no name, nothing that its expansion does is unfit: no loop
goes over a value without items, no filter meets a value of a kind that it does not work on, no
number of too many digits is printed, nothing is done that does not exist, and no value is given
to the name of the template. -/
theorem Folder.render_reportsFaults_iff
    {folder : Folder}
    {name : Text}
    {context : Context}
    (isGiven : folder.IsGivenBuiltins name context) :
    (∀ error, folder.render name context = .error error → error.fault.isReported = true) ↔
      (∀ parts fault, nameParts? name = some parts →
        folder.content? parts ≠ some (.error fault)) ∧
      (∀ path source obstacle, folder.Holds name path source →
        readTemplate source ≠ .error (.obstructed obstacle)) ∧
      ∀ path source nodes, folder.Holds name path source → readTemplate source = .ok nodes →
        missingName? nodes context = none → IsFitting (isMarkupName name) nodes context := by
  have noneLeftOut {path source : Text} (holds : folder.Holds name path source) :
      ∀ nodes, readTemplate source = .ok nodes → leftOutName? nodes context = none :=
    fun nodes reads => leftOutName?_eq_none (isGiven path source nodes holds reads)
  rw [Folder.forall_isReported_iff]
  refine and_congr_right fun _ => ⟨fun reports => ?_, fun ⟨isClear, fits⟩ path source holds => ?_⟩
  · have clear_and_fits {path source : Text} (holds : folder.Holds name path source) :=
      (reportsFaults_renderText_iff (noneLeftOut holds)).mp (reports path source holds)
    exact ⟨fun path source obstacle holds => (clear_and_fits holds).1 obstacle,
      fun path source nodes holds => (clear_and_fits holds).2 nodes⟩
  · exact (reportsFaults_renderText_iff (noneLeftOut holds)).mpr
      ⟨fun obstacle => isClear _ _ obstacle holds, fun nodes => fits _ _ nodes holds⟩

/-- A template with a loop. -/
def loopTemplate : Text := "{% for x in n %}$x${% endfor %}"

/-- What the template is read as. -/
def loopNodes : List Node :=
  [.loop 1 "x" (.name 1 "n") none [.output (.name 1 "x")] []]

theorem readTemplate_loopTemplate : readTemplate loopTemplate = .ok loopNodes :=
  eq_of_reads (by decide +kernel)

/-- What a folder with the loop holds. -/
theorem eq_of_holds_loop
    {path source : Text}
    (holds : (singleFolder "t.txt" loopTemplate).Holds "t.txt" path source) :
    source = loopTemplate := by
  obtain ⟨parts, content, isName, isContent, -, rfl⟩ := holds
  have isOne : nameParts? "t.txt" = some [("t.txt" : Text)] := by decide +kernel
  obtain rfl := Option.some.inj (isOne.symm.trans isName)
  have held : (singleFolder "t.txt" loopTemplate).content? ["t.txt"] =
      some (.ok loopTemplate) := by
    decide +kernel
  obtain rfl := Except.ok.inj (Option.some.inj (held.symm.trans isContent))
  decide +kernel

/-- A loop over a list of numbers fits. -/
theorem render_reportsFaults_numbers :
    (singleFolder "t.txt" loopTemplate).IsGivenBuiltins "t.txt" [("n", .list [.int 5])] ∧
      (singleFolder "t.txt" loopTemplate).render "t.txt" [("n", .list [.int 5])] = .ok "5" ∧
        IsFitting false loopNodes [("n", .list [.int 5])] := by
  have isGiven :
      (singleFolder "t.txt" loopTemplate).IsGivenBuiltins "t.txt" [("n", .list [.int 5])] := by
    intro path source nodes holds reads
    obtain rfl := eq_of_holds_loop holds
    obtain rfl := Except.ok.inj (readTemplate_loopTemplate.symm.trans reads)
    decide +kernel
  have expands : (singleFolder "t.txt" loopTemplate).render "t.txt" [("n", .list [.int 5])] =
      .ok "5" := by
    decide +kernel
  have holds :
      (singleFolder "t.txt" loopTemplate).Holds "t.txt" "templates/t.txt" loopTemplate := by
    refine ⟨["t.txt"], loopTemplate, ?_, ?_, ?_, ?_⟩ <;> decide +kernel
  have reported := (Folder.render_reportsFaults_iff isGiven).mp fun error fails => by
    rw [expands] at fails
    cases fails
  exact ⟨isGiven, expands,
    reported.2.2 _ _ _ holds readTemplate_loopTemplate (by decide +kernel)⟩

/-- The fault of a loop over a number is not reported. -/
theorem render_loopOverNumber_unreported :
    ¬ ∀ error, (singleFolder "t.txt" loopTemplate).render "t.txt" [("n", .int 5)] = .error error →
      error.fault.isReported = true := by
  have fails : (singleFolder "t.txt" loopTemplate).render "t.txt" [("n", .int 5)] =
      .error ⟨"templates/t.txt", .wrongKind⟩ := by
    decide +kernel
  intro reported
  cases reported _ fails

end Template
end SkillNode
