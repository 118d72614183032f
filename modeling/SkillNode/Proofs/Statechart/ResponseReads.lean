import SkillNode.Proofs.Statechart.HandlerVisits

/-!
# Reads of responses

An expression reads a field of the response if it is a name for the response, a dot, and
names with dots between. Whatever holds a dot is taken for such an expression, so the
fields that are recorded can be accessed as members, and the other assignments are
skipped, exactly where every expression with a dot reads the response.
-/

namespace SkillNode
namespace Statechart

open Markup (Tag Document)

/-- A field that can stand in a member access: identifiers with dots between. -/
def IsMemberPath (field : Text) : Prop :=
  ∀ piece ∈ Text.splitOn '.' field, Text.isCIdentifier piece = true

instance : DecidablePred IsMemberPath := fun field =>
  inferInstanceAs (Decidable (∀ piece ∈ Text.splitOn '.' field, Text.isCIdentifier piece = true))

/-- An expression that reads a field of the response. -/
def ReadsResponse (expr : Text) : Prop :=
  ∃ response field, expr = response ++ '.' :: field ∧ Text.isCIdentifier response = true ∧
    IsMemberPath field

theorem dot_notMem_of_isCIdentifier {name : Text} (isName : Text.isCIdentifier name = true) :
    '.' ∉ name := fun member =>
  absurd (Text.isAsciiWord_of_isCIdentifier isName '.' member) (by decide)

/-- What an expression reads of the response is what follows its first dot. -/
theorem ReadsResponse.isMemberPath
    {expr : Text}
    (reads : ReadsResponse expr) :
    ∃ field, fieldRead? expr = some field ∧ IsMemberPath field := by
  obtain ⟨response, field, whole, isName, isPath⟩ := reads
  exact ⟨field, Text.after?_eq_some_iff.mpr ⟨response, whole, dot_notMem_of_isCIdentifier isName⟩,
    isPath⟩

/-- An assignment is skipped in a handler for a client: whatever is known by then, a record
is made of it and nothing else. -/
def IsSkipped (source client : Text) (tag : Tag) : Prop :=
  ∀ progress : Progress, progress.addAssign source client (AssignItem.ofTag tag) =
    .ok (progress.note [(AssignItem.ofTag tag).skipRecord source])

/-- A complete assignment is skipped exactly if its expression has no dot. -/
theorem isSkipped_iff
    {tag : Tag}
    (complete : (AssignItem.ofTag tag).faults = [])
    (source client : Text) :
    IsSkipped source client tag ↔ hasDot tag = false := by
  have answers : ∀ progress : Progress,
      progress.addAssign source client (AssignItem.ofTag tag) =
        .ok (progress.takeAssign source client (AssignItem.ofTag tag)) := fun progress =>
    (Progress.answers_addAssign source client progress (AssignItem.ofTag tag)).of_nil
      (by rw [AssignItem.complaints, complete, List.map_nil])
  constructor
  · intro skipped
    -- An assignment with a dot makes no record where no client is known.
    have atStart := (answers {}).symm.trans (skipped {})
    by_contra dotted
    have writes : (AssignItem.ofTag tag).write? = some (written tag) := by
      rw [write?_ofTag, if_pos (by simpa using dotted)]
    rw [Progress.takeAssign, writes] at atStart
    have sameLog := congrArg Progress.log (Except.ok.inj atStart)
    cases sameLog
  · intro dotless progress
    rw [answers, Progress.takeAssign, write?_ofTag, dotless]
    rfl

/-- The assignments of a document without complaints are complete. -/
theorem faults_of_mem_assignsOf
    {source client : Text}
    {document : Document}
    (nothingWrong : complaintsOf source document = [])
    {tag : Tag}
    (member : tag ∈ assignsOf document client) :
    (AssignItem.ofTag tag).faults = [] := by
  have sound := (Outline.complaints_eq_nil_iff.mp nothingWrong).2.2
  obtain ⟨handler, isOwn, isAssign⟩ := List.mem_flatMap.mp member
  have isHandler : handler.item ∈ (Outline.ofDocument document).handlers := by
    rw [handlers_ofDocument]
    exact List.mem_map_of_mem (List.mem_of_mem_filter isOwn)
  exact sound.assigns handler.item isHandler _ (List.mem_map_of_mem isAssign)

/-- In an accepted document the fields that an endpoint records are member accesses, and the
assignments that do not read the response are skipped, exactly if every expression with a
dot in the handlers of its client reads the response. -/
theorem recordsOnlyReads_iff
    {source : Text}
    {document : Document}
    {run : Run RawModel}
    {model : RawModel}
    (reading : IsReading source document run)
    (accepts : run.outcome = .ok model)
    {endpoint : Endpoint}
    (member : endpoint ∈ model.endpoints) :
    ((∀ field ∈ endpoint.assignedFields, IsMemberPath field) ∧
        ∀ tag ∈ assignsOf document endpoint.clientName, ¬ ReadsResponse (valueOf tag "expr") →
          IsSkipped source endpoint.clientName tag) ↔
      ∀ tag ∈ assignsOf document endpoint.clientName, hasDot tag = true →
        ReadsResponse (valueOf tag "expr") := by
  have nothingWrong := (reading.eq_modelOf accepts).1
  have collects := (reading.collects accepts).2 endpoint member
  have skipped : ∀ tag ∈ assignsOf document endpoint.clientName,
      (IsSkipped source endpoint.clientName tag ↔ hasDot tag = false) := fun tag isAssign =>
    isSkipped_iff (faults_of_mem_assignsOf nothingWrong isAssign) source endpoint.clientName
  constructor
  · rintro ⟨_, othersSkipped⟩ tag isAssign dotted
    by_contra readsNothing
    have dotless := (skipped tag isAssign).mp (othersSkipped tag isAssign readsNothing)
    simp [dotted] at dotless
  · intro dottedRead
    constructor
    · intro field isField
      rw [collects.fields] at isField
      obtain ⟨tag, isDotted, rfl⟩ := List.mem_map.mp isField
      obtain ⟨isAssign, dotted⟩ := List.mem_filter.mp isDotted
      obtain ⟨field, isRead, isPath⟩ := (dottedRead tag isAssign dotted).isMemberPath
      rw [written, fieldOfExpr, isRead]
      exact isPath
    · intro tag isAssign readsNothing
      rw [skipped tag isAssign, ← Bool.not_eq_true]
      exact mt (dottedRead tag isAssign) readsNothing

/-- A meter that assigns an expression. -/
def meterChart (expr : Text) : Text :=
  "<scxml name='meter'><ros_topic_subscriber topic='/m' type='m/M'/><state id='a'>" ++
    "<ros_topic_callback name='/m' target='a'><assign location='l' expr='" ++ expr ++
    "'/></ros_topic_callback></state></scxml>"

/-- What is read of a meter that assigns some field. -/
def meterModel (field : Text) : RawModel where
  name := "meter"
  source := "meter.scxml"
  initial := "a"
  datamodel := []
  states := [⟨"a", none, false, []⟩]
  endpoints :=
    [{ nodeName := "meter_skill", clientName := "/m", kind := .topic, rosName := "/m",
       key := ⟨"m", "M"⟩, assignments := [⟨field, "l"⟩], assignedFields := [field],
       handlerTargets := ["a"] }]

/-- The meter that assigns a field of a field of the message records only what it reads. -/
theorem recordsOnlyReads_meter :
    ∃ document, Document.read (Text.utf8 (meterChart "v.x.y")) = .ok document ∧
      ∀ endpoint ∈ (meterModel "x.y").endpoints,
        (∀ field ∈ endpoint.assignedFields, IsMemberPath field) ∧
          ∀ tag ∈ assignsOf document endpoint.clientName, ¬ ReadsResponse (valueOf tag "expr") →
            IsSkipped "meter.scxml" endpoint.clientName tag := by
  have accepts : (ofText "meter.scxml" (meterChart "v.x.y")).outcome = .ok (meterModel "x.y") := by
    decide +kernel
  have expressions :
      (match Document.read (Text.utf8 (meterChart "v.x.y")) with
        | .ok document => (assignsOf document "/m").map (valueOf · "expr")
        | .error _ => []) = [("v.x.y" : Text)] := by
    decide +kernel
  obtain ⟨document, reads⟩ := exists_document_of_ofText accepts
  rw [reads] at expressions
  refine ⟨document, reads, fun endpoint member => ?_⟩
  refine (recordsOnlyReads_iff (.ofText reads) accepts member).mpr fun tag isAssign _ => ?_
  obtain rfl := List.mem_singleton.mp member
  have isExpression : valueOf tag "expr" ∈ [("v.x.y" : Text)] :=
    expressions ▸ List.mem_map_of_mem isAssign
  rw [List.mem_singleton.mp isExpression]
  exact ⟨"v", "x.y", rfl, by decide, by decide⟩

/-- A decimal number does not read the message, but is recorded as a read of a field that
no member access can name. -/
theorem recordsConstant_meter :
    ∃ document, Document.read (Text.utf8 (meterChart "0.5")) = .ok document ∧
      (ofText "meter.scxml" (meterChart "0.5")).outcome = .ok (meterModel "5") ∧
        ∃ endpoint ∈ (meterModel "5").endpoints,
          (("5" : Text) ∈ endpoint.assignedFields ∧ ¬ IsMemberPath "5") ∧
            ∃ tag ∈ assignsOf document endpoint.clientName,
              ¬ ReadsResponse (valueOf tag "expr") ∧
                ¬ IsSkipped "meter.scxml" endpoint.clientName tag := by
  have accepts : (ofText "meter.scxml" (meterChart "0.5")).outcome = .ok (meterModel "5") := by
    decide +kernel
  have noPath : ¬ IsMemberPath "5" := by decide
  obtain ⟨document, reads⟩ := exists_document_of_ofText accepts
  have reading : IsReading "meter.scxml" document _ := .ofText reads
  have collects := (reading.collects accepts).2 _ (List.mem_singleton.mpr rfl)
  have isRecorded : ("5" : Text) ∈ (dottedAssigns document "/m").map fun tag =>
      (written tag).field :=
    collects.fields ▸ List.mem_singleton.mpr rfl
  obtain ⟨tag, isDotted, isField⟩ := List.mem_map.mp isRecorded
  obtain ⟨isAssign, dotted⟩ := List.mem_filter.mp isDotted
  have complete := faults_of_mem_assignsOf (reading.eq_modelOf accepts).1 isAssign
  refine ⟨document, reads, accepts, _, List.mem_singleton.mpr rfl,
    ⟨List.mem_singleton.mpr rfl, noPath⟩, tag, isAssign, fun readsMessage => ?_, fun skipped => ?_⟩
  · obtain ⟨field, isRead, isPath⟩ := readsMessage.isMemberPath
    rw [written, fieldOfExpr, isRead] at isField
    exact noPath (isField ▸ isPath)
  · rw [(isSkipped_iff complete _ _).mp skipped] at dotted
    cases dotted

end Statechart
end SkillNode
