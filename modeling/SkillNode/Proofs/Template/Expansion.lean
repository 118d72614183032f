import SkillNode.Template.Rendering

/-!
# Laws of expansion

Nodes in a row expand to their texts in a row, as long as every node has one. A
loop without a test expands to the texts of its body, one for each item, and a
conditional part to that of one of its parts.

The laws give the text of a node from the values of its expressions, so that the
expansion of a fixed template is found one node at a time.
-/

namespace SkillNode
namespace Template

/-! ## Names and their values -/

namespace Value

@[simp] theorem entry?_nil (name : Text) : entry? [] name = none := rfl

theorem entry?_cons
    (entry : Text × Value)
    (entries : List (Text × Value))
    (name : Text) :
    entry? (entry :: entries) name =
      if entry.1 = name then some entry.2 else entry? entries name := by
  by_cases same : entry.1 = name <;> simp [Value.entry?, same]

/-- Names that are written out are compared as they are written. -/
@[simp] theorem entry?_cons_literal
    (key name : String)
    (value : Value)
    (entries : List (Text × Value)) :
    entry? ((key.toList, value) :: entries) name.toList =
      if key = name then some value else entry? entries name.toList := by
  simp only [entry?_cons, String.toList_inj]

/-- A name has no value exactly if no entry is called by it. -/
theorem entry?_eq_none_iff
    {entries : List (Text × Value)}
    {name : Text} :
    entry? entries name = none ↔ name ∉ entries.map Prod.fst := by
  induction entries with
  | nil => simp
  | cons entry entries restHypothesis =>
      rw [entry?_cons]
      by_cases same : entry.1 = name
      · simp [same]
      · simp [same, Ne.symm same, restHypothesis]

@[simp] theorem escapeCpp_text (content : Text) :
    (text content).escapeCpp = .ok (Cpp.escape content) := by
  cases content <;> simp [escapeCpp, truth, Cpp.escape]

/-- Text is printed as it is where markup is not escaped. -/
@[simp] theorem print_text (content : Text) : (text content).print false = .ok content := rfl

/-- A number is printed in its digits if they are not too many. -/
theorem print_int (number : Int) :
    (int number).print false =
      if Text.isPrintable number then .ok (Text.ofInt number) else .error .longNumber := by
  have shows : (int number).shown =
      if Text.isPrintable number then .ok (Text.ofInt number) else .error .longNumber := rfl
  rw [print, shows]
  cases Text.isPrintable number <;> rfl

/-- The methods of records among names that are written out. -/
@[simp] theorem toList_mem_recordMethods_iff {name : String} :
    name.toList ∈ recordMethods ↔
      name = "clear" ∨ name = "copy" ∨ name = "fromkeys" ∨ name = "get" ∨ name = "items" ∨
        name = "keys" ∨ name = "pop" ∨ name = "popitem" ∨ name = "setdefault" ∨
        name = "update" ∨ name = "values" := by
  simp only [recordMethods, List.mem_cons, List.not_mem_nil, or_false, String.toList_inj]

/-- A record has an entry for its part, unless a method of records is called so. -/
@[simp] theorem field?_record
    {part : Text}
    (notMethod : part ∉ recordMethods)
    (entries : List (Text × Value)) :
    (record entries).field? part = .ok (Value.entry? entries part) := by
  have noMember : (record entries).member? part = none := by
    simp [member?, methodNames, notMethod, index?]
  rw [field?, noMember, Option.none_or]

@[simp] theorem field?_object
    (typeName : Text)
    (fields derived : List (Text × Value))
    (part : Text) :
    (object typeName fields derived).field? part = .ok (Value.entry? (fields ++ derived) part) := by
  simp [field?]

end Value

/-- A template whose names are all supplied lacks none. -/
theorem missingName?_eq_none
    {nodes : List Node}
    {context : Context}
    (supplied : ∀ name ∈ freeNamesOf nodes, name ∈ context.map Prod.fst) :
    missingName? nodes context = none := by
  have noneLacks : (freeNamesOf nodes).filter (fun name =>
      !(builtinNames.contains name) && (Value.entry? context name).isNone) = [] := by
    refine List.filter_eq_nil_iff.mpr fun name member lacks => ?_
    rw [Bool.and_eq_true, Option.isNone_iff_eq_none] at lacks
    exact Value.entry?_eq_none_iff.mp lacks.2 (supplied name member)
  rw [missingName?, noneLacks]
  rfl

/-- Nor does it look up one that is left out. -/
theorem leftOutName?_eq_none
    {nodes : List Node}
    {context : Context}
    (supplied : ∀ name ∈ freeNamesOf nodes, name ∈ builtinNames → name ∈ context.map Prod.fst) :
    leftOutName? nodes context = none := by
  refine List.find?_eq_none.mpr fun name isFree isLeftOut => ?_
  rw [Bool.and_eq_true, Option.isNone_iff_eq_none] at isLeftOut
  exact Value.entry?_eq_none_iff.mp isLeftOut.2
    (supplied name isFree (List.contains_iff_mem.mp isLeftOut.1))

/-! ## Outcomes -/

section Outcomes

variable {Result Other Trouble : Type}

@[simp] theorem ok_bind (result : Result) (next : Result → Except Trouble Other) :
    (Except.ok result).bind next = next result := by
  simp only [Except.bind]

@[simp] theorem ok_map (result : Result) (change : Result → Other) :
    (Except.ok result : Except Trouble Result).map change = .ok (change result) := by
  simp only [Except.map]

@[simp] theorem error_bind (trouble : Trouble) (next : Result → Except Trouble Other) :
    (Except.error trouble).bind next = .error trouble := by
  simp only [Except.bind]

@[simp] theorem error_map (trouble : Trouble) (change : Result → Other) :
    (Except.error trouble : Except Trouble Result).map change = .error trouble := by
  simp only [Except.map]

@[simp] theorem use_ofOption_some (line : Nat) (lacking : Missing) (value : Value) :
    (Outcome.ofOption lacking (some value)).use line = .ok value := by
  simp only [Outcome.ofOption, Outcome.use]

end Outcomes

/-! ## Expressions -/

namespace Expr

variable (line : Nat) (scope : Scope)

@[simp] theorem valueOn_name (nameLine : Nat) (name : Text) :
    (Expr.name nameLine name).valueOn line scope =
      (Outcome.ofOption (.name name) (Value.entry? scope name)).use line := by
  simp [valueOn, eval, bind]

@[simp] theorem valueOn_field (fieldLine : Nat) (base : Expr) (part : Text) :
    (Expr.field fieldLine base part).valueOn line scope =
      (base.valueOn line scope).bind fun whole =>
        (whole.field? part).bind fun found => (Outcome.ofOption (.part part) found).use line := by
  simp only [valueOn, eval, bind, pure, Except.pure]
  cases base.eval line scope with
  | error fault => rfl
  | ok outcome =>
      cases outcome with
      | missing lacking => rfl
      | value whole =>
          simp only [Outcome.use, Except.bind]
          cases whole.field? part <;> rfl

@[simp] theorem valueOn_escapeCpp (filterLine : Nat) (base : Expr) :
    (Expr.filter filterLine base "escape_cpp").valueOn line scope =
      (base.valueOn line scope).bind fun value => value.escapeCpp.map .text := by
  have known : Filter.ofName? "escape_cpp" = some .escapeCpp := rfl
  simp only [valueOn, eval, known, Filter.apply, bind, pure, Except.pure]
  cases base.eval line scope with
  | error fault => rfl
  | ok outcome =>
      cases outcome with
      | missing lacking => rfl
      | value value =>
          simp only [Outcome.use, Except.bind]
          cases value.escapeCpp <;> rfl

end Expr

/-! ## Nodes -/

variable {escaping : Escaping} {scope : Scope}

@[simp] theorem expandAll_nil : expandAll escaping scope [] = .ok [] := by
  simp [expandAll]

@[simp] theorem expandAll_cons (node : Node) (rest : List Node) :
    expandAll escaping scope (node :: rest) =
      (node.expand escaping scope).bind fun text =>
        (expandAll escaping scope rest).map (text ++ ·) := by
  rw [expandAll]
  rfl

@[simp] theorem expand_text (content : Text) :
    (Node.text content).expand escaping scope = .ok content := by
  rw [Node.expand]

@[simp] theorem expand_output (expr : Expr) :
    (Node.output expr).expand escaping scope =
      (expr.valueOn expr.line scope).bind (Value.print escaping) := by
  rw [Node.expand]
  rfl

/-- A conditional part expands to one of its parts. -/
theorem expand_branch
    {test : Expr}
    {line : Nat}
    {value : Value}
    {body otherwise : List Node}
    (evaluates : test.valueOn line scope = .ok value) :
    (Node.branch line test body otherwise).expand escaping scope =
      expandAll escaping scope (if value.truth then body else otherwise) := by
  rw [Node.expand, evaluates]
  cases truth : value.truth <;> simp [truth, bind, Except.bind]

/-! ## Loops -/

/-- The state of a loop at an item, by the number of items before it and what may come later. -/
def loopState (index : Nat) (later : List Candidate) : Value :=
  .loop index (nonePasses later) ((countPassing later).map (index + 1 + ·))

/-- What a loop expands for an item and a state. -/
def expandBody (escaping : Escaping) (scope : Scope) (target : Text) (body : List Node)
    (item state : Value) : Except Fault Text :=
  expandAll escaping ((target, item) :: (loopName, state) :: scope) body

/-- Whether an item passes the test of a loop, if it has one. -/
def passesTest (scope : Scope) (target : Text) (test? : Option Expr) (item : Value) :
    Except Fault Bool :=
  match test? with
  | some test => (test.valueOn test.line ((target, item) :: scope)).map Value.truth
  | none => .ok true

/-- Items and whether they pass the test of a loop. -/
def candidatesOf (scope : Scope) (target : Text) (test? : Option Expr) (items : List Value) :
    List Candidate :=
  items.map fun item => (item, passesTest scope target test? item)

/-- A loop is expanded from the candidates among the items of its value. -/
theorem expand_loop_eq
    {line : Nat}
    {target : Text}
    {iterable : Expr}
    {test? : Option Expr}
    {body otherwise : List Node} :
    (Node.loop line target iterable test? body otherwise).expand escaping scope = (do
      let value ← (← iterable.eval line scope).use ((test?.map Expr.line).getD line)
      match value.items? with
      | none => throw .wrongKind
      | some items =>
          let (text, count) ←
            expandItems (expandBody escaping scope target body) 0
              (candidatesOf scope target test? items)
          if count = 0 then expandAll escaping scope otherwise else return text) := by
  rw [Node.expand]
  cases test? <;> rfl

/-- Items that all pass expand to their texts in a row. -/
theorem expandItems_eq_ok
    {Item : Type}
    {body : Value → Value → Except Fault Text}
    {toValue : Item → Value}
    {render : Item → Text}
    {items : List Item}
    (each : ∀ item ∈ items, ∀ state, body (toValue item) state = .ok (render item))
    (index : Nat) :
    expandItems body index (items.map fun item => (toValue item, .ok true)) =
      .ok (items.flatMap render, index + items.length) := by
  induction items generalizing index with
  | nil => rfl
  | cons item items restHypothesis =>
      rw [List.map_cons, expandItems, each item (List.mem_cons_self ..)]
      rw [restHypothesis fun other member => each other (List.mem_cons_of_mem _ member)]
      simp [bind, Except.bind, pure, Except.pure]
      omega

/-- A loop over a list expands to the texts of its body, one for each item, and to
its other part if there is no item. -/
theorem expand_loop
    {Item : Type}
    (toValue : Item → Value)
    {line : Nat}
    {target : Text}
    {iterable : Expr}
    {body otherwise : List Node}
    {render : Item → Text}
    {items : List Item}
    (evaluates : iterable.valueOn line scope = .ok (.list (items.map toValue)))
    (each : ∀ item ∈ items, ∀ state,
      expandAll escaping ((target, toValue item) :: (loopName, state) :: scope) body =
        .ok (render item)) :
    (Node.loop line target iterable none body otherwise).expand escaping scope =
      if items.isEmpty then
        expandAll escaping scope otherwise
      else
        .ok (items.flatMap render) := by
  have evaluates : (iterable.eval line scope).bind (Outcome.use line) =
      .ok (.list (items.map toValue)) := evaluates
  have looped :
      expandItems
          (fun item state => expandAll escaping ((target, item) :: (loopName, state) :: scope) body)
          0 (items.map fun item => (toValue item, .ok true)) =
        .ok (items.flatMap render, 0 + items.length) :=
    expandItems_eq_ok each 0
  -- A loop looks at the outcome of its list before it uses it.
  rw [Node.expand]
  cases found : iterable.eval line scope with
  | error fault => simp [found, Except.bind] at evaluates
  | ok outcome =>
      rw [found] at evaluates
      have used : outcome.use line = .ok (.list (items.map toValue)) := evaluates
      simp only [Option.map_none, Option.getD_none, used, Value.items?, bind, Except.bind, pure,
        Except.pure, List.map_map, Function.comp_def, looped]
      cases items <;> simp

/-- A loop with nothing for no item expands to the texts of its body. -/
theorem expand_plainLoop
    {Item : Type}
    (toValue : Item → Value)
    {line : Nat}
    {target : Text}
    {iterable : Expr}
    {body : List Node}
    {render : Item → Text}
    {items : List Item}
    (evaluates : iterable.valueOn line scope = .ok (.list (items.map toValue)))
    (each : ∀ item ∈ items, ∀ state,
      expandAll escaping ((target, toValue item) :: (loopName, state) :: scope) body =
        .ok (render item)) :
    (Node.loop line target iterable none body []).expand escaping scope =
      .ok (items.flatMap render) := by
  rw [expand_loop toValue evaluates each]
  cases items <;> simp

end Template
end SkillNode
