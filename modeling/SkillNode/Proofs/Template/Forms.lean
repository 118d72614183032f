import SkillNode.Proofs.Template.Expansion
import SkillNode.Proofs.Template.FormTokens
import SkillNode.Proofs.Template.Markers
import SkillNode.Proofs.Template.ReportedFaults

/-!
# Substitution

A form is read as its texts and names, and expands to its texts with the values of the names
between them. Neither is looked at again, so that what a value holds is never taken for a tag; but
the whole is searched for markers, which may reach over the ends of values.

The main statement says what rendering a form gives, and that it is given for every context but
those with a value for the name that stands for the template and those with an integer of too many
digits for a name of the form.
-/

namespace SkillNode
namespace Template

/-! ## Reading forms -/

/-- Text that is copied, unless there is none. -/
def textNode (text : Text) : List Node := if text.isEmpty then [] else [.text text]

/-- What text on a line and placeholders after it are read as. -/
def formNodes (line : Nat) (text : Text) : List Slot → List Node
  | [] => textNode text
  | slot :: slots =>
      let slotLine := line + Text.lineFeeds text
      textNode text ++ .output (.name slotLine slot.name) :: formNodes slotLine slot.text slots

namespace TokenReader

section Steps

variable {fuel line : Nat} {ends : List Text} {token : PlacedToken} {rest left : List PlacedToken}
  {found : List Node}

theorem nodes_ending (rest : List PlacedToken) :
    nodes (fuel + 1) ends (⟨line, .ending⟩ :: rest) = .ok ([], ⟨line, .ending⟩ :: rest) := by
  rw [nodes, bind_apply, current_cons, ok_bind_eq]
  rfl

/-- Text is copied. -/
theorem nodes_data
    (content : Text)
    (noFault : token.token.isFault = false)
    (isRead : nodes fuel ends (token :: rest) = .ok (found, left)) :
    nodes (fuel + 1) ends (⟨line, .data content⟩ :: token :: rest) =
      .ok (.text content :: found, left) := by
  have passes : advance (⟨line, .data content⟩ :: token :: rest) = .ok ((), token :: rest) :=
    advance_cons nofun noFault
  rw [nodes, bind_apply, current_cons, ok_bind_eq]
  dsimp only
  rw [bind_apply, passes, ok_bind_eq, bind_apply, isRead, ok_bind_eq, pure_apply]

/-- A name in an output tag is printed. -/
theorem nodes_name
    {name : Text}
    (standsAlone : StandsAlone name)
    (noFault : token.token.isFault = false)
    (isRead : nodes fuel ends (token :: rest) = .ok (found, left)) :
    nodes (fuel + 1) ends
        (⟨line, .outputBegin⟩ :: ⟨line, .name name⟩ :: ⟨line, .outputEnd⟩ :: token :: rest) =
      .ok (.output (.name line name) :: found, left) := by
  have opens : advance
      (⟨line, .outputBegin⟩ :: ⟨line, .name name⟩ :: ⟨line, .outputEnd⟩ :: token :: rest) =
        .ok ((), ⟨line, .name name⟩ :: ⟨line, .outputEnd⟩ :: token :: rest) :=
    advance_cons nofun rfl
  have closes : expect .outputEnd (⟨line, .outputEnd⟩ :: token :: rest) = .ok ((), token :: rest) :=
    expect_cons nofun noFault
  rw [nodes, bind_apply, current_cons, ok_bind_eq]
  dsimp only
  rw [bind_apply, opens, ok_bind_eq, bind_apply, expression_name rfl standsAlone, ok_bind_eq,
    bind_apply, closes, ok_bind_eq, bind_apply, isRead, ok_bind_eq, pure_apply]

end Steps

section Whole

variable {ends : List Text} {endLine : Nat}

/-- Text that may be empty is copied. -/
theorem nodes_text
    {fuel : Nat}
    (line : Nat)
    (text : Text)
    {token : PlacedToken}
    {rest left : List PlacedToken}
    {found : List Node}
    (noFault : token.token.isFault = false)
    (isRead : nodes fuel ends (token :: rest) = .ok (found, left)) :
    nodes (fuel + (dataToken line text).length) ends (dataToken line text ++ token :: rest) =
      .ok (textNode text ++ found, left) := by
  cases text with
  | nil => exact isRead
  | cons c text => exact nodes_data (c :: text) noFault isRead

/-- The tokens of text and placeholders before an ending start with one that can be read. -/
theorem exists_formTokens_append_eq_cons
    (line : Nat)
    (text : Text)
    (slots : List Slot)
    (endLine : Nat) :
    ∃ token rest, formTokens line text slots ++ [⟨endLine, .ending⟩] = token :: rest ∧
      token.token.isFault = false := by
  cases text with
  | nil =>
      cases slots with
      | nil => exact ⟨_, _, rfl, rfl⟩
      | cons slot slots => exact ⟨_, _, rfl, rfl⟩
  | cons c text =>
      cases slots with
      | nil => exact ⟨_, _, rfl, rfl⟩
      | cons slot slots => exact ⟨_, _, rfl, rfl⟩

/-- Text and placeholders up to the ending are read as what they look like. -/
theorem nodes_formTokens (line : Nat) (text : Text) (slots : List Slot) (spare : Nat) :
    nodes (spare + 1 + (formTokens line text slots).length) ends
        (formTokens line text slots ++ [⟨endLine, .ending⟩]) =
      .ok (formNodes line text slots, [⟨endLine, .ending⟩]) := by
  have endingRead : nodes (spare + 1) ends [⟨endLine, .ending⟩] =
      .ok ([], [⟨endLine, .ending⟩]) := nodes_ending []
  have endingSound : (⟨endLine, .ending⟩ : PlacedToken).token.isFault = false := rfl
  induction slots generalizing line text spare with
  | nil =>
      rw [formTokens, formNodes, nodes_text line text endingSound endingRead, List.append_nil]
  | cons slot slots slotsHypothesis =>
      have laterRead := slotsHypothesis (line + Text.lineFeeds text) slot.text (spare + 2)
        (nodes_ending [])
      obtain ⟨token, rest, isCons, noFault⟩ := exists_formTokens_append_eq_cons
        (line + Text.lineFeeds text) slot.text slots endLine
      rw [isCons] at laterRead
      have openSound :
          (⟨line + Text.lineFeeds text, .outputBegin⟩ : PlacedToken).token.isFault = false := rfl
      have slotRead := nodes_text line text openSound
        (nodes_name slot.isOrdinary.toStandsAlone noFault laterRead)
      have fuels : spare + 1 + (formTokens line text (slot :: slots)).length =
          spare + 2 + 1 + (formTokens (line + Text.lineFeeds text) slot.text slots).length + 1 +
            (dataToken line text).length := by
        simp only [formTokens, List.length_append, List.length_cons]
        omega
      rw [fuels, formTokens, List.append_assoc, List.cons_append, List.cons_append,
        List.cons_append, isCons, slotRead, formNodes]

/-- A form is read as its texts and names. -/
theorem template_form (form : Form) :
    ∃ rest, template (tokens form.source) =
      .ok (formNodes 1 form.start form.slots, rest) := by
  obtain ⟨endLine, areTokens⟩ := exists_tokens_form form
  obtain ⟨token, rest, isCons, noFault⟩ :=
    exists_formTokens_append_eq_cons 1 form.start form.slots endLine
  have isRead : nodes (1 + 1 + (formTokens 1 form.start form.slots).length) []
      (formTokens 1 form.start form.slots ++ [⟨endLine, .ending⟩]) =
        .ok (formNodes 1 form.start form.slots, [⟨endLine, .ending⟩]) :=
    nodes_formTokens 1 form.start form.slots 1
  have enough : (token :: rest).length + 1 =
      1 + 1 + (formTokens 1 form.start form.slots).length := by
    rw [← isCons, List.length_append, List.length_singleton]
    omega
  refine ⟨[⟨endLine, .ending⟩], ?_⟩
  rw [areTokens]
  rw [isCons] at isRead ⊢
  rw [template, bind_apply, checkFault_cons noFault, ok_bind_eq, bind_apply, fuel_apply, ok_bind_eq,
    enough, isRead]

end Whole

end TokenReader

section FormNodes

variable (line : Nat) (text : Text) (slots : List Slot)

/-- Nothing in a form keeps it from being made ready. -/
theorem refusal?_formNodes : refusal? (formNodes line text slots) = none := by
  have parts : unknownOperationIn? false (formNodes line text slots) = none ∧
      excludedIn? false (formNodes line text slots) = none ∧
        meetMissing (formNodes line text slots) = false ∧
          nestWithin maxLoopDepth (formNodes line text slots) = true := by
    induction slots generalizing line text with
    | nil => cases text <;> exact ⟨rfl, rfl, rfl, rfl⟩
    | cons slot slots slotsHypothesis =>
        obtain ⟨known, included, given, shallow⟩ :=
          slotsHypothesis (line + Text.lineFeeds text) slot.text
        have skipsText : formNodes line text (slot :: slots) =
            textNode text ++ .output (.name (line + Text.lineFeeds text) slot.name) ::
              formNodes (line + Text.lineFeeds text) slot.text slots := rfl
        rw [skipsText]
        cases text <;> exact ⟨known, included, given, shallow⟩
  obtain ⟨known, included, given, shallow⟩ := parts
  rw [refusal?, known, included, given, shallow]
  rfl

/-- The free names of a form are those of its placeholders. -/
theorem freeNamesOf_formNodes :
    freeNamesOf (formNodes line text slots) = slots.map Slot.name := by
  have skipsText : ∀ (text : Text) (nodes : List Node),
      freeNamesOf (textNode text ++ nodes) = freeNamesOf nodes := by
    intro text nodes
    cases text <;> rfl
  induction slots generalizing line text with
  | nil =>
      rw [formNodes, ← List.append_nil (textNode text), skipsText]
      rfl
  | cons slot slots slotsHypothesis =>
      rw [formNodes, skipsText, freeNamesOf, slotsHypothesis]
      rfl

end FormNodes

theorem readTemplate_form (form : Form) :
    readTemplate form.source = .ok (formNodes 1 form.start form.slots) := by
  obtain ⟨rest, isRead⟩ := TokenReader.template_form form
  rw [readTemplate, isRead]
  dsimp only
  rw [refusal?_formNodes]

/-! ## Filling forms -/

/-- The text that a value is printed as: a text as it is, an integer in its decimal digits. -/
inductive Value.Prints : Value → Text → Prop
  | text (content : Text) : Prints (.text content) content
  | int (number : Int) : Prints (.int number) (Text.ofInt number)

/-- A form with texts in the places of its names. -/
def Form.fill (filling : Text → Text) (form : Form) : Text :=
  form.start ++ form.slots.flatMap fun slot => filling slot.name ++ slot.text

/-- A context gives every name of some placeholders a text or an integer, as a filling says. -/
def Binds (context : Context) (filling : Text → Text) (slots : List Slot) : Prop :=
  ∀ slot ∈ slots, ∃ value, Value.entry? context slot.name = some value ∧
    value.Prints (filling slot.name)

/-- Every value that a context gives to the name of a placeholder can be printed: no integer among
them has too many digits. -/
def ArePrintable (context : Context) (slots : List Slot) : Prop :=
  ∀ slot ∈ slots, ∀ value, Value.entry? context slot.name = some value → value.isPrintable = true

section Fill

variable {context : Context} {filling : Text → Text}

theorem Value.Prints.print_eq
    {value : Value}
    {printed : Text}
    (prints : value.Prints printed) :
    value.print false = if value.isPrintable then .ok printed else .error .longNumber := by
  cases prints with
  | text => exact print_text printed
  | int number => exact print_int number

theorem expandAll_textNode (text : Text) (nodes : List Node) :
    expandAll false context (textNode text ++ nodes) =
      (expandAll false context nodes).map (text ++ ·) := by
  cases text with
  | nil => cases expands : expandAll false context nodes <;> simp [textNode, expands]
  | cons c text =>
      have isCopied : textNode (c :: text) ++ nodes = .text (c :: text) :: nodes := rfl
      rw [isCopied, expandAll_cons, expand_text, ok_bind]

/-- Text and placeholders after it expand to the text and what the rest expands to, each value in
its place. -/
theorem expandAll_formNodes_cons
    (line : Nat)
    (text : Text)
    {slot : Slot}
    {slots : List Slot}
    {value : Value}
    (isGiven : Value.entry? context slot.name = some value)
    (prints : value.Prints (filling slot.name)) :
    expandAll false context (formNodes line text (slot :: slots)) =
      if value.isPrintable then
        (expandAll false context (formNodes (line + Text.lineFeeds text) slot.text slots)).map
          fun rest => text ++ (filling slot.name ++ rest)
      else
        .error .longNumber := by
  rw [formNodes, expandAll_textNode, expandAll_cons, expand_output, Expr.valueOn_name, isGiven,
    use_ofOption_some, ok_bind, prints.print_eq]
  cases value.isPrintable with
  | false => rfl
  | true =>
      rw [if_pos rfl, if_pos rfl, ok_bind]
      cases expandAll false context (formNodes (line + Text.lineFeeds text) slot.text slots) <;> rfl

/-- A form expands to itself with the values of its names in their places. -/
theorem expandAll_formNodes
    (line : Nat)
    (text : Text)
    {slots : List Slot}
    (binds : Binds context filling slots)
    (printable : ArePrintable context slots) :
    expandAll false context (formNodes line text slots) =
      .ok (text ++ slots.flatMap fun slot => filling slot.name ++ slot.text) := by
  induction slots generalizing line text with
  | nil =>
      rw [formNodes, ← List.append_nil (textNode text), expandAll_textNode]
      rfl
  | cons slot slots slotsHypothesis =>
      obtain ⟨⟨value, isGiven, prints⟩, laterBinds⟩ := List.forall_mem_cons.mp binds
      obtain ⟨isPrintable, laterPrintable⟩ := List.forall_mem_cons.mp printable
      rw [expandAll_formNodes_cons line text isGiven prints, if_pos (isPrintable value isGiven),
        slotsHypothesis _ slot.text laterBinds laterPrintable, ok_map, List.flatMap_cons,
        List.append_assoc]

/-- It does not expand if one of the values cannot be printed. -/
theorem expandAll_formNodes_of_unprintable
    (line : Nat)
    (text : Text)
    {slots : List Slot}
    (binds : Binds context filling slots)
    (unprintable : ¬ ArePrintable context slots) :
    expandAll false context (formNodes line text slots) = .error .longNumber := by
  induction slots generalizing line text with
  | nil => exact absurd nofun unprintable
  | cons slot slots slotsHypothesis =>
      obtain ⟨⟨value, isGiven, prints⟩, laterBinds⟩ := List.forall_mem_cons.mp binds
      rw [expandAll_formNodes_cons line text isGiven prints]
      cases isPrintable : value.isPrintable with
      | false => rfl
      | true =>
          have laterUnprintable : ¬ ArePrintable context slots := fun later =>
            unprintable (List.forall_mem_cons.mpr ⟨fun other isOther => by
              obtain rfl := Option.some.inj (isGiven.symm.trans isOther)
              exact isPrintable, later⟩)
          rw [if_pos rfl, slotsHypothesis _ slot.text laterBinds laterUnprintable, error_map]

/-- A form whose names are bound looks up no other. -/
theorem formNodes_isSupplied
    (line : Nat)
    (text : Text)
    {slots : List Slot}
    (binds : Binds context filling slots) :
    ∀ name ∈ freeNamesOf (formNodes line text slots), name ∈ context.map Prod.fst := by
  intro name isFree
  rw [freeNamesOf_formNodes, List.mem_map] at isFree
  obtain ⟨slot, member, rfl⟩ := isFree
  obtain ⟨value, isGiven, -⟩ := binds slot member
  by_contra isMissing
  rw [Value.entry?_eq_none_iff.mpr isMissing] at isGiven
  cases isGiven

end Fill

/-! ## Rendering forms -/

/-- Where no tag begins there is no carriage return either, nor is there one in a name. -/
theorem noReturn_source (form : Form) : '\r' ∉ form.source := by
  have noWord : Text.isWordCharacter '\r' = false := by decide
  intro member
  rcases List.mem_append.mp member with inStart | inSlots
  · exact form.isLiteral.noReturn inStart
  · obtain ⟨slot, -, inSlot⟩ := List.mem_flatMap.mp inSlots
    rcases List.mem_cons.mp inSlot with isDollar | inSlot
    · cases isDollar
    · rcases List.mem_append.mp inSlot with inName | inText
      · rw [Text.isWordCharacter_of_mem_identifier slot.isOrdinary.isIdentifier _ inName] at noWord
        cases noWord
      · rcases List.mem_cons.mp inText with isDollar | inText
        · cases isDollar
        · exact slot.isLiteral.noReturn inText

/-- The outcome of a rendering at a path is a text, unless a marker is in it. Then it is an error
that names the first marker and the line of the text that it starts on. -/
structure IsSubstituted (outcome : Except RenderError Text) (path text : Text) : Prop where
  unmarked : ¬ HoldsMarker text → outcome = .ok text
  marked : HoldsMarker text → ∃ before marker fault, IsFirstMarker text before marker ∧
    outcome = .error ⟨path, fault⟩ ∧ fault.isReported = true ∧ fault.placeholder = marker ∧
      fault.message = "Placeholder left in output line ".toList ++
        Text.ofNat (1 + Text.lineFeeds before)

section Rendering

variable {folder : Folder} {file : Text} {parts : List Text} {form : Form}
  {context : Context} {filling : Text → Text}

/-- A form whose names are bound is expanded and searched for markers, unless a value is given to
the name that stands for the template. -/
theorem renderNodes_form (binds : Binds context filling form.slots) :
    renderNodes false form.source (formNodes 1 form.start form.slots) context =
      if (Value.entry? context selfName).isSome then
        .error .reservedName
      else
        match expandAll false context (formNodes 1 form.start form.slots) with
        | .error fault => .error (.ofFault fault)
        | .ok output =>
            match firstMarker? 1 output with
            | some (line, marker) =>
                .error (.markerLeft line (lineOfName? form.source marker) marker)
            | none => .ok output := by
  have isSupplied := formNodes_isSupplied 1 form.start binds
  rewrite [renderNodes, missingName?_eq_none isSupplied,
    leftOutName?_eq_none fun name isFree _ => isSupplied name isFree]
  rfl

/-- A form is refused with a fault that is not reported if the context gives a value to the name
that stands for the template, or a value that cannot be printed. -/
theorem renderNodes_form_fails
    (binds : Binds context filling form.slots)
    (unfit : ¬ (Value.entry? context selfName = none ∧ ArePrintable context form.slots)) :
    ∃ fault, renderNodes false form.source (formNodes 1 form.start form.slots) context =
      .error fault ∧ fault.isReported = false := by
  rw [renderNodes_form binds]
  cases selfValue : Value.entry? context selfName with
  | some value => exact ⟨.reservedName, rfl, rfl⟩
  | none =>
      have unprintable : ¬ ArePrintable context form.slots := fun printable =>
        unfit ⟨selfValue, printable⟩
      rw [expandAll_formNodes_of_unprintable 1 form.start binds unprintable]
      exact ⟨.longNumber, rfl, rfl⟩

theorem not_isSubstituted_of_unreported
    {outcome : Except RenderError Text}
    {path text : Text}
    {fault : RenderFault}
    (fails : outcome = .error ⟨path, fault⟩)
    (unreported : fault.isReported = false) :
    ¬ IsSubstituted outcome path text := by
  intro substituted
  rw [fails] at substituted
  by_cases marked : HoldsMarker text
  · obtain ⟨_, _, other, _, isSame, isReported, _⟩ := substituted.marked marked
    obtain rfl : fault = other := congrArg RenderError.fault (Except.error.inj isSame)
    rw [unreported] at isReported
    cases isReported
  · cases substituted.unmarked marked

/-- The search for markers gives the filled form or an error about its first marker. -/
theorem isSubstituted_of_firstMarker?
    {outcome : Except RenderError Text}
    {path text : Text}
    (templateLine? : Text → Option Nat)
    (searched : outcome =
      match firstMarker? 1 text with
      | some (line, marker) => .error ⟨path, .markerLeft line (templateLine? marker) marker⟩
      | none => .ok text) :
    IsSubstituted outcome path text := by
  cases found : firstMarker? 1 text with
  | none =>
      rw [found] at searched
      exact ⟨fun _ => searched, fun marked => absurd marked (firstMarker?_eq_none_iff.mp found)⟩
  | some marked =>
      obtain ⟨line, marker⟩ := marked
      obtain ⟨before, isFirst, rfl⟩ := isFirstMarker_of_firstMarker? found
      rw [found] at searched
      constructor
      · intro unmarked
        rw [firstMarker?_eq_none_iff.mpr unmarked] at found
        cases found
      · intro _
        exact ⟨before, marker, _, isFirst, searched, rfl, rfl, rfl⟩

/-- Rendering a form whose names are bound to texts and integers puts the values in the places of
the names as they are, and searches the whole for markers. It does so exactly for the contexts
that give no value to the name that stands for the template and no integer of too many digits to a
name of the form. -/
theorem Folder.render_form_iff
    (isName : nameParts? file = some parts)
    (isContent : folder.content? parts = some (.ok form.source))
    (noMarkup : isMarkupName file = false)
    (binds : Binds context filling form.slots) :
    IsSubstituted (folder.render file context) (folder.pathOf parts) (form.fill filling) ↔
      Value.entry? context selfName = none ∧ ArePrintable context form.slots := by
  have holds : folder.Holds file (folder.pathOf parts) form.source :=
    ⟨parts, form.source, isName, isContent, rfl,
      (Text.withLineFeeds_of_noReturn (noReturn_source form)).symm⟩
  have rendered := Folder.render_of_nodes holds (readTemplate_form form) context
  rw [noMarkup] at rendered
  constructor
  · intro substituted
    by_contra unfit
    obtain ⟨fault, fails, unreported⟩ := renderNodes_form_fails binds unfit
    rw [fails] at rendered
    exact not_isSubstituted_of_unreported rendered unreported substituted
  · rintro ⟨selfIsFree, printable⟩
    refine isSubstituted_of_firstMarker? (lineOfName? form.source) ?_
    rw [rendered, renderNodes_form binds, selfIsFree,
      expandAll_formNodes 1 form.start binds printable, ← Form.fill]
    cases marked : firstMarker? 1 (form.fill filling) <;> simp [marked, Except.mapError]

end Rendering

/-- Two placeholders with a letter between them, among braces. -/
def bracedForm : Form where
  start := "\x7b\x7b "
  isLiteral := ⟨by decide, by decide, by decide, by decide⟩
  slots :=
    [⟨"first", "b", ⟨⟨by decide, by decide⟩, by decide⟩,
        ⟨by decide, by decide, by decide, by decide⟩⟩,
      ⟨"second", " %\x7d\n", ⟨⟨by decide, by decide⟩, by decide⟩,
        ⟨by decide, by decide, by decide, by decide⟩⟩]

/-- A text with the beginnings of tags, and an integer. -/
def tagValues : Context := [("first", .text "$x \x7b%"), ("second", .int (-3))]

/-- Two texts with a dollar sign each. -/
def dollarValues : Context := [("first", .text "\n$"), ("second", .text "$")]

/-- The texts that the two contexts put in the places of the names. -/
def tagFilling (name : Text) : Text := if name = "first" then "$x \x7b%" else "-3"

def dollarFilling (name : Text) : Text := if name = "first" then "\n$" else "$"

/-- The beginnings of tags are printed. Dollar signs of two values and the letter between them are
a marker, on the second line of the output. -/
theorem render_form_braced :
    (singleFolder "t" bracedForm.source).render "t" tagValues = .ok "\x7b\x7b $x \x7b%b-3 %\x7d\n" ∧
    ∃ before marker fault, IsFirstMarker "\x7b\x7b \n$b$ %\x7d\n" before marker ∧
      (singleFolder "t" bracedForm.source).render "t" dollarValues = .error ⟨"templates/t", fault⟩ ∧
      fault.isReported = true ∧ fault.placeholder = marker ∧
      fault.message = "Placeholder left in output line ".toList ++
        Text.ofNat (1 + Text.lineFeeds before) := by
  have isName : nameParts? "t" = some [("t" : Text)] := by decide
  have isContent : (singleFolder "t" bracedForm.source).content? [("t" : Text)] =
      some (.ok bracedForm.source) := rfl
  have noMarkup : isMarkupName "t" = false := by decide
  constructor
  · have binds : Binds tagValues tagFilling bracedForm.slots :=
      List.forall_mem_cons.mpr ⟨⟨_, rfl, .text _⟩,
        List.forall_mem_singleton.mpr ⟨_, rfl, .int _⟩⟩
    have printable : ArePrintable tagValues bracedForm.slots := by
      refine List.forall_mem_cons.mpr ⟨?_, List.forall_mem_singleton.mpr ?_⟩
      · rintro _ ⟨⟩
        rfl
      · rintro _ ⟨⟩
        decide +kernel
    have substituted :=
      (Folder.render_form_iff isName isContent noMarkup binds).mpr ⟨rfl, printable⟩
    have notFound : firstMarker? 1 (bracedForm.fill tagFilling) = none := by decide
    exact substituted.unmarked (firstMarker?_eq_none_iff.mp notFound)
  · have binds : Binds dollarValues dollarFilling bracedForm.slots :=
      List.forall_mem_cons.mpr ⟨⟨_, rfl, .text _⟩,
        List.forall_mem_singleton.mpr ⟨_, rfl, .text _⟩⟩
    have printable : ArePrintable dollarValues bracedForm.slots := by
      refine List.forall_mem_cons.mpr ⟨?_, List.forall_mem_singleton.mpr ?_⟩ <;>
        rintro _ ⟨⟩ <;> rfl
    have substituted :=
      (Folder.render_form_iff isName isContent noMarkup binds).mpr ⟨rfl, printable⟩
    exact substituted.marked ⟨"\x7b\x7b \n".toList, "b", " %\x7d\n", by decide, by decide⟩

/-- Text without placeholders. -/
def plainForm : Form := ⟨"x", ⟨by decide, by decide, by decide, by decide⟩, []⟩

/-- Text without placeholders is refused for a context with a value for the name that stands for
the template. The fault is not one of those that are reported. -/
theorem render_form_selfGiven :
    ¬ IsSubstituted ((singleFolder "t" plainForm.source).render "t" [(selfName, .text "v")])
        "templates/t" (plainForm.fill id) ∧
      (singleFolder "t" plainForm.source).render "t" [(selfName, .text "v")] =
        .error ⟨"templates/t", .reservedName⟩ := by
  have fails : (singleFolder "t" plainForm.source).render "t" [(selfName, .text "v")] =
      .error ⟨"templates/t", .reservedName⟩ := by
    decide +kernel
  have unmarked : ¬ HoldsMarker (plainForm.fill id) :=
    not_holdsMarker_of_notMem (by decide)
  refine ⟨fun substituted => ?_, fails⟩
  have succeeds := substituted.unmarked unmarked
  rw [fails] at succeeds
  cases succeeds

end Template
end SkillNode
