import SkillNode.Proofs.Template.FollowedReaders
import SkillNode.Proofs.Template.NameReferences

/-!
# References that are read

Whatever a template is read as, each of its references was taken from a token with that name and
on that line. No number comes right before such a token: a name is referred to only at the start
of an expression and after signs and words. So the name stands in the template as a word, on the
line of the reference.
-/

namespace SkillNode
namespace Template

/-! ## Taken references -/

/-- A reference has its name and line from a token, with no number right before it. -/
def IsTaken (all : List PlacedToken) (reference : Reference) : Prop :=
  ∃ rest, IsFresh all (⟨reference.line, .name reference.name⟩ :: rest)

/-- All of some references are taken from tokens. -/
def AreTaken (all : List PlacedToken) (references : List Reference) : Prop :=
  ∀ reference ∈ references, IsTaken all reference

/-- The references of an expression that was read are taken from tokens, and others are left. -/
def ExprTaken (all : List PlacedToken) (expr : Expr) (left : List PlacedToken) : Prop :=
  AreTaken all expr.references ∧ left <:+ all

/-- The references of nodes that were read are taken from tokens, and others are left. -/
def NodesTaken (all : List PlacedToken) (nodes : List Node) (left : List PlacedToken) : Prop :=
  AreTaken all (referencesIn nodes) ∧ left <:+ all

/-- The same of a single node. -/
def NodeTaken (all : List PlacedToken) (node : Node) (left : List PlacedToken) : Prop :=
  AreTaken all node.references ∧ left <:+ all

section AreTaken

variable {all : List PlacedToken}

theorem areTaken_nil : AreTaken all [] := List.forall_mem_nil _

theorem AreTaken.append
    {left right : List Reference}
    (leftTaken : AreTaken all left)
    (rightTaken : AreTaken all right) :
    AreTaken all (left ++ right) :=
  List.forall_mem_append.mpr ⟨leftTaken, rightTaken⟩

/-- References taken from tokens, without those to names that are bound. -/
theorem AreTaken.filter
    {references : List Reference}
    (areTaken : AreTaken all references)
    (keeps : Reference → Bool) :
    AreTaken all (references.filter keeps) :=
  fun reference member => areTaken reference (List.mem_filter.mp member).1

theorem areTaken_referencesIn_nil : AreTaken all (referencesIn []) := by
  rw [referencesIn]
  exact areTaken_nil

theorem areTaken_referencesIn_cons
    {node : Node}
    {rest : List Node}
    (nodeTaken : AreTaken all node.references)
    (restTaken : AreTaken all (referencesIn rest)) :
    AreTaken all (referencesIn (node :: rest)) := by
  rw [referencesIn]
  exact nodeTaken.append restTaken

end AreTaken

namespace TokenReader

/-! ## Expressions -/

section Expressions

variable {all : List PlacedToken}

/-- From fresh tokens a reader takes an expression whose references are taken from tokens. -/
def TakesExpr (all : List PlacedToken) (reader : TokenReader Expr) : Prop :=
  Leads (IsFresh all) reader (ExprTaken all)

theorem leads_adjacentStrings (fuel : Nat) :
    Leads (· <:+ all) (adjacentStrings fuel) fun _ => (· <:+ all) := by
  induction fuel with
  | zero => exact .pure fun _ left => left
  | succ fuel fuelHypothesis =>
      refine leads_current.bind fun token => ?_
      split
      · refine (leads_advance.startingIn fun _ seen => seen.1).bind fun _ => ?_
        exact fuelHypothesis.bind fun _ => .pure fun _ left => left
      · exact .pure fun _ seen => seen.1

/-- An expression without references. -/
theorem exprTaken_of_noReferences
    {expr : Expr}
    {left : List PlacedToken}
    (noReferences : expr.references = [])
    (isLeft : left <:+ all) :
    ExprTaken all expr left := by
  refine ⟨?_, isLeft⟩
  rw [noReferences]
  exact areTaken_nil

/-- A name that comes next among fresh tokens. -/
theorem exprTaken_name
    {line : Nat}
    {name : Text}
    {tokens left : List PlacedToken}
    (seen : SeenFirst (IsFresh all) ⟨line, .name name⟩ tokens)
    (isLeft : left <:+ all) :
    ExprTaken all (.name line name) left := by
  obtain ⟨fresh, isHead⟩ := seen
  have noEnding : (tokens.headD ⟨1, .ending⟩).token ≠ .ending := by
    rw [isHead]
    exact nofun
  obtain ⟨rest, isCons⟩ := exists_cons_of_headD noEnding
  rw [isCons, isHead] at fresh
  exact ⟨List.forall_mem_singleton.mpr ⟨rest, fresh⟩, isLeft⟩

variable {inner : TokenReader Expr} (takesInner : TakesExpr all inner)

include takesInner

theorem takesExpr_primary : TakesExpr all (primary inner) := by
  refine leads_current.bind fun ⟨line, token⟩ => ?_
  cases token with
  | name found =>
      -- The name is the next of fresh tokens now; past it this is known no more.
      refine .intro fun tokens seen => ?_
      refine (leads_advance.startingIn fun _ seen => seen.1.suffix).bind fun _ => ?_
      split
      · exact .pure fun _ left => exprTaken_of_noReferences rfl left
      · exact .pure fun _ left => exprTaken_name seen left
  | string =>
      refine (leads_fuel.startingIn fun _ seen => seen.1.suffix).bind fun count => ?_
      exact (leads_adjacentStrings count).bind fun _ =>
        .pure fun _ left => exprTaken_of_noReferences rfl left
  | number value =>
      refine (leads_advance.startingIn fun _ seen => seen.1.suffix).bind fun _ => ?_
      exact .pure fun _ left => exprTaken_of_noReferences rfl left
  | sign sign =>
      dsimp only
      split
      · refine (leads_advance_seen (fun _ fresh => fresh.suffix) (.sign sign) nofun rfl).bind
          fun _ => ?_
        refine takesInner.bind fun expr => .intro fun _ taken => ?_
        exact (leads_expectSign (fun _ taken => taken.2) ")").bind fun _ =>
          .pure fun _ fresh => ⟨taken.1, fresh.suffix⟩
      · exact .stopAt line _
  | _ => exact .stopAt line _

/-- The named parts and items of an expression. -/
theorem leads_parts
    (fuel : Nat)
    {base : Expr}
    (baseTaken : AreTaken all base.references) :
    Leads (· <:+ all) (parts inner fuel base) (ExprTaken all) := by
  induction fuel generalizing base with
  | zero => exact .pure fun _ left => ⟨baseTaken, left⟩
  | succ fuel fuelHypothesis =>
      refine leads_current.bind fun ⟨line, token⟩ => ?_
      dsimp only
      split
      · refine (leads_advance.startingIn fun _ seen => seen.1).bind fun _ => ?_
        refine leads_current.bind fun ⟨partLine, part⟩ => ?_
        dsimp only
        split
        · refine (leads_advance.startingIn fun _ seen => seen.1).bind fun _ => ?_
          exact fuelHypothesis baseTaken
        · refine (leads_advance.startingIn fun _ seen => seen.1).bind fun _ => ?_
          exact fuelHypothesis (baseTaken.append areTaken_nil)
        · exact leads_stop _
      · split
        · next isSign =>
            subst isSign
            refine (leads_advance_seen (fun _ left => left) (.sign "[") nofun rfl).bind fun _ => ?_
            refine takesInner.bind fun index => .intro fun _ taken => ?_
            refine (leads_expectSign (fun _ taken => taken.2) "]").bind fun _ => ?_
            have itemTaken : AreTaken all (Expr.item line base index).references :=
              baseTaken.append taken.1
            exact (fuelHypothesis itemTaken).startingIn fun _ fresh => fresh.suffix
        · exact .pure fun _ seen => ⟨baseTaken, seen.1⟩

/-- The argument of a filter. -/
theorem leads_filterArgument? :
    Leads (· <:+ all) (filterArgument? inner) fun argument? left =>
      (∀ argument, argument? = some argument →
        AreTaken all argument.references) ∧ left <:+ all := by
  refine (leads_acceptSign (fun _ left => left) "(").bind fun opens => ?_
  cases opens with
  | false => exact .pure fun _ left => ⟨nofun, left⟩
  | true =>
      refine (leads_acceptSign (fun _ fresh => fresh.suffix) ")").bind fun closes => ?_
      cases closes with
      | true => exact .pure fun _ fresh => ⟨nofun, fresh.suffix⟩
      | false =>
          refine takesInner.bind fun argument => .intro fun _ taken => ?_
          refine (leads_acceptSign (fun _ taken => taken.2) ",").bind fun accepted => ?_
          refine (leads_expectSign (fun _ => suffix_of_afterAccept fun _ taken => taken.2) ")").bind
            fun _ => ?_
          refine .pure fun _ fresh => ⟨?_, fresh.suffix⟩
          rintro _ ⟨⟩
          exact taken.1

/-- The filters and tests of an expression. -/
theorem leads_operations
    (fuel : Nat)
    {base : Expr}
    (baseTaken : AreTaken all base.references) :
    Leads (· <:+ all) (operations inner fuel base) (ExprTaken all) := by
  induction fuel generalizing base with
  | zero => exact .pure fun _ left => ⟨baseTaken, left⟩
  | succ fuel fuelHypothesis =>
      refine leads_line.bind fun line => ?_
      refine (leads_acceptSign (fun _ left => left) "|").bind fun isFilter => ?_
      cases isFilter with
      | true =>
          refine leads_line.bind fun filterLine => ?_
          refine (leads_takeName.startingIn fun _ fresh => fresh.suffix).bind fun found => ?_
          refine (leads_filterArgument? takesInner).bind fun argument? => .intro fun _ taken => ?_
          split
          · next argument =>
              have filterTaken :
                  AreTaken all (Expr.filterWith filterLine base found argument).references :=
                baseTaken.append (taken.1 argument rfl)
              exact (fuelHypothesis filterTaken).startingIn fun _ taken => taken.2
          · have filterTaken : AreTaken all (Expr.filter filterLine base found).references :=
              baseTaken
            exact (fuelHypothesis filterTaken).startingIn fun _ taken => taken.2
      | false =>
          refine (leads_acceptWord (fun _ left => left) "is").bind fun isTest => ?_
          cases isTest with
          | true =>
              refine (leads_acceptWord (fun _ fresh => fresh.suffix) "not").bind
                fun isNegated => ?_
              refine (leads_takeName.startingIn fun _ =>
                suffix_of_afterAccept fun _ fresh => fresh.suffix).bind fun found => ?_
              refine fuelHypothesis ?_
              cases isNegated <;> exact baseTaken
          | false => exact .pure fun _ left => ⟨baseTaken, left⟩

/-- An operand has the references of its first part and of the arguments and indices after it. -/
theorem takesExpr_operand : TakesExpr all (operand inner) := by
  refine leads_line.bind fun line => ?_
  refine (leads_acceptSign (fun _ fresh => fresh.suffix) "-").bind fun isNegative => ?_
  cases isNegative with
  | true =>
      refine leads_current.bind fun token => ?_
      split
      · next value _ =>
          refine (leads_advance.startingIn fun _ seen => seen.1.suffix).bind fun _ => ?_
          refine leads_fuel.bind fun count => ?_
          have noReferences : AreTaken all (Expr.constant line (.int (-value))).references :=
            areTaken_nil
          exact leads_operations takesInner count noReferences
      · exact leads_stop _
  | false =>
      refine (takesExpr_primary takesInner).bind fun base => .intro fun _ baseTaken => ?_
      refine (leads_fuel.startingIn fun _ taken => taken.2).bind fun count => ?_
      refine (leads_parts takesInner count baseTaken.1).bind fun whole =>
        .intro fun _ wholeTaken => ?_
      refine (leads_fuel.startingIn fun _ taken => taken.2).bind fun count => ?_
      exact leads_operations takesInner count wholeTaken.1

theorem takesExpr_equality : TakesExpr all (equality inner) := by
  refine (takesExpr_operand takesInner).bind fun left => .intro fun _ leftTaken => ?_
  refine (leads_acceptSign (fun _ taken => taken.2) "==").bind fun isEquality => ?_
  cases isEquality with
  | true =>
      refine (takesExpr_operand takesInner).bind fun right => .intro fun _ rightTaken => ?_
      refine leads_line.bind fun line => .pure fun _ taken => ⟨?_, taken.2⟩
      exact leftTaken.1.append rightTaken.1
  | false => exact .pure fun _ taken => taken

theorem takesExpr_negation (fuel : Nat) : TakesExpr all (negation inner fuel) := by
  induction fuel with
  | zero => exact leads_stop _
  | succ fuel fuelHypothesis =>
      refine leads_line.bind fun line => ?_
      refine (leads_acceptWord (fun _ fresh => fresh.suffix) "not").bind fun isNegation => ?_
      cases isNegation with
      | true => exact fuelHypothesis.bind fun _ => .pure fun _ taken => taken
      | false => exact takesExpr_equality takesInner

omit takesInner in
theorem leads_furtherOperands
    {next : TokenReader Expr}
    (takesNext : TakesExpr all next)
    {combine : Nat → Expr → Expr → Expr}
    (combines : ∀ line left right,
      (combine line left right).references = left.references ++ right.references)
    (word : Text)
    (fuel startLine : Nat)
    {left : Expr}
    (leftTaken : AreTaken all left.references) :
    Leads (· <:+ all) (furtherOperands word combine next fuel startLine left) (ExprTaken all) := by
  induction fuel generalizing startLine left with
  | zero => exact .pure fun _ isLeft => ⟨leftTaken, isLeft⟩
  | succ fuel fuelHypothesis =>
      refine (leads_acceptWord (fun _ isLeft => isLeft) word).bind fun goesOn => ?_
      cases goesOn with
      | true =>
          refine takesNext.bind fun right => .intro fun _ rightTaken => ?_
          refine (leads_line.startingIn fun _ taken => taken.2).bind fun line => ?_
          refine fuelHypothesis line ?_
          rw [combines]
          exact leftTaken.append rightTaken.1
      | false => exact .pure fun _ isLeft => ⟨leftTaken, isLeft⟩

theorem takesExpr_conjunction : TakesExpr all (conjunction inner) := by
  have takesNext : TakesExpr all (do negation inner ((← fuel) + 1)) :=
    leads_fuel.bind fun count => takesExpr_negation takesInner (count + 1)
  refine leads_line.bind fun startLine => ?_
  refine takesNext.bind fun first => .intro fun _ firstTaken => ?_
  refine (leads_fuel.startingIn fun _ taken => taken.2).bind fun count => ?_
  exact leads_furtherOperands takesNext (fun _ _ _ => rfl) "and" count startLine firstTaken.1

theorem takesExpr_disjunction : TakesExpr all (disjunction inner) := by
  have takesNext := takesExpr_conjunction takesInner
  refine leads_line.bind fun startLine => ?_
  refine takesNext.bind fun first => .intro fun _ firstTaken => ?_
  refine (leads_fuel.startingIn fun _ taken => taken.2).bind fun count => ?_
  exact leads_furtherOperands takesNext (fun _ _ _ => rfl) "or" count startLine firstTaken.1

omit takesInner in
theorem takesExpr_expressionWithin (depth : Nat) : TakesExpr all (expressionWithin depth) := by
  induction depth with
  | zero => exact leads_stop _
  | succ depth depthHypothesis => exact takesExpr_disjunction depthHypothesis

end Expressions

theorem takesExpr_expression {all : List PlacedToken} : TakesExpr all expression :=
  leads_fuel.bind fun count => takesExpr_expressionWithin (count + 1)

/-! ## Nodes -/

section Nodes

variable {all : List PlacedToken}

theorem leads_loopTarget : Leads (· <:+ all) loopTarget fun _ => (· <:+ all) := by
  refine leads_line.bind fun line => leads_takeName.bind fun found => ?_
  split
  · exact .stopAt line _
  · exact .pure fun _ left => left

variable {nodes : List Text → TokenReader (List Node)}
  (takesNodes : ∀ ends, Leads (· <:+ all) (nodes ends) (NodesTaken all))

include takesNodes

theorem leads_section? (ends : List Text) :
    Leads (· <:+ all) (section? nodes ends) (NodesTaken all) := by
  have closes : ∀ accepted, Leads (AfterAccept all (· <:+ all) accepted) (expect .statementEnd)
      fun _ => IsFresh all := fun accepted =>
    leads_expect (fun _ => suffix_of_afterAccept fun _ left => left) nofun rfl
  refine (leads_acceptSign (fun _ left => left) ":").bind fun accepted => ?_
  refine (closes accepted).bind fun _ => ?_
  refine ((takesNodes ends).startingIn fun _ fresh => fresh.suffix).bind fun body => ?_
  refine (leads_sees .ending).bind fun isEnding => ?_
  split
  · exact leads_stop _
  · exact .pure fun _ seen => seen.1

omit takesNodes in
/-- The test of a loop, if it has one, and what is read after it. -/
theorem leads_loopTest?
    {start : List PlacedToken → Prop}
    (areLeft : ∀ tokens, start tokens → tokens <:+ all)
    {next : Option Expr → TokenReader Node}
    (goesOn : ∀ test?, AreTaken all ((test?.map Expr.references).getD []) →
      Leads (· <:+ all) (next test?) (NodeTaken all))
    (accepted : Bool) :
    Leads (AfterAccept all start accepted)
      (if accepted then (some <$> expression) >>= next else Pure.pure none >>= next)
      (NodeTaken all) := by
  cases accepted with
  | true =>
      have takesTest : Leads (IsFresh all) (some <$> expression) fun test? left =>
          AreTaken all ((test?.map Expr.references).getD []) ∧ left <:+ all :=
        .map takesExpr_expression
      exact takesTest.bind fun test? => .intro fun _ testTaken =>
        (goesOn test? testTaken.1).startingIn fun _ taken => taken.2
  | false =>
      have noTest : AreTaken all (((none : Option Expr).map Expr.references).getD []) :=
        areTaken_nil
      exact (goesOn none noTest).startingIn areLeft

theorem leads_loop (line : Nat) : Leads (· <:+ all) (loop nodes line) (NodeTaken all) := by
  refine leads_loopTarget.bind fun target => ?_
  refine (leads_expectWord (fun _ left => left) "in").bind fun _ => ?_
  refine takesExpr_expression.bind fun iterable => .intro fun _ iterableTaken => ?_
  refine (leads_acceptWord (fun _ taken => taken.2) "if").bind fun accepted => ?_
  -- The rest of the loop is one reader, whether a test was read or not.
  dsimp only
  refine leads_loopTest? (fun _ taken => taken.2) (fun test? testTaken => ?_) accepted
  refine (leads_section? takesNodes _).bind fun body => .intro fun _ bodyTaken => ?_
  have partsTaken : ∀ otherwise : List Node,
      AreTaken all (referencesIn otherwise) →
        AreTaken all (Node.loop line target iterable test? body otherwise).references := by
    intro otherwise otherwiseTaken
    rw [Node.references]
    exact ((iterableTaken.1.append (testTaken.filter _)).append (bodyTaken.1.filter _)).append
      otherwiseTaken
  refine (leads_acceptWord (fun _ taken => taken.2) "endfor").bind fun isEnd => ?_
  cases isEnd with
  | true =>
      exact .pure fun _ fresh =>
        ⟨partsTaken [] areTaken_referencesIn_nil, IsFresh.suffix fresh⟩
  | false =>
      refine (leads_expectWord (fun _ taken => taken.2) "else").bind fun _ => ?_
      refine ((leads_section? takesNodes _).startingIn fun _ fresh => fresh.suffix).bind
        fun otherwise => .intro fun _ otherwiseTaken => ?_
      refine (leads_expectWord (fun _ taken => taken.2) "endfor").bind fun _ => ?_
      exact .pure fun _ fresh => ⟨partsTaken otherwise otherwiseTaken.1, fresh.suffix⟩

theorem leads_branch (fuel line : Nat) :
    Leads (IsFresh all) (branch nodes fuel line) (NodeTaken all) := by
  induction fuel generalizing line with
  | zero => exact leads_stop _
  | succ fuel fuelHypothesis =>
      refine takesExpr_expression.bind fun test => .intro fun _ testTaken => ?_
      refine ((leads_section? takesNodes _).startingIn fun _ taken => taken.2).bind fun body =>
        .intro fun _ bodyTaken => ?_
      have partsTaken : ∀ otherwise : List Node,
          AreTaken all (referencesIn otherwise) →
            AreTaken all (Node.branch line test body otherwise).references := by
        intro otherwise otherwiseTaken
        rw [Node.references]
        exact (testTaken.1.append bodyTaken.1).append otherwiseTaken
      refine (leads_acceptWord (fun _ taken => taken.2) "elif").bind fun isFurther => ?_
      cases isFurther with
      | true =>
          refine leads_line.bind fun furtherLine => ?_
          refine (fuelHypothesis furtherLine).bind fun further => .pure fun _ furtherTaken => ?_
          have onlyTaken := areTaken_referencesIn_cons furtherTaken.1 areTaken_referencesIn_nil
          exact ⟨partsTaken [further] onlyTaken, furtherTaken.2⟩
      | false =>
          refine (leads_acceptWord (fun _ taken => taken.2) "else").bind fun hasOther => ?_
          cases hasOther with
          | true =>
              refine ((leads_section? takesNodes _).startingIn fun _ => IsFresh.suffix).bind
                fun otherwise => .intro fun _ otherwiseTaken => ?_
              refine (leads_expectWord (fun _ taken => taken.2) "endif").bind fun _ => ?_
              exact .pure fun _ fresh => ⟨partsTaken otherwise otherwiseTaken.1, fresh.suffix⟩
          | false =>
              refine (leads_expectWord (fun _ taken => taken.2) "endif").bind fun _ => ?_
              exact .pure fun _ fresh => ⟨partsTaken [] areTaken_referencesIn_nil, fresh.suffix⟩

theorem leads_statement : Leads (· <:+ all) (statement nodes) (NodeTaken all) := by
  refine leads_line.bind fun line => ?_
  refine (leads_acceptWord (fun _ left => left) "for").bind fun isLoop => ?_
  cases isLoop with
  | true => exact (leads_loop takesNodes line).startingIn fun _ => IsFresh.suffix
  | false =>
      refine (leads_acceptWord (fun _ left => left) "if").bind fun isBranch => ?_
      cases isBranch with
      | true => exact leads_fuel.bind fun count => leads_branch takesNodes (count + 1) line
      | false => exact leads_stop _

end Nodes

section Templates

variable {all : List PlacedToken}

theorem leads_seesWordIn (words : List Text) :
    Leads (· <:+ all) (seesWordIn words) fun _ => (· <:+ all) := by
  refine leads_current.bind fun token => ?_
  split
  · exact .pure fun _ seen => seen.1
  · exact .pure fun _ seen => seen.1

theorem leads_nodes (fuel : Nat) (ends : List Text) :
    Leads (· <:+ all) (nodes fuel ends) (NodesTaken all) := by
  induction fuel generalizing ends with
  | zero => exact leads_stop _
  | succ fuel fuelHypothesis =>
      refine leads_current.bind fun ⟨line, token⟩ => ?_
      cases token with
      | ending => exact .pure fun _ seen => ⟨areTaken_referencesIn_nil, seen.1⟩
      | data content =>
          refine (leads_advance.startingIn fun _ seen => seen.1).bind fun _ => ?_
          refine (fuelHypothesis ends).bind fun rest => .pure fun _ taken => ?_
          have textTaken : AreTaken all (Node.text content).references := by
            rw [Node.references]
            exact areTaken_nil
          exact ⟨areTaken_referencesIn_cons textTaken taken.1, taken.2⟩
      | outputBegin =>
          refine (leads_advance_seen (fun _ left => left) .outputBegin nofun rfl).bind fun _ => ?_
          refine takesExpr_expression.bind fun expr => .intro fun _ exprTaken => ?_
          have closes : Leads (ExprTaken all expr) (expect .outputEnd) fun _ => IsFresh all :=
            leads_expect (fun _ taken => taken.2) nofun rfl
          refine closes.bind fun _ => ?_
          refine ((fuelHypothesis ends).startingIn fun _ fresh => fresh.suffix).bind
            fun rest => .pure fun _ taken => ?_
          have outputTaken : AreTaken all (Node.output expr).references := by
            rw [Node.references]
            exact exprTaken.1
          exact ⟨areTaken_referencesIn_cons outputTaken taken.1, taken.2⟩
      | statementBegin =>
          refine (leads_advance.startingIn fun _ seen => seen.1).bind fun _ => ?_
          refine (leads_seesWordIn ends).bind fun isEnd => ?_
          split
          · exact .pure fun _ left => ⟨areTaken_referencesIn_nil, left⟩
          · refine (leads_statement fuelHypothesis).bind fun node => .intro fun _ nodeTaken => ?_
            have closes : Leads (NodeTaken all node) (expect .statementEnd) fun _ => IsFresh all :=
              leads_expect (fun _ taken => taken.2) nofun rfl
            refine closes.bind fun _ => ?_
            refine ((fuelHypothesis ends).startingIn fun _ fresh => fresh.suffix).bind
              fun rest => .pure fun _ taken => ?_
            exact ⟨areTaken_referencesIn_cons nodeTaken.1 taken.1, taken.2⟩
      | _ => exact leads_stop _

theorem leads_template : Leads (· <:+ all) template (NodesTaken all) :=
  leads_checkFault.bind fun _ => leads_fuel.bind fun count => leads_nodes (count + 1) []

end Templates

end TokenReader

/-- On the line of a reference its name stands in the template as a word. -/
theorem standsOn_of_refersOn
    {source name : Text}
    {nodes : List Node}
    {line : Nat}
    (reads : readTemplate source = .ok nodes)
    (refers : RefersOn nodes line name) :
    StandsOn source line name := by
  rw [readTemplate] at reads
  split at reads
  · next found rest isRead =>
      split at reads
      · cases reads
      · obtain rfl := Except.ok.inj reads
        have taken : NodesTaken (tokens source) found rest :=
          TokenReader.leads_template (tokens source) List.suffix_rfl found rest isRead
        obtain ⟨later, passed, whole, noNumeral⟩ := taken.1 _ refers
        exact standsOn_of_tokens whole noNumeral
  · cases reads

end Template
end SkillNode
