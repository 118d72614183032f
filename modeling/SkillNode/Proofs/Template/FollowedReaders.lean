import SkillNode.Proofs.Template.ReaderSteps
import SkillNode.Proofs.Template.StandingNames

/-!
# Following readers

A reader is followed from what holds of the tokens before it to what holds of its result and of
the tokens after it. Of the tokens that are left it is known whether a number was passed right
before them.
-/

namespace SkillNode
namespace Template

/-! ## Where readers lead -/

section Leads

variable {First Result : Type} {start : List PlacedToken → Prop}

/-- From tokens of a kind a reader gets only to results with tokens after them of another kind. -/
def Leads
    (start : List PlacedToken → Prop)
    (reader : TokenReader Result)
    (finish : Result → List PlacedToken → Prop) : Prop :=
  ∀ tokens, start tokens → ∀ result rest, reader tokens = .ok (result, rest) → finish result rest

theorem Leads.bind
    {reader : TokenReader First}
    {next : First → TokenReader Result}
    {middle : First → List PlacedToken → Prop}
    {finish : Result → List PlacedToken → Prop}
    (first : Leads start reader middle)
    (second : ∀ found, Leads (middle found) (next found) finish) :
    Leads start (reader >>= next) finish := by
  intro tokens starts result rest ran
  rw [TokenReader.bind_apply] at ran
  cases firstRan : reader tokens with
  | error line =>
      rw [firstRan] at ran
      cases ran
  | ok found =>
      rw [firstRan, TokenReader.ok_bind_eq] at ran
      exact second found.1 found.2 (first tokens starts found.1 found.2 firstRan) result rest ran

theorem Leads.pure
    {result : Result}
    {finish : Result → List PlacedToken → Prop}
    (holds : ∀ tokens, start tokens → finish result tokens) :
    Leads start (Pure.pure result) finish := by
  intro tokens starts found rest ran
  obtain ⟨rfl, rfl⟩ := Prod.mk.inj (Except.ok.inj ran)
  exact holds tokens starts

theorem Leads.map
    {reader : TokenReader First}
    {change : First → Result}
    {finish : Result → List PlacedToken → Prop}
    (leads : Leads start reader fun found => finish (change found)) :
    Leads start (change <$> reader) finish :=
  leads.bind fun _ => .pure fun _ holds => holds

theorem Leads.throw
    (fault : ReadFault)
    (finish : Result → List PlacedToken → Prop) :
    Leads start (MonadExcept.throw fault : TokenReader Result) finish := by
  intro tokens _ result rest ran
  cases ran

theorem Leads.stopAt
    (line : Nat)
    (finish : Result → List PlacedToken → Prop) :
    Leads start (TokenReader.stopAt line) finish :=
  .throw (.malformed line) finish

/-- From fewer tokens a reader gets nowhere else. -/
theorem Leads.startingIn
    {fewer : List PlacedToken → Prop}
    {reader : TokenReader Result}
    {finish : Result → List PlacedToken → Prop}
    (leads : Leads start reader finish)
    (starts : ∀ tokens, fewer tokens → start tokens) :
    Leads fewer reader finish :=
  fun tokens holds => leads tokens (starts tokens holds)

/-- What holds of the tokens before a reader may be used to follow it. -/
theorem Leads.intro
    {reader : TokenReader Result}
    {finish : Result → List PlacedToken → Prop}
    (leads : ∀ tokens, start tokens → Leads start reader finish) :
    Leads start reader finish :=
  fun tokens starts => leads tokens starts tokens starts

end Leads

/-! ## Tokens that are left -/

section Left

variable {all : List PlacedToken}

/-- Tokens are left of others, and the last that is gone is no number. -/
def IsFresh (all left : List PlacedToken) : Prop :=
  ∃ passed, all = passed ++ left ∧ endsInNumeral passed = false

theorem IsFresh.suffix {left : List PlacedToken} (fresh : IsFresh all left) : left <:+ all := by
  obtain ⟨passed, rfl, -⟩ := fresh
  exact List.suffix_append passed left

/-- Past a token that is no number. -/
theorem isFresh_of_cons
    {token : PlacedToken}
    {rest : List PlacedToken}
    (left : token :: rest <:+ all)
    (noNumeral : token.token.isNumeral = false) :
    IsFresh all rest := by
  obtain ⟨passed, rfl⟩ := left
  refine ⟨passed ++ [token], (List.append_assoc passed [token] rest).symm, ?_⟩
  rw [endsInNumeral, List.getLast?_concat]
  exact noNumeral

end Left

namespace TokenReader

/-! ## Single tokens -/

section Tokens

variable {all : List PlacedToken} {start : List PlacedToken → Prop}

/-- The next token is known, beside what holds of all that are left. -/
def SeenFirst
    (start : List PlacedToken → Prop)
    (token : PlacedToken)
    (tokens : List PlacedToken) : Prop :=
  start tokens ∧ tokens.headD ⟨1, .ending⟩ = token

theorem exists_cons_of_headD
    {tokens : List PlacedToken}
    (noEnding : (tokens.headD ⟨1, .ending⟩).token ≠ .ending) :
    ∃ rest, tokens = tokens.headD ⟨1, .ending⟩ :: rest := by
  cases tokens with
  | nil => exact absurd rfl noEnding
  | cons token rest => exact ⟨rest, rfl⟩

theorem leads_current : Leads start current (SeenFirst start) := by
  intro tokens starts token rest ran
  obtain ⟨rfl, rfl⟩ := Prod.mk.inj (Except.ok.inj ran)
  exact ⟨starts, rfl⟩

theorem leads_line : Leads start line fun _ => start :=
  leads_current.bind fun _ => .pure fun _ seen => seen.1

theorem leads_fuel : Leads start fuel fun _ => start := by
  intro tokens starts count rest ran
  obtain ⟨-, rfl⟩ := Prod.mk.inj (Except.ok.inj ran)
  exact starts

theorem leads_stop {Result : Type} (finish : Result → List PlacedToken → Prop) :
    Leads start stop finish :=
  leads_line.bind fun line => .stopAt line finish

theorem leads_checkFault : Leads start checkFault fun _ => start := by
  refine leads_current.bind fun token => ?_
  split
  · exact leads_stop _
  · exact .throw _ _
  · exact .pure fun _ seen => seen.1

/-- Going past a token leaves some of the tokens. -/
theorem leads_advance : Leads (· <:+ all) advance fun _ => (· <:+ all) := by
  intro tokens left result rest ran
  cases tokens with
  | nil =>
      obtain ⟨-, rfl⟩ := Prod.mk.inj (Except.ok.inj ran)
      exact left
  | cons token others =>
      by_cases isLast : token.token = .ending
      · obtain ⟨line, kind⟩ := token
        obtain rfl := isLast
        obtain ⟨-, rfl⟩ := Prod.mk.inj (Except.ok.inj ran)
        exact left
      · rw [advance_of_ne isLast] at ran
        have checked : Leads (· <:+ all) checkFault fun _ => (· <:+ all) := leads_checkFault
        exact checked others ((List.suffix_cons token others).trans left) result rest ran

/-- Going past a token that is no number leaves the others fresh. -/
theorem leads_advance_fresh
    {token : Token}
    (noEnding : token ≠ .ending)
    (noNumeral : token.isNumeral = false) :
    Leads (fun tokens => tokens <:+ all ∧ (tokens.headD ⟨1, .ending⟩).token = token) advance
      fun _ => IsFresh all := by
  rintro tokens ⟨left, rfl⟩ result rest ran
  obtain ⟨others, isCons⟩ := exists_cons_of_headD noEnding
  have checked : Leads (IsFresh all) checkFault fun _ => IsFresh all := leads_checkFault
  rw [isCons, advance_of_ne noEnding] at ran
  rw [isCons] at left
  exact checked others (isFresh_of_cons left noNumeral) result rest ran

theorem leads_sees (token : Token) :
    Leads start (sees token) fun saw tokens =>
      start tokens ∧ (saw = true → (tokens.headD ⟨1, .ending⟩).token = token) := by
  refine leads_current.bind fun found => .pure fun tokens seen => ⟨seen.1, fun saw => ?_⟩
  rw [seen.2]
  exact of_decide_eq_true saw

/-- What is left once a token was looked for: fresh tokens past it, or what there was before. -/
def AfterAccept
    (all : List PlacedToken)
    (start : List PlacedToken → Prop) : Bool → List PlacedToken → Prop
  | true => IsFresh all
  | false => start

variable (areLeft : ∀ tokens, start tokens → tokens <:+ all)

include areLeft

theorem suffix_of_afterAccept
    {accepted : Bool}
    {tokens : List PlacedToken}
    (holds : AfterAccept all start accepted tokens) :
    tokens <:+ all := by
  cases accepted with
  | true => exact IsFresh.suffix holds
  | false => exact areLeft tokens holds

theorem leads_accept
    {token : Token}
    (noEnding : token ≠ .ending)
    (noNumeral : token.isNumeral = false) :
    Leads start (accept token) (AfterAccept all start) := by
  refine (leads_sees token).bind fun saw => ?_
  cases saw with
  | true =>
      refine Leads.bind ((leads_advance_fresh noEnding noNumeral).startingIn ?_)
        fun _ => .pure fun _ fresh => fresh
      exact fun tokens seen => ⟨areLeft tokens seen.1, seen.2 rfl⟩
  | false => exact .pure fun _ seen => seen.1

theorem leads_acceptWord (word : Text) : Leads start (acceptWord word) (AfterAccept all start) :=
  leads_accept areLeft nofun rfl

theorem leads_acceptSign (sign : Text) : Leads start (acceptSign sign) (AfterAccept all start) :=
  leads_accept areLeft nofun rfl

theorem leads_expect
    {token : Token}
    (noEnding : token ≠ .ending)
    (noNumeral : token.isNumeral = false) :
    Leads start (expect token) fun _ => IsFresh all := by
  refine (leads_accept areLeft noEnding noNumeral).bind fun accepted => ?_
  cases accepted with
  | true => exact .pure fun _ fresh => fresh
  | false => exact leads_stop _

theorem leads_expectWord (word : Text) :
    Leads start (expect (.name word)) fun _ => IsFresh all :=
  leads_expect areLeft nofun rfl

theorem leads_expectSign (sign : Text) :
    Leads start (expect (.sign sign)) fun _ => IsFresh all :=
  leads_expect areLeft nofun rfl

/-- Past a known token that is no number. -/
theorem leads_advance_seen
    {line : Nat}
    (token : Token)
    (noEnding : token ≠ .ending)
    (noNumeral : token.isNumeral = false) :
    Leads (SeenFirst start ⟨line, token⟩) advance fun _ => IsFresh all := by
  refine (leads_advance_fresh noEnding noNumeral).startingIn ?_
  exact fun tokens seen => ⟨areLeft tokens seen.1, by rw [seen.2]⟩

end Tokens

/-- A name is gone past. -/
theorem leads_takeName {all : List PlacedToken} :
    Leads (· <:+ all) takeName fun _ => (· <:+ all) := by
  refine leads_current.bind fun token => ?_
  split
  · exact Leads.bind (leads_advance.startingIn fun _ seen => seen.1) fun _ =>
      .pure fun _ left => left
  · exact leads_stop _

end TokenReader
end Template
end SkillNode
