import SkillNode.Template.Reading

/-!
# Steps of a token reader

What the small readers do at a token that is known: which of them go past it and which leave it
alone. An expression that is a name ends before any token that continues no expression.
-/

namespace SkillNode
namespace Template
namespace TokenReader

section Running

variable {First Result : Type}

theorem bind_apply
    (reader : TokenReader First)
    (next : First → TokenReader Result)
    (tokens : List PlacedToken) :
    (reader >>= next) tokens = (reader tokens).bind fun found => next found.1 found.2 := rfl

theorem pure_apply (result : Result) (tokens : List PlacedToken) :
    (pure result : TokenReader Result) tokens = .ok (result, tokens) := rfl

theorem ok_bind_eq
    (found : First × List PlacedToken)
    (next : First × List PlacedToken → Except ReadFault (Result × List PlacedToken)) :
    (Except.ok found : Except ReadFault (First × List PlacedToken)).bind next = next found := rfl

end Running

/-! ## Single tokens -/

section Tokens

variable {token : PlacedToken} {rest : List PlacedToken}

theorem current_cons : current (token :: rest) = .ok (token, token :: rest) := rfl

theorem line_cons : line (token :: rest) = .ok (token.line, token :: rest) := rfl

theorem fuel_apply (tokens : List PlacedToken) : fuel tokens = .ok (tokens.length, tokens) := rfl

theorem checkFault_cons (noFault : token.token.isFault = false) :
    checkFault (token :: rest) = .ok ((), token :: rest) := by
  obtain ⟨line, kind⟩ := token
  cases kind with
  | fault | longNumber => cases noFault
  | _ => rfl

theorem advance_of_ne {passed : PlacedToken} (notLast : passed.token ≠ .ending) :
    advance (passed :: rest) = checkFault rest := by
  obtain ⟨line, kind⟩ := passed
  cases kind with
  | ending => exact absurd rfl notLast
  | _ => rfl

theorem advance_cons
    {passed : PlacedToken}
    (notLast : passed.token ≠ .ending)
    (noFault : token.token.isFault = false) :
    advance (passed :: token :: rest) = .ok ((), token :: rest) := by
  rw [advance_of_ne notLast, checkFault_cons noFault]

theorem accept_cons_of_ne {wanted : Token} (differs : token.token ≠ wanted) :
    accept wanted (token :: rest) = .ok (false, token :: rest) := by
  rw [accept, bind_apply, sees, bind_apply, current_cons, ok_bind_eq, pure_apply, ok_bind_eq,
    decide_eq_false differs]
  rfl

theorem accept_cons_self
    {passed : PlacedToken}
    (notLast : passed.token ≠ .ending)
    (noFault : token.token.isFault = false) :
    accept passed.token (passed :: token :: rest) = .ok (true, token :: rest) := by
  rw [accept, bind_apply, sees, bind_apply, current_cons, ok_bind_eq, pure_apply, ok_bind_eq,
    decide_eq_true rfl, if_pos rfl, bind_apply, advance_cons notLast noFault, ok_bind_eq,
    pure_apply]

theorem expect_cons
    {passed : PlacedToken}
    (notLast : passed.token ≠ .ending)
    (noFault : token.token.isFault = false) :
    expect passed.token (passed :: token :: rest) = .ok ((), token :: rest) := by
  rw [expect, bind_apply, accept_cons_self notLast noFault, ok_bind_eq]
  rfl

theorem acceptWord_of_ne {word : Text} (differs : token.token ≠ .name word) :
    acceptWord word (token :: rest) = .ok (false, token :: rest) :=
  accept_cons_of_ne differs

theorem acceptSign_of_ne {sign : Text} (differs : token.token ≠ .sign sign) :
    acceptSign sign (token :: rest) = .ok (false, token :: rest) :=
  accept_cons_of_ne differs

end Tokens

/-! ## Names -/

/-- A name that stands for itself in an expression. -/
structure StandsAlone (name : Text) : Prop where
  notConstant : constantWord? name = none
  notNegation : name ≠ "not"

section Names

variable {name : Text} {nameLine : Nat} {inner : TokenReader Expr}
  {closing : PlacedToken} {rest : List PlacedToken}
  (isClosing : closing.token = .outputEnd)

include isClosing

theorem primary_name (standsAlone : StandsAlone name) :
    primary inner (⟨nameLine, .name name⟩ :: closing :: rest) =
      .ok (.name nameLine name, closing :: rest) := by
  have noFault : closing.token.isFault = false := by rw [isClosing]; rfl
  have passes : advance (⟨nameLine, .name name⟩ :: closing :: rest) = .ok ((), closing :: rest) :=
    advance_cons nofun noFault
  rw [primary, bind_apply, current_cons, ok_bind_eq]
  simp only [bind_apply, passes, ok_bind_eq, standsAlone.notConstant, pure_apply]

theorem parts_closing (fuel : Nat) (base : Expr) :
    parts inner fuel base (closing :: rest) = .ok (base, closing :: rest) := by
  cases fuel with
  | zero => rfl
  | succ fuel =>
      rw [parts, bind_apply, current_cons, ok_bind_eq]
      simp only [isClosing, reduceCtorEq, if_false, pure_apply]

theorem ne_name_of_closing (word : Text) : closing.token ≠ .name word := by
  rw [isClosing]
  exact nofun

theorem ne_sign_of_closing (sign : Text) : closing.token ≠ .sign sign := by
  rw [isClosing]
  exact nofun

theorem operations_closing (fuel : Nat) (base : Expr) :
    operations inner fuel base (closing :: rest) = .ok (base, closing :: rest) := by
  cases fuel with
  | zero => rfl
  | succ fuel =>
      rw [operations, bind_apply, line_cons, ok_bind_eq, bind_apply,
        acceptSign_of_ne (ne_sign_of_closing isClosing _), ok_bind_eq,
        if_neg Bool.false_ne_true, bind_apply,
        acceptWord_of_ne (ne_name_of_closing isClosing _), ok_bind_eq,
        if_neg Bool.false_ne_true, pure_apply]

theorem furtherOperands_closing
    (word : Text)
    (combine : Nat → Expr → Expr → Expr)
    (next : TokenReader Expr)
    (fuel startLine : Nat)
    (left : Expr) :
    furtherOperands word combine next fuel startLine left (closing :: rest) =
      .ok (left, closing :: rest) := by
  cases fuel with
  | zero => rfl
  | succ fuel =>
      rw [furtherOperands, bind_apply, acceptWord_of_ne (ne_name_of_closing isClosing _),
        ok_bind_eq, if_neg Bool.false_ne_true, pure_apply]

section Alone

variable (standsAlone : StandsAlone name)

include standsAlone

theorem operand_name :
    operand inner (⟨nameLine, .name name⟩ :: closing :: rest) =
      .ok (.name nameLine name, closing :: rest) := by
  have noSign : Token.name name ≠ .sign "-" := nofun
  rw [operand, bind_apply, line_cons, ok_bind_eq, bind_apply, acceptSign_of_ne noSign, ok_bind_eq,
    if_neg Bool.false_ne_true, bind_apply, primary_name isClosing standsAlone, ok_bind_eq,
    bind_apply, fuel_apply, ok_bind_eq, bind_apply, parts_closing isClosing, ok_bind_eq,
    bind_apply, fuel_apply, ok_bind_eq, operations_closing isClosing]

theorem equality_name :
    equality inner (⟨nameLine, .name name⟩ :: closing :: rest) =
      .ok (.name nameLine name, closing :: rest) := by
  rw [equality, bind_apply, operand_name isClosing standsAlone, ok_bind_eq, bind_apply,
    acceptSign_of_ne (ne_sign_of_closing isClosing _), ok_bind_eq, if_neg Bool.false_ne_true,
    pure_apply]

theorem negation_name (fuel : Nat) :
    negation inner (fuel + 1) (⟨nameLine, .name name⟩ :: closing :: rest) =
      .ok (.name nameLine name, closing :: rest) := by
  have noNegation : Token.name name ≠ .name "not" :=
    fun isNot => standsAlone.notNegation (Token.name.inj isNot)
  rw [negation, bind_apply, line_cons, ok_bind_eq, bind_apply, acceptWord_of_ne noNegation,
    ok_bind_eq, if_neg Bool.false_ne_true, equality_name isClosing standsAlone]

theorem conjunction_name :
    conjunction inner (⟨nameLine, .name name⟩ :: closing :: rest) =
      .ok (.name nameLine name, closing :: rest) := by
  rw [conjunction, bind_apply, line_cons, ok_bind_eq, bind_apply, bind_apply, fuel_apply,
    ok_bind_eq, negation_name isClosing standsAlone, ok_bind_eq, bind_apply, fuel_apply,
    ok_bind_eq, furtherOperands_closing isClosing]

/-- A name before the end of an output tag is the whole expression. -/
theorem expression_name :
    expression (⟨nameLine, .name name⟩ :: closing :: rest) =
      .ok (.name nameLine name, closing :: rest) := by
  rw [expression, bind_apply, fuel_apply, ok_bind_eq, expressionWithin, disjunction, bind_apply,
    line_cons, ok_bind_eq, bind_apply, conjunction_name isClosing standsAlone, ok_bind_eq,
    bind_apply, fuel_apply, ok_bind_eq, furtherOperands_closing isClosing]

end Alone

end Names

end TokenReader
end Template
end SkillNode
