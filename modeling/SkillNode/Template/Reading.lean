import SkillNode.Template.Token
import SkillNode.Template.Restrictions

/-!
# Reading templates

Tokens are read as nodes and expressions. A reader stops at the first token that
does not fit, on the line of that token; a fault among the tokens stops whoever
comes to it.

Operators bind as usual: filters and tests tightest, then equality, negation,
conjunction and disjunction.

What is read is refused afterwards if it names an unknown operation, uses what is left out of the
language, or meets an obstacle.
-/

namespace SkillNode
namespace Template

/-- A reader takes tokens or stops. -/
abbrev TokenReader := StateT (List PlacedToken) (Except ReadFault)

namespace TokenReader

/-- Stop on a line. -/
def stopAt {α : Type} (line : Nat) : TokenReader α := throw (.malformed line)

/-- The next token, which stays. -/
def current : TokenReader PlacedToken := do
  return (← get).headD ⟨1, .ending⟩

/-- The line of the next token. -/
def line : TokenReader Nat := do return (← current).line

/-- Stop at the next token. -/
def stop {α : Type} : TokenReader α := do stopAt (← line)

/-- Stop if nobody gets past the next token. -/
def checkFault : TokenReader Unit := do
  match (← current).token with
  | .fault => stop
  | .longNumber => throw (.obstructed .longNumber)
  | _ => return ()

/-- Go past the next token. The ending stays. -/
def advance : TokenReader Unit := do
  match ← get with
  | ⟨_, .ending⟩ :: _ | [] => return ()
  | _ :: rest =>
      set rest
      checkFault

/-- Whether a token comes next. -/
def sees (token : Token) : TokenReader Bool := do return (← current).token = token

/-- Go past a token if it comes next, and say whether it did. -/
def accept (token : Token) : TokenReader Bool := do
  if ← sees token then
    advance
    return true
  else
    return false

/-- Go past a token that has to come next. -/
def expect (token : Token) : TokenReader Unit := do
  if !(← accept token) then stop

/-- Go past a word if it comes next, and say whether it did. -/
def acceptWord (word : Text) : TokenReader Bool := accept (.name word)

/-- Go past a sign if it comes next, and say whether it did. -/
def acceptSign (sign : Text) : TokenReader Bool := accept (.sign sign)

/-- Take a name. -/
def takeName : TokenReader Text := do
  match (← current).token with
  | .name found =>
      advance
      return found
  | _ => stop

/-- Number of tokens left, as fuel for a loop that takes one each time. -/
def fuel : TokenReader Nat := do return (← get).length

/-! ## Expressions -/

/-- The constant that a word stands for. -/
def constantWord? (word : Text) : Option Constant :=
  if word = "true" || word = "True" then some (.bool true)
  else if word = "false" || word = "False" then some (.bool false)
  else if word = "none" || word = "None" then some .null
  else none

/-- Take strings that stand side by side. -/
def adjacentStrings : Nat → TokenReader Text
  | 0 => return []
  | fuel + 1 => do
      match (← current).token with
      | .string content =>
          advance
          return content ++ (← adjacentStrings fuel)
      | _ => return []

/-- Take a name, a constant, or an expression in parentheses. -/
def primary (inner : TokenReader Expr) : TokenReader Expr := do
  let ⟨line, token⟩ ← current
  match token with
  | .name found =>
      advance
      match constantWord? found with
      | some value => return .constant line value
      | none => return .name line found
  | .string _ => return .constant line (.text (← adjacentStrings (← fuel)))
  | .number value =>
      advance
      return .constant line (.int value)
  | .sign sign =>
      if sign = "(" then
        advance
        let expr ← inner
        expect (.sign ")")
        return expr
      else
        stopAt line
  | _ => stopAt line

/-- Take the named parts and items that follow an expression. -/
def parts (inner : TokenReader Expr) : Nat → Expr → TokenReader Expr
  | 0, base => return base
  | fuel + 1, base => do
      let ⟨line, token⟩ ← current
      if token = .sign "." then
        advance
        let ⟨partLine, part⟩ ← current
        match part with
        | .name found =>
            advance
            parts inner fuel (.field line base found)
        | .number index =>
            advance
            parts inner fuel (.item line base (.constant partLine (.int index)))
        | _ => stop
      else if token = .sign "[" then
        advance
        let index ← inner
        expect (.sign "]")
        parts inner fuel (.item line base index)
      else
        return base

/-- Take the argument of a filter in parentheses, if it has one. -/
def filterArgument? (inner : TokenReader Expr) : TokenReader (Option Expr) := do
  if ← acceptSign "(" then
    if ← acceptSign ")" then
      return none
    else
      let argument ← inner
      let _ ← acceptSign ","
      expect (.sign ")")
      return some argument
  else
    return none

/-- Take the filters and tests that follow an expression. -/
def operations (inner : TokenReader Expr) : Nat → Expr → TokenReader Expr
  | 0, base => return base
  | fuel + 1, base => do
      let line ← line
      if ← acceptSign "|" then
        let filterLine ← TokenReader.line
        let found ← takeName
        match ← filterArgument? inner with
        | some argument => operations inner fuel (.filterWith filterLine base found argument)
        | none => operations inner fuel (.filter filterLine base found)
      else if ← acceptWord "is" then
        let isNegated ← acceptWord "not"
        let test := Expr.test line base (← takeName)
        operations inner fuel (if isNegated then .not line test else test)
      else
        return base

/-- Take an operand of an operator, perhaps a negative number. -/
def operand (inner : TokenReader Expr) : TokenReader Expr := do
  let line ← line
  if ← acceptSign "-" then
    match (← current).token with
    | .number value =>
        advance
        operations inner (← fuel) (.constant line (.int (-value)))
    | _ => stop
  else
    let base ← primary inner
    let whole ← parts inner (← fuel) base
    operations inner (← fuel) whole

/-- Take operands of an equality. The equality stands on the line of what follows
it. -/
def equality (inner : TokenReader Expr) : TokenReader Expr := do
  let left ← operand inner
  if ← acceptSign "==" then
    let right ← operand inner
    return .equal (← line) left right
  else
    return left

/-- Take an expression after any number of negations. -/
def negation (inner : TokenReader Expr) : Nat → TokenReader Expr
  | 0 => stop
  | fuel + 1 => do
      let line ← line
      if ← acceptWord "not" then
        return .not line (← negation inner fuel)
      else
        equality inner

/-- Take further operands of an operator word, each combined with the operands
before it. -/
def furtherOperands
    (word : Text)
    (combine : Nat → Expr → Expr → Expr)
    (next : TokenReader Expr) : Nat → Nat → Expr → TokenReader Expr
  | 0, _, left => return left
  | fuel + 1, startLine, left => do
      if ← acceptWord word then
        let right ← next
        furtherOperands word combine next fuel (← line) (combine startLine left right)
      else
        return left

/-- Take a conjunction. -/
def conjunction (inner : TokenReader Expr) : TokenReader Expr := do
  let startLine ← line
  let next := do negation inner ((← fuel) + 1)
  let first ← next
  furtherOperands "and" .and next (← fuel) startLine first

/-- Take a disjunction. -/
def disjunction (inner : TokenReader Expr) : TokenReader Expr := do
  let startLine ← line
  let first ← conjunction inner
  furtherOperands "or" .or (conjunction inner) (← fuel) startLine first

/-- Take an expression with parentheses up to a depth. -/
def expressionWithin : Nat → TokenReader Expr
  | 0 => stop
  | depth + 1 => disjunction (expressionWithin depth)

/-- Take an expression. -/
def expression : TokenReader Expr := do expressionWithin ((← fuel) + 1)

/-! ## Nodes -/

/-- Take the target of a loop: a name that is no constant and not that of the loop
state. -/
def loopTarget : TokenReader Text := do
  let line ← line
  let found ← takeName
  if found = "in" || (constantWord? found).isSome || found = loopName then
    stopAt line
  else
    return found

/-- Take a part up to one of the words that may end it, which stays. -/
def section? (nodes : List Text → TokenReader (List Node)) (ends : List Text) :
    TokenReader (List Node) := do
  let _ ← acceptSign ":"
  expect .statementEnd
  let body ← nodes ends
  if ← sees .ending then stop else return body

/-- Take a loop after its keyword. -/
def loop (nodes : List Text → TokenReader (List Node)) (line : Nat) : TokenReader Node := do
  let target ← loopTarget
  expect (.name "in")
  let iterable ← expression
  let test? ← if ← acceptWord "if" then some <$> expression else pure none
  let body ← section? nodes ["endfor", "else"]
  if ← acceptWord "endfor" then
    return .loop line target iterable test? body []
  else
    expect (.name "else")
    let otherwise ← section? nodes ["endfor"]
    expect (.name "endfor")
    return .loop line target iterable test? body otherwise

/-- Take a conditional part after its keyword. A further condition makes a
conditional part of its own, on the line of what follows its keyword. -/
def branch (nodes : List Text → TokenReader (List Node)) : Nat → Nat → TokenReader Node
  | 0, _ => stop
  | fuel + 1, line => do
      let test ← expression
      let body ← section? nodes ["elif", "else", "endif"]
      if ← acceptWord "elif" then
        let further ← branch nodes fuel (← TokenReader.line)
        return .branch line test body [further]
      else if ← acceptWord "else" then
        let otherwise ← section? nodes ["endif"]
        expect (.name "endif")
        return .branch line test body otherwise
      else
        expect (.name "endif")
        return .branch line test body []

/-- Take a statement. -/
def statement (nodes : List Text → TokenReader (List Node)) : TokenReader Node := do
  let line ← line
  if ← acceptWord "for" then
    loop nodes line
  else if ← acceptWord "if" then
    branch nodes ((← fuel) + 1) line
  else
    stop

/-- Whether one of some words comes next. -/
def seesWordIn (words : List Text) : TokenReader Bool := do
  match (← current).token with
  | .name found => return words.contains found
  | _ => return false

/-- Take nodes up to the ending or up to a statement that starts with one of some
words, which stays. -/
def nodes : Nat → List Text → TokenReader (List Node)
  | 0, _ => stop
  | fuel + 1, ends => do
      match (← current).token with
      | .ending => return []
      | .data content =>
          advance
          return .text content :: (← nodes fuel ends)
      | .outputBegin =>
          advance
          let expr ← expression
          expect .outputEnd
          return .output expr :: (← nodes fuel ends)
      | .statementBegin =>
          advance
          if ← seesWordIn ends then
            return []
          else
            let node ← statement (nodes fuel)
            expect .statementEnd
            return node :: (← nodes fuel ends)
      | _ => stop

/-- Take a whole template. -/
def template : TokenReader (List Node) := do
  checkFault
  nodes ((← fuel) + 1) []

end TokenReader

/-- Read a text as a template, or give the reason why it is none. -/
def readTemplate (text : Text) : Except ReadFault (List Node) :=
  match TokenReader.template (tokens text) with
  | .ok (nodes, _) =>
      match refusal? nodes with
      | some fault => .error fault
      | none => .ok nodes
  | .error fault => .error fault

end Template
end SkillNode
