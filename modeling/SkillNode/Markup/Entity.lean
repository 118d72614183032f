import SkillNode.Markup.Cursor

/-!
# Entities

References stand for characters, for one of five predefined texts, or for an
entity that the document declares. Inside an attribute value an entity is
expanded, as deep as its declarations go; it may not bring in a start tag, an
external text or itself.

A document that leaves declarations to another file may refer to entities that
it does not declare; such a reference stands for nothing.
-/

namespace SkillNode
namespace Markup

/-- What a declared entity stands for. -/
inductive EntityBody
  | internal (replacement : Text)
  | external
  deriving DecidableEq, Repr

/-- The entities that a document declares, the first declaration of a name first,
and whether it declares all that it may refer to. -/
structure Declarations where
  entities : List (Text × EntityBody) := []
  isComplete : Bool := true
  deriving DecidableEq, Repr

namespace Declarations

/-- What the first declaration of a name says. -/
def find? (declarations : Declarations) (name : Text) : Option EntityBody :=
  (declarations.entities.find? (·.1 = name)).map (·.2)

/-- Add a declaration after the earlier ones. -/
def declare (declarations : Declarations) (name : Text) (body : EntityBody) : Declarations :=
  { declarations with entities := declarations.entities ++ [(name, body)] }

/-- Total length of the replacement texts. It bounds the references along any
chain of entities that does not come back to itself. -/
def totalLength (declarations : Declarations) : Nat :=
  declarations.entities.foldr
    (fun
      | (_, .internal replacement), total => replacement.length + total
      | (_, .external), total => total)
    0

end Declarations

/-- The character of a predefined entity. -/
def predefined? (name : Text) : Option Char :=
  if name = "lt" then some '<'
  else if name = "gt" then some '>'
  else if name = "amp" then some '&'
  else if name = "quot" then some '"'
  else if name = "apos" then some '\''
  else none

/-! ## References to characters -/

/-- The value of a hexadecimal digit. -/
def hexValue? (c : Char) : Option Nat :=
  if c.isDigit then some (c.toNat - '0'.toNat)
  else if 'a' ≤ c && c ≤ 'f' then some (c.toNat - 'a'.toNat + 10)
  else if 'A' ≤ c && c ≤ 'F' then some (c.toNat - 'A'.toNat + 10)
  else none

/-- The number that digits of a base write after a number written so far. -/
def numberAfter? (base number : Nat) : Text → Option Nat
  | [] => some number
  | c :: rest =>
      match hexValue? c with
      | some digit => if digit < base then numberAfter? base (number * base + digit) rest else none
      | none => none

/-- The code point that a numeric reference writes: decimal, or hexadecimal after
an x. -/
def codeOf? : Text → Option Nat
  | 'x' :: digits => numberAfter? 16 0 digits
  | digits => numberAfter? 10 0 digits

/-- The character of a numeric reference, if documents may hold it. -/
def characterOf? (digits : Text) : Option Char :=
  match codeOf? digits with
  | some code =>
      if code.isValidChar && isAllowed (Char.ofNat code) then some (Char.ofNat code) else none
  | none => none

/-! ## Expansion inside attribute values -/

/-- Replace the references of a replacement text by what they stand for. It is
none for a start tag, an unfit reference, and when the fuel ends. -/
def expand (declarations : Declarations) : Nat → Text → Option Text
  | 0, _ => none
  | fuel + 1, text =>
      let plain := Text.before '&' text
      if '<' ∈ plain then
        none
      else
        match Text.after? '&' text with
        | none => some plain
        | some rest =>
            match Text.after? ';' rest with
            | none => none
            | some tail =>
                let value? : Option Text :=
                  match Text.before ';' rest with
                  | '#' :: digits => (characterOf? digits).map ([·])
                  | name =>
                      match predefined? name with
                      | some c => some [c]
                      | none =>
                          match declarations.find? name with
                          | some (.internal replacement) => expand declarations fuel replacement
                          | some .external => none
                          | none => if declarations.isComplete then none else some []
                match value? with
                | some value => (expand declarations fuel tail).map (plain ++ value ++ ·)
                | none => none

/-- What a declared entity stands for inside an attribute value. -/
def Declarations.expansion? (declarations : Declarations) (replacement : Text) : Option Text :=
  expand declarations (declarations.totalLength + 1) replacement

namespace Reader

/-- Go on with a value that has to be there. -/
def ofOption {α : Type} : Option α → Reader α
  | some value => pure value
  | none => stop

/-- Take a numeric reference. -/
def characterReference : Reader Char := do
  expect "&#"
  let digits ← takeWhile Char.isAlphanum
  expect ";"
  ofOption (characterOf? digits)

/-- Take a reference to an entity and give its name. -/
def entityReference : Reader Text := do
  expect "&"
  let found ← name
  expect ";"
  return found

/-- Take a reference inside an attribute value and give what it stands for. -/
def attributeReference (declarations : Declarations) : Reader Text := do
  if ← sees "&#" then
    return [← characterReference]
  else
    let found ← entityReference
    match predefined? found with
    | some c => return [c]
    | none =>
        match declarations.find? found with
        | some (.internal replacement) => ofOption (declarations.expansion? replacement)
        | some .external => stop
        | none =>
            require (!declarations.isComplete)
            return []

/-- A character that stands for itself in an attribute value inside a quote. -/
def isPlainIn (quote c : Char) : Bool :=
  isAllowed c && !isSpace c && c ≠ quote && c ≠ '<' && c ≠ '&'

/-- Take the rest of an attribute value and its closing quote. A line break with
or without carriage return and a tab each become a space. -/
def attributeRest (declarations : Declarations) (quote : Char) : Nat → Reader Text
  | 0 => stop
  | fuel + 1 => do
      let plain ← takeWhile (isPlainIn quote)
      if ← accept [quote] then
        return plain
      else if ← sees "&" then
        let value ← attributeReference declarations
        let rest ← attributeRest declarations quote fuel
        return plain ++ value ++ rest
      else
        let atSpace := ((← peek?).map isSpace).getD false
        require atSpace
        if ← sees "\r\n" then
          skip 2
        else
          skip 1
        let rest ← attributeRest declarations quote fuel
        return plain ++ ' ' :: rest

/-- Take an attribute value in quotes of either kind. -/
def attributeValue (declarations : Declarations) : Reader Text := do
  let fuel := (← remaining).length + 1
  if ← accept ['"'] then
    attributeRest declarations '"' fuel
  else
    expect ['\'']
    attributeRest declarations '\'' fuel

end Reader

/-! ## Declarations -/

/-- The replacement text that an entity value declares: numeric references are
replaced and references to entities are kept. -/
def replacementOf? : Nat → Text → Option Text
  | 0, _ => none
  | fuel + 1, text =>
      let plain := Text.before '&' text
      if '%' ∈ plain then
        none
      else
        match Text.after? '&' text with
        | none => some plain
        | some rest =>
            match Text.after? ';' rest with
            | none => none
            | some tail =>
                let value? : Option Text :=
                  match Text.before ';' rest with
                  | '#' :: digits => (characterOf? digits).map ([·])
                  | name =>
                      if !name.isEmpty && leadingName name = name then
                        some ('&' :: name ++ [';'])
                      else
                        none
                match value? with
                | some value => (replacementOf? fuel tail).map (plain ++ value ++ ·)
                | none => none

end Markup
end SkillNode
