import SkillNode.Text.Basic

/-!
# Characters of markup

The characters that a document may hold, the white space between its pieces,
and the characters of names, as the fifth edition of XML 1.0 gives them.
-/

namespace SkillNode
namespace Markup

/-- White space between the pieces of markup. -/
def isSpace (c : Char) : Bool := c = ' ' || c = '\t' || c = '\n' || c = '\r'

/-- A character that a document may hold. -/
def isAllowed (c : Char) : Bool :=
  isSpace c || (0x20 ≤ c.toNat && c.toNat ≤ 0xFFFD) || 0x10000 ≤ c.toNat

/-- The first character of a name. -/
def isNameStart (c : Char) : Bool :=
  let code := c.toNat
  c.isAlpha || c = '_' || c = ':' || (0xC0 ≤ code && code ≤ 0xD6) ||
    (0xD8 ≤ code && code ≤ 0xF6) || (0xF8 ≤ code && code ≤ 0x2FF) ||
    (0x370 ≤ code && code ≤ 0x37D) || (0x37F ≤ code && code ≤ 0x1FFF) ||
    (0x200C ≤ code && code ≤ 0x200D) || (0x2070 ≤ code && code ≤ 0x218F) ||
    (0x2C00 ≤ code && code ≤ 0x2FEF) || (0x3001 ≤ code && code ≤ 0xD7FF) ||
    (0xF900 ≤ code && code ≤ 0xFDCF) || (0xFDF0 ≤ code && code ≤ 0xFFFD) ||
    (0x10000 ≤ code && code ≤ 0xEFFFF)

/-- A later character of a name. -/
def isNameRest (c : Char) : Bool :=
  let code := c.toNat
  isNameStart c || c.isDigit || c = '-' || c = '.' || code = 0xB7 ||
    (0x300 ≤ code && code ≤ 0x36F) || (0x203F ≤ code && code ≤ 0x2040)

/-- The name at the start of a text, empty if none starts there. -/
def leadingName : Text → Text
  | [] => []
  | c :: rest => if isNameStart c then c :: rest.takeWhile isNameRest else []

/-- The name without colon at the start of a text, empty if none starts there. -/
def leadingPlainName (text : Text) : Text := (leadingName text).takeWhile (· ≠ ':')

end Markup
end SkillNode
