import SkillNode.Text.Letter
import SkillNode.Text.Quoted.Invisible

/-!
# Quoted text

How a text is written where it has to be told from what stands around it: in
single quotes, or in double quotes if it holds single quotes only; backslashes,
the quote, and characters without a visible form are escaped.
-/

namespace SkillNode
namespace Text

/-- Whether a character has no visible form. -/
def isInvisible (c : Char) : Bool :=
  c.toNat < 0x20 || c.toNat = 0x7F || inRanges invisibleRanges c.toNat

/-- The escape of a character by its code point. -/
def codeEscape (c : Char) : Text :=
  if c.toNat < 0x100 then '\\' :: 'x' :: hexadecimal 2 c.toNat
  else if c.toNat < 0x10000 then '\\' :: 'u' :: hexadecimal 4 c.toNat
  else '\\' :: 'U' :: hexadecimal 8 c.toNat

/-- A character inside a quote. -/
def quotedChar (quote c : Char) : Text :=
  if c = quote || c = '\\' then ['\\', c]
  else if c = '\n' then ['\\', 'n']
  else if c = '\r' then ['\\', 'r']
  else if c = '\t' then ['\\', 't']
  else if isInvisible c then codeEscape c
  else [c]

/-- A text in quotes. -/
def quoted (text : Text) : Text :=
  let quote := if '\'' ∈ text && '"' ∉ text then '"' else '\''
  quote :: text.flatMap (quotedChar quote) ++ [quote]

end Text
end SkillNode
