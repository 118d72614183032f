import SkillNode.Text.Basic

/-!
# String literals of C++

How a text is written between the quotes of a C++ string literal: backslashes
and quotes are escaped by a backslash, and line feeds, carriage returns and
tabs have names.
-/

namespace SkillNode
namespace Cpp

/-- The written form of one character of a literal. -/
def escapeChar : Char → Text
  | '\\' => ['\\', '\\']
  | '"' => ['\\', '"']
  | '\n' => ['\\', 'n']
  | '\r' => ['\\', 'r']
  | '\t' => ['\\', 't']
  | c => [c]

/-- The written form of a text inside a literal. -/
def escape (text : Text) : Text := text.flatMap escapeChar

@[simp] theorem escape_append (left right : Text) :
    escape (left ++ right) = escape left ++ escape right := by
  simp [escape]

end Cpp
end SkillNode
