import SkillNode.Text.Basic

/-!
# References to resources

The form of a URI reference, which every namespace name has to have: an
optional scheme, an optional authority, a path, an optional query and an
optional fragment, each of its own characters or of percent escapes.
-/

namespace SkillNode
namespace Markup
namespace UriReference

/-- A hexadecimal digit. -/
def isHexDigit (c : Char) : Bool :=
  c.isDigit || ('a' ≤ c && c ≤ 'f') || ('A' ≤ c && c ≤ 'F')

/-- A character of registered names: unreserved, or a delimiter inside parts. -/
def isNameChar (c : Char) : Bool :=
  c.isAlphanum || c ∈ ("-._~!$&'()*+,;=" : Text)

/-- A character of user information. -/
def isUserChar (c : Char) : Bool := isNameChar c || c = ':'

/-- A character of a path. -/
def isPathChar (c : Char) : Bool := isNameChar c || c = ':' || c = '@' || c = '/'

/-- A character of a query. -/
def isQueryChar (c : Char) : Bool := isPathChar c || c = '?'

/-- A character of a fragment. -/
def isFragmentChar (c : Char) : Bool := isQueryChar c || c = '[' || c = ']'

/-- A text of characters of a class and of percent escapes. -/
def isWithin (class? : Char → Bool) : Text → Bool
  | [] => true
  | '%' :: first :: second :: rest => isHexDigit first && isHexDigit second && isWithin class? rest
  | c :: rest => class? c && isWithin class? rest

/-- A host, perhaps with a colon and at least one digit after it. -/
def isNumberedHost (text : Text) : Bool :=
  let (host, rest) :=
    if text.head? = some '[' then
      (['['], (text.dropWhile (· ≠ ']')).drop 1)
    else
      (text.takeWhile (· ≠ ':'), text.dropWhile (· ≠ ':'))
  let hostIsGood := if text.head? = some '[' then ']' ∈ text else isWithin isNameChar host
  hostIsGood &&
    match rest with
    | [] => true
    | ':' :: digits => !digits.isEmpty && digits.all Char.isDigit
    | _ => false

/-- An authority: a host after optional user information. -/
def isAuthority (text : Text) : Bool :=
  match Text.after? '@' text with
  | some host => isWithin isUserChar (Text.before '@' text) && isNumberedHost host
  | none => isNumberedHost text

/-- The part between scheme and query: an authority and a path, or a path. -/
def isHierarchy (text : Text) : Bool :=
  match Text.afterPrefix? "//" text with
  | some rest =>
      isAuthority (Text.before '/' rest) && isWithin isPathChar (rest.dropWhile (· ≠ '/'))
  | none => isWithin isPathChar text

/-- A scheme: a letter, then letters, digits and three marks. -/
def isScheme : Text → Bool
  | [] => false
  | c :: rest => c.isAlpha && rest.all fun d => d.isAlphanum || d ∈ ("+-." : Text)

/-- A reference without query and fragment, with a scheme or relative. The first
segment of a relative path holds no colon. -/
def isWithoutQuery (text : Text) : Bool :=
  let absolute :=
    match Text.after? ':' text with
    | some rest => isScheme (Text.before ':' text) && isHierarchy rest
    | none => false
  absolute || (isHierarchy text && (text.head? = some '/' || ':' ∉ Text.before '/' text))

/-- A text of the form of a URI reference. -/
def isValid (text : Text) : Bool :=
  let withoutFragment := Text.before '#' text
  isWithoutQuery (Text.before '?' withoutFragment) &&
    isWithin isQueryChar ((Text.after? '?' withoutFragment).getD []) &&
    isWithin isFragmentChar ((Text.after? '#' text).getD [])

end UriReference
end Markup
end SkillNode
