import SkillNode.Markup.Encoding
import SkillNode.Markup.Entity

/-!
# Prologs

What may stand before the root element: the XML declaration, comments,
processing instructions and a document type with declarations. Of the
declarations only those of entities are understood. A declaration of an element,
an attribute or a notation is gone past up to its closing bracket: whether it is
well formed is not looked at, and an attribute that it gives a value by default
does not get that value.
-/

namespace SkillNode
namespace Markup

/-- What an XML declaration says. -/
structure XmlDeclaration where
  encodingName? : Option Text := none
  isStandalone : Bool := false
  deriving DecidableEq, Repr

namespace Reader

/-- Take a text in quotes whose characters are of a class. -/
def quotedOf (class? : Char → Bool) : Reader Text := do
  if ← accept ['"'] then
    let taken ← takeWhile class?
    expect ['"']
    return taken
  else
    expect ['\'']
    let taken ← takeWhile class?
    expect ['\'']
    return taken

/-- A version number of the first edition: one, a point, and digits. -/
def isVersion (version : Text) : Bool :=
  match version with
  | '1' :: '.' :: rest => rest.all Char.isDigit
  | _ => false

/-- An encoding name: a letter, then letters, digits, points, dashes and
underscores. -/
def isEncodingName : Text → Bool
  | [] => false
  | c :: rest => c.isAlpha && rest.all fun d => d.isAlphanum || d = '.' || d = '_' || d = '-'

/-- A character of a version or of an encoding name. -/
def isDeclarationChar (c : Char) : Bool := c.isAlphanum || c = '.' || c = '_' || c = '-'

/-- Take the encoding of an XML declaration if it comes next. -/
def encodingDeclaration? : Reader (Option Text) := do
  if ← accept "encoding" then
    equals
    let found ← quotedOf isDeclarationChar
    require (isEncodingName found)
    return some found
  else
    return none

/-- Take the standalone declaration if it comes next. -/
def standaloneDeclaration : Reader Bool := do
  if ← accept "standalone" then
    equals
    let found ← quotedOf Char.isAlpha
    require (found = "yes" || found = "no")
    return found = "yes"
  else
    return false

/-- Take the XML declaration, which ends the reading unless its encoding is
acceptable. -/
def xmlDeclaration (acceptable : Text → Bool) : Reader XmlDeclaration := do
  expect "<?xml"
  requireSpaces
  expect "version"
  equals
  let version ← quotedOf isDeclarationChar
  require (isVersion version)
  let spaced ← spaces
  if ← accept "?>" then
    return {}
  else
    require spaced
    let encodingName? ← encodingDeclaration?
    require ((encodingName?.map acceptable).getD true)
    let spacedAgain ← spaces
    if ← accept "?>" then
      return { encodingName? := encodingName? }
    else
      require (encodingName?.isNone || spacedAgain)
      let isStandalone ← standaloneDeclaration
      let _ ← spaces
      expect "?>"
      return { encodingName? := encodingName?, isStandalone := isStandalone }

/-- Whether an XML declaration comes next. -/
def seesXmlDeclaration : Reader Bool := do
  match Text.afterPrefix? "<?xml" (← remaining) with
  | some (c :: _) => return isSpace c
  | _ => return false

/-- Take the XML declaration if there is one. -/
def optionalXmlDeclaration (acceptable : Text → Bool) : Reader XmlDeclaration := do
  if ← seesXmlDeclaration then xmlDeclaration acceptable else return {}

/-! ## Comments and instructions -/

/-- The text of a comment from its first character outside ASCII on. -/
def fromForeign (piece : Text) : Text := piece.dropWhile fun c => c.toNat < 128 && c ≠ '\r'

/-- Stop in a comment after a piece of its text. The piece is quoted at two dashes
if all of it is ASCII, and at the end of the document if at least three
characters stand from its first other character on. -/
def stopInComment (piece : Text) : Reader Unit := do
  if ← sees "--" then
    if (fromForeign piece).isEmpty then stopInside "<!--" piece else stop
  else if (← remaining).isEmpty && 3 ≤ (fromForeign piece).length then
    stopInside "\n<!--" (piece.take (piece.length - 2))
  else
    stop

/-- Take a comment, in which two dashes stand at the end only. -/
def comment : Reader Unit := do
  expect "<!--"
  let piece := beforeEnding "--" (← remaining)
  skip piece.length
  if ← accept "-->" then return () else stopInComment piece

/-- Take a processing instruction and give its target, which is not `xml`. -/
def instruction : Reader Text := do
  expect "<?"
  let target ← plainName
  require (target.map Char.toLower ≠ "xml" && !(← sees ":"))
  if ← accept "?>" then
    return target
  else
    requireSpaces
    let _ ← takeThrough "?>"
    return target

/-- Take comments, instructions and white space as long as they come. -/
def miscellany : Nat → Reader Unit
  | 0 => stop
  | fuel + 1 => do
      let _ ← spaces
      if ← sees "<?" then
        let _ ← instruction
        miscellany fuel
      else if ← sees "<!--" then
        comment
        miscellany fuel
      else
        return ()

/-! ## Document types -/

/-- Take an external identifier if one comes next, and say whether one did. -/
def externalId : Reader Bool := do
  if ← accept "SYSTEM" then
    requireSpaces
    let _ ← quoted
    return true
  else if ← accept "PUBLIC" then
    requireSpaces
    let _ ← quoted
    requireSpaces
    let _ ← quoted
    return true
  else
    return false

/-- Take an entity value and give its replacement text. -/
def entityValue : Reader Text := do
  let written ← quoted
  ofOption (replacementOf? (written.length + 1) written)

/-- Take the declaration of an entity. A parameter entity declares nothing that
content may refer to. -/
def entityDeclaration (declarations : Declarations) : Reader Declarations := do
  expect "<!ENTITY"
  requireSpaces
  let isParameter ← accept "%"
  if isParameter then
    requireSpaces
  let found ← plainName
  require (!(← sees ":"))
  requireSpaces
  let atQuote := (← peek?) = some '"' || (← peek?) = some '\''
  let body ←
    if atQuote then
      EntityBody.internal <$> entityValue
    else do
      require (← externalId)
      let _ ← spaces
      if ← accept "NDATA" then
        requireSpaces
        let _ ← name
      pure EntityBody.external
  let _ ← spaces
  expect ">"
  return if isParameter then declarations else declarations.declare found body

/-- Take a declaration of another kind up to its closing bracket, whatever it says. -/
def otherDeclaration : Nat → Reader Unit
  | 0 => stop
  | fuel + 1 => do
      let _ ← takeWhile fun c => isAllowed c && c ≠ '"' && c ≠ '\'' && c ≠ '>' && c ≠ '<'
      if ← accept ">" then
        return ()
      else
        let _ ← quoted
        otherDeclaration fuel

/-- Take the declarations inside a document type up to the closing bracket. -/
def internalSubset : Nat → Declarations → Reader Declarations
  | 0, _ => stop
  | fuel + 1, declarations => do
      let _ ← spaces
      if ← accept "]" then
        return declarations
      else if ← sees "<!ENTITY" then
        internalSubset fuel (← entityDeclaration declarations)
      else if ← sees "<!--" then
        comment
        internalSubset fuel declarations
      else if ← sees "<?" then
        let _ ← instruction
        internalSubset fuel declarations
      else if (← sees "<!ELEMENT") || (← sees "<!ATTLIST") || (← sees "<!NOTATION") then
        skip 2
        otherDeclaration ((← remaining).length + 1)
        internalSubset fuel declarations
      else
        expect "%"
        let _ ← name
        expect ";"
        internalSubset fuel { declarations with isComplete := false }

/-- Take a document type if one comes next and give the entities it declares. -/
def documentType (isStandalone : Bool) : Reader Declarations := do
  if ← accept "<!DOCTYPE" then
    let _ ← spaces
    let _ ← name
    let _ ← spaces
    let isExternal ← externalId
    let _ ← spaces
    let start : Declarations := { isComplete := !isExternal }
    let declarations ←
      if ← accept "[" then
        internalSubset ((← remaining).length + 1) start
      else
        pure start
    let _ ← spaces
    expect ">"
    return { declarations with isComplete := isStandalone || declarations.isComplete }
  else
    return {}

end Reader

end Markup
end SkillNode
