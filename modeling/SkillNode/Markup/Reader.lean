import SkillNode.Markup.Prolog
import SkillNode.Markup.StartTag

/-!
# Reading documents

A document is a prolog, a root element and nothing but comments, instructions
and white space after it. Its content is read piece by piece with the open
elements on a stack, so that the first fault in the order of the text is the one
reported.
-/

namespace SkillNode
namespace Markup

/-- An element whose end tag has not come yet. -/
structure OpenElement where
  name : QualifiedName
  tag : Tag
  /-- The namespaces bound inside the element. -/
  scope : Scope
  /-- The children read so far, the latest first. -/
  children : List Node := []

namespace OpenElement

/-- Put a node after the children read so far. -/
def push (element : OpenElement) (node : Node) : OpenElement :=
  { element with children := node :: element.children }

/-- The element with all its children. -/
def close (element : OpenElement) : Node := .element element.tag element.children.reverse

/-- The name as written in the end tag. -/
def writtenName (element : OpenElement) : Text :=
  match element.name.prefixName? with
  | some prefixName => prefixName ++ ':' :: element.name.localName
  | none => element.name.localName

end OpenElement

/-- The largest number of elements open at once. -/
def maxDepth : Nat := 256

namespace Reader

/-- Take the end tag of an element. -/
def endTag (element : OpenElement) : Reader Unit := do
  expect "</"
  let found ← name
  let _ ← spaces
  expect ">"
  require (found = element.writtenName)

/-- Take characters up to the next markup. The end of a character section does
not stand among them. -/
def characters : Reader Text := do
  let run := (← remaining).takeWhile fun c => c ≠ '<' && c ≠ '&'
  let clean := beforeEnding "]]>" run
  skip clean.length
  require (clean.length = run.length)
  return clean

/-- Take a section of characters that are not markup. -/
def characterSection : Reader Text := do
  expect "<![CDATA["
  let piece := beforeEnding "]]>" (← remaining)
  skip piece.length
  if ← accept "]]>" then
    return piece
  else if piece.length < 2 then
    stop
  else
    stopInside "\n" (piece.take (piece.length - 2))

/-- Take a start tag and its closing bracket: an open element, and whether it is
closed already. -/
def startTag (declarations : Declarations) (outer : Scope) : Reader (OpenElement × Bool) := do
  let written ← writtenTag declarations
  let scope : Scope := written.bindings ++ outer
  let tag ← ofOption (written.resolve? scope (← line))
  let element : OpenElement := { name := written.name, tag := tag, scope := scope }
  if ← accept "/>" then
    return (element, true)
  else
    expect ">"
    return (element, false)

/-- Take a reference in content. One to a declared entity or to one that may be
declared elsewhere is kept as it is, if its replacement text is fit content. -/
def contentReference (declarations : Declarations) (fits : Text → Bool) : Reader Node := do
  if ← sees "&#" then
    return .text [← characterReference]
  else
    let found ← entityReference
    match predefined? found with
    | some c => return .text [c]
    | none =>
        match declarations.find? found with
        | some (.internal replacement) => require (fits replacement)
        | some .external => pure ()
        | none => require (!declarations.isComplete)
        return .reference found

/-- Take content up to the end tag of the outermost open element. -/
def content (declarations : Declarations) (fits : Text → Bool) :
    Nat → OpenElement → List OpenElement → Reader (List Node)
  | 0, _, _ => stop
  | fuel + 1, element, outer => do
      if ← sees "</" then
        endTag element
        match outer with
        | [] => return element.children.reverse
        | parent :: others => content declarations fits fuel (parent.push element.close) others
      else if ← sees "<!--" then
        comment
        content declarations fits fuel element outer
      else if ← sees "<?" then
        let target ← instruction
        content declarations fits fuel (element.push (.instruction target)) outer
      else if ← sees "<![CDATA[" then
        let text ← characterSection
        content declarations fits fuel (element.push (.text text)) outer
      else if ← sees "<" then
        require (outer.length < maxDepth)
        let (inner, isClosed) ← startTag declarations element.scope
        if isClosed then
          content declarations fits fuel (element.push inner.close) outer
        else
          content declarations fits fuel inner (element :: outer)
      else if ← sees "&" then
        let node ← contentReference declarations fits
        content declarations fits fuel (element.push node) outer
      else
        require (← peek?).isSome
        let text ← characters
        content declarations fits fuel (element.push (.text text)) outer

/-- A name that stands for the element around a replacement text. -/
def wrapperName : Text := "entity"

/-- Whether a replacement text is fit content, entities in it looked into up to a
depth. -/
def fitsContent (declarations : Declarations) : Nat → Text → Bool
  | 0, _ => false
  | depth + 1, replacement =>
      let wrapper : OpenElement :=
        { name := ⟨none, wrapperName⟩, tag := ⟨none, wrapperName, [], 1⟩, scope := [] }
      let text : Text := replacement ++ "</" ++ wrapperName ++ ">"
      match content declarations (fitsContent declarations depth) (text.length + 1) wrapper []
          { rest := text } with
      | .ok (_, ending) => ending.rest.isEmpty
      | .error _ => false

/-- How deep entities may stand inside entities. -/
def maxEntityDepth : Nat := 40

/-- Take a whole document whose encoding, if it declares one, is acceptable. -/
def document (acceptable : Text → Bool) : Reader Document := do
  let fuel := (← remaining).length + 1
  let declaration ← optionalXmlDeclaration acceptable
  miscellany fuel
  let declarations ← documentType declaration.isStandalone
  miscellany fuel
  let (root, isClosed) ← startTag declarations []
  let children ←
    if isClosed then
      pure []
    else
      content declarations (fitsContent declarations maxEntityDepth) fuel root []
  miscellany fuel
  require (← remaining).isEmpty
  return ⟨root.tag, children⟩

end Reader

/-- Read decoded text as a document. -/
def Document.ofDecoded (acceptable : Text → Bool) (decoded : Text.Decoded) :
    Except Fault Document :=
  match Reader.document acceptable { rest := decoded.text, whole := decoded.whole } with
  | .ok (document, ending) => if ending.whole then .ok document else .error ending.fault
  | .error fault => .error fault

/-- The encoding that a document declares, if it does. -/
def declaredEncoding? (text : Text) : Option Text :=
  match Reader.optionalXmlDeclaration (fun _ => true) { rest := text } with
  | .ok (declaration, _) => declaration.encodingName?
  | .error _ => none

/-- Read the bytes of a document. A byte order mark decides the encoding; without
one the declared encoding does, and UTF-8 where none is declared. -/
def Document.read (bytes : Bytes) (converters : Converters := .none) : Except Fault Document :=
  match sniff bytes with
  | (some encoding, rest) => ofDecoded (fun _ => true) (encoding.decode rest converters)
  | (none, rest) =>
      let plain := Text.decodeUtf8 rest
      let declared? := (declaredEncoding? plain.text).bind (Encoding.ofName? · converters)
      ofDecoded (fun name => (Encoding.ofName? name converters).isSome)
        ((declared?.getD .utf8).decode rest converters)

end Markup
end SkillNode
