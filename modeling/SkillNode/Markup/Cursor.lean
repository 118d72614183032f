import SkillNode.Markup.Character
import SkillNode.Text.Line

/-!
# Reading positions

A reader walks over the characters of a document, counts lines, and stops at
the first thing that is not well formed. A stop is reported at the line
reached, or as undecodable where the bytes of the document ended its text.
-/

namespace SkillNode
namespace Markup

/-- Why a document cannot be read. -/
inductive Fault
  /-- The document is not well formed; reading stopped on a line. A piece that
  breaks off is quoted. -/
  | malformed (line : Nat) (quote : Text)
  /-- On a line stands a byte that is no character of the encoding. -/
  | undecodable (line : Nat)
  deriving DecidableEq, Repr

/-- What is left to read, the line and column it starts on, and whether it ends
where the document does and not at a byte that could not be decoded. -/
structure Cursor where
  rest : Text
  line : Nat := 1
  column : Nat := 1
  whole : Bool := true
  deriving DecidableEq, Repr

/-- A reader takes some of the text or stops. -/
abbrev Reader := StateT Cursor (Except Fault)

namespace Cursor

/-- The column after some text that starts on a column. -/
def columnAfter (column : Nat) (text : Text) : Nat :=
  match Text.lineFeeds text with
  | 0 => column + text.length
  | _ => 1 + (text.reverse.takeWhile (· ≠ '\n')).length

/-- The position some characters later. -/
def advance (cursor : Cursor) (count : Nat) : Cursor :=
  let taken := cursor.rest.take count
  { cursor with
    rest := cursor.rest.drop count
    line := cursor.line + Text.lineFeeds taken
    column := columnAfter cursor.column taken }

/-- The fault of a reader that stops here and quotes a text. -/
def faultQuoting (cursor : Cursor) (quote : Text) : Fault :=
  if cursor.rest.isEmpty && !cursor.whole then
    .undecodable cursor.line
  else
    .malformed cursor.line quote

/-- The fault of a reader that stops here. -/
def fault (cursor : Cursor) : Fault := cursor.faultQuoting []

/-- The place of a position in a message. -/
def place (cursor : Cursor) : Text :=
  ", line " ++ Text.ofNat cursor.line ++ ", column " ++ Text.ofNat cursor.column

end Cursor

namespace Reader

/-- Stop here. -/
def stop {α : Type} : Reader α := fun cursor => .error cursor.fault

/-- Largest number of bytes of a quoted piece. -/
def quoteBytes : Nat := 50

/-- The characters of a text whose bytes fit into a number of bytes. -/
def withinBytes : Nat → Text → Text
  | _, [] => []
  | size, c :: rest =>
      if c.utf8Size ≤ size then c :: withinBytes (size - c.utf8Size) rest else []

/-- Stop here because a piece breaks off. The piece is quoted after an opening,
and of the quote the lines after the first are kept, followed by the place. -/
def stopInside {α : Type} (opening piece : Text) : Reader α := fun cursor =>
  let quote := opening ++ withinBytes quoteBytes (Text.withLineFeeds piece) ++ cursor.place
  .error (cursor.faultQuoting (quote.dropWhile (· ≠ '\n')))

/-- Go on only under a condition. -/
def require (condition : Bool) : Reader Unit := if condition then pure () else stop

/-- What is left to read. -/
def remaining : Reader Text := do return (← get).rest

/-- The line reached. -/
def line : Reader Nat := do return (← get).line

/-- The next character. -/
def peek? : Reader (Option Char) := do return (← get).rest.head?

/-- Whether a text comes next. -/
def sees (text : Text) : Reader Bool := do return text.isPrefixOf (← get).rest

/-- Go past some characters. -/
def skip (count : Nat) : Reader Unit := modify (·.advance count)

/-- Go past a text if it comes next, and say whether it did. -/
def accept (text : Text) : Reader Bool := do
  if ← sees text then
    skip text.length
    return true
  else
    return false

/-- Go past a text that has to come next. -/
def expect (text : Text) : Reader Unit := do require (← accept text)

/-- Take the longest beginning of characters of a class. -/
def takeWhile (class? : Char → Bool) : Reader Text := do
  let taken := (← remaining).takeWhile class?
  skip taken.length
  return taken

/-- Go past white space and say whether there was any. -/
def spaces : Reader Bool := do return !(← takeWhile isSpace).isEmpty

/-- Go past white space that has to be there. -/
def requireSpaces : Reader Unit := do require (← spaces)

/-- Take a name, which has to be there. -/
def name : Reader Text := do
  let found := leadingName (← remaining)
  require (!found.isEmpty)
  skip found.length
  return found

/-- Take a name without colon, which has to be there. -/
def plainName : Reader Text := do
  let found := leadingPlainName (← remaining)
  require (!found.isEmpty)
  skip found.length
  return found

/-- The beginning of a text before an ending or before a character that no
document may hold. -/
def beforeEnding (ending : Text) : Text → Text
  | [] => []
  | c :: rest =>
      if ending.isPrefixOf (c :: rest) || !isAllowed c then
        []
      else
        c :: beforeEnding ending rest

/-- Take the text before an ending, which has to come, and go past the ending. -/
def takeThrough (ending : Text) : Reader Text := do
  let taken := beforeEnding ending (← remaining)
  skip taken.length
  expect ending
  return taken

/-- Take a quoted text of any allowed characters. -/
def quoted : Reader Text := do
  match ← peek? with
  | some '"' =>
      skip 1
      takeThrough ['"']
  | some '\'' =>
      skip 1
      takeThrough ['\'']
  | _ => stop

/-- Go past an equals sign with white space around it. -/
def equals : Reader Unit := do
  let _ ← spaces
  expect ['=']
  let _ ← spaces

end Reader

end Markup
end SkillNode
