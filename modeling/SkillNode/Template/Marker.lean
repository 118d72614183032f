import SkillNode.Text.Letter
import SkillNode.Text.Blank

/-!
# Markers and where they stand

A marker is a name between two dollar signs, perhaps with dots and bars in it. A
marker in expanded text is a placeholder that nothing replaced.

The line on which a template uses a name is that of its first dollar sign with
the name after it, or else of the first place where the name stands as a word.
-/

namespace SkillNode
namespace Template

/-! ## Markers -/

/-- A character that may stand inside a marker. -/
def isMarkerCharacter (c : Char) : Bool := Text.isAsciiWord c || c = '.' || c = '|'

/-- The name between the dollar signs of a marker at the start of a text. -/
def markerAt? : Text → Option Text
  | '$' :: rest =>
      let name := rest.takeWhile isMarkerCharacter
      let startsAsName := (name.head?.map Text.isAsciiWordStart).getD false
      if startsAsName && (rest.drop name.length).head? = some '$' then some name else none
  | _ => none

/-- The first marker of a text whose first line has a number: its line and its
name. -/
def firstMarker? (line : Nat) : Text → Option (Nat × Text)
  | [] => none
  | c :: rest =>
      match markerAt? (c :: rest) with
      | some name => some (line, name)
      | none => firstMarker? (if c = '\n' then line + 1 else line) rest

/-! ## Lines of names -/

/-- Whether a character is there and part of a word. -/
def isInWord (c? : Option Char) : Bool := (c?.map Text.isWordCharacter).getD false

/-- Whether a word begins or ends between two characters. -/
def isWordEdge (before? after? : Option Char) : Bool := isInWord before? ≠ isInWord after?

/-- Whether a name stands at the start of a text and no word goes on after it. -/
def startsWithName (name text : Text) : Bool :=
  match Text.afterPrefix? name text with
  | some rest => isWordEdge name.getLast? rest.head?
  | none => false

/-- Whether a dollar sign with a name after it stands at the start of a text. -/
def startsWithPlaceholder (name : Text) : Text → Bool
  | '$' :: rest => startsWithName name (Text.trimStart rest)
  | _ => false

/-- The line of the first place where a test holds of the character before it and
of the text from there on. -/
def firstLine?
    (holds : Option Char → Text → Bool) : Nat → Option Char → Text → Option Nat
  | line, before?, [] => if holds before? [] then some line else none
  | line, before?, c :: rest =>
      if holds before? (c :: rest) then
        some line
      else
        firstLine? holds (if c = '\n' then line + 1 else line) (some c) rest

/-- The line on which a template uses a name. -/
def lineOfName? (template name : Text) : Option Nat :=
  (firstLine? (fun _ rest => startsWithPlaceholder name rest) 1 none template).or
    (firstLine? (fun before? rest => isWordEdge before? rest.head? && startsWithName name rest)
      1 none template)

end Template
end SkillNode
