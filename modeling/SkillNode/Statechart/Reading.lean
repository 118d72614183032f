import SkillNode.Statechart.Extraction
import SkillNode.Markup.Reader
import SkillNode.FileTree.Path

/-!
# Reading behaviour descriptions

A behaviour description is read from the bytes of a file or from a text held in
memory, which stands for its UTF-8 bytes. A skill without a name is called after
the stem of the path of its file, and after the stem of its source if it is a text.

A reader remembers what it took from the last document, also when that reading
failed. Bytes that are no document change nothing of it.
-/

namespace SkillNode
namespace Statechart

open Markup (Converters Document)

/-- The error of bytes that are no document. -/
def documentError (source : Text) (line : Nat) (quote : Text) : Error :=
  ⟨source, [], some line, .malformed quote⟩

/-- The error of a file that cannot be read. -/
def unreadableError (source : Text) : Error := ⟨source, [], none, .unreadable⟩

/-- The extraction from a document of a source. A skill without a name is called by the fallback
name. -/
def extractDocument (source fallbackName : Text) (document : Document) (memory : Memory := {}) :
    Extraction :=
  (Outline.ofDocument document).extract source fallbackName memory

/-- Read a text held in memory, unless it is no document. -/
def readText (source text : Text) (memory : Memory := {}) (converters : Converters := .none) :
    Except Error Extraction :=
  match Document.read (Text.utf8 text) converters with
  | .ok document =>
      .ok (extractDocument source (FileTree.Path.ofText source).stem document memory)
  | .error (.malformed line quote) => .error (documentError source line quote)
  | .error (.undecodable line) => .error (documentError source line [])

/-- Read the bytes of a file, unless they are no document. Bytes that cannot be
decoded make the file unreadable. -/
def readFile (source fallbackName : Text) (bytes : Bytes) (converters : Converters := .none) :
    Except Error Extraction :=
  match Document.read bytes converters with
  | .ok document => .ok (extractDocument source fallbackName document)
  | .error (.malformed line quote) => .error (documentError source line quote)
  | .error (.undecodable _) => .error (unreadableError source)

/-- The model or the error of a reading. -/
def outcomeOf : Except Error Extraction → Except Error RawModel
  | .ok extraction => extraction.outcome
  | .error error => .error error

/-- The log of a reading. -/
def logOf : Except Error Extraction → Log
  | .ok extraction => extraction.log
  | .error _ => []

/-- The source of a text that was given none. -/
def unnamedSource : Text := "<string>"

/-- What a reader remembers after a reading. -/
def Memory.after (memory : Memory) : Except Error Extraction → Memory
  | .error _ => memory
  | .ok extraction => extraction.memory

end Statechart
end SkillNode
