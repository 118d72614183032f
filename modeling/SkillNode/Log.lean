import SkillNode.Text.Basic

/-!
# Log records

What the generator has to say besides its results: warnings about a
description that is accepted all the same, and details for debugging.
-/

namespace SkillNode

/-- How much a record matters. -/
inductive LogLevel
  | debug
  | warning
  deriving DecidableEq, Repr

/-- The word for a level at the start of a printed record. -/
def LogLevel.word : LogLevel → Text
  | .debug => "DEBUG"
  | .warning => "WARNING"

/-- One record of the log. -/
structure LogRecord where
  level : LogLevel
  message : Text
  deriving DecidableEq, Repr

/-- The records of a run in the order in which they were made. -/
abbrev Log := List LogRecord

namespace LogRecord

/-- A record that warns. -/
def warning (message : Text) : LogRecord := ⟨.warning, message⟩

/-- A record for debugging. -/
def debug (message : Text) : LogRecord := ⟨.debug, message⟩

/-- The printed form of a record. -/
def line (record : LogRecord) : Text := record.level.word ++ ": " ++ record.message

end LogRecord

/-- Where something was found: a source and perhaps a line of it. A source
without a name is called a string. -/
def placeText (source : Text) (line? : Option Int) : Text :=
  let name : Text := if source.isEmpty then "<string>" else source
  match line? with
  | some line => name ++ ":" ++ Text.ofInt line
  | none => name

end SkillNode
