import SkillNode.Text.Integer

/-!
# Command line arguments

A command line names a behaviour description and options. A long option may be cut
short as long as one option alone begins so, and its value may follow an equals
sign. Short options without values may be joined, and the value of a short option
may follow it at once. After two hyphens every word is a value.

The words are first told apart, all of them, and then taken in order; a word that
fits nowhere makes the command line wrong only if nothing ends the run before.
-/

namespace SkillNode
namespace CommandLine

/-! ## Options -/

/-- The options of the command line. -/
inductive OptionName
  | help
  | interfaces
  | outputDir
  | templateDir
  | className
  | serviceTimeout
  | serviceRetries
  | queueSize
  | verbose
  deriving DecidableEq, Repr

/-- How many values follow an option. -/
inductive Arity
  | nothing
  | one
  | oneOrMore
  deriving DecidableEq, Repr

/-- How many values follow an option. -/
def OptionName.arity : OptionName → Arity
  | .help | .verbose => .nothing
  | .interfaces => .oneOrMore
  | _ => .one

/-- The spellings of options. -/
def spellings : List (Text × OptionName) :=
  [("-h", .help), ("--help", .help), ("-i", .interfaces), ("--interfaces", .interfaces),
    ("-o", .outputDir), ("--output-dir", .outputDir), ("-t", .templateDir),
    ("--template-dir", .templateDir), ("--class-name", .className),
    ("--service-timeout-ms", .serviceTimeout), ("--service-retries", .serviceRetries),
    ("--queue-size", .queueSize), ("-v", .verbose), ("--verbose", .verbose)]

/-- The option of a spelling. -/
def optionOf? (spelling : Text) : Option OptionName :=
  (spellings.find? (·.1 = spelling)).map (·.2)

/-- Why a command line is wrong. -/
inductive UsageError
  | ambiguous (word : Text)
  | missingValue (option : OptionName)
  | needlessValue (option : OptionName)
  | notANumber (value : Text)
  | missingDescription
  | unrecognized
  deriving DecidableEq, Repr

/-- The longest spelling of an option. -/
def OptionName.spelling (option : OptionName) : Text :=
  ((spellings.filter (·.2 = option)).getLast?.map (·.1)).getD []

/-- What is said of a wrong command line. -/
def UsageError.message : UsageError → Text
  | .ambiguous word => "ambiguous option: " ++ word
  | .missingValue option => option.spelling ++ " expects a value"
  | .needlessValue option => option.spelling ++ " expects no value"
  | .notANumber value => "invalid integer: " ++ value
  | .missingDescription => "a behaviour description is required"
  | .unrecognized => "unrecognized arguments"

/-- How the program is called. -/
def usageLine : Text :=
  "usage: skill-node [-h] [-i PATH [PATH ...]] [-o OUTPUT_DIR] [-t TEMPLATE_DIR] " ++
    "[--class-name NAME] [--service-timeout-ms N] [--service-retries N] [--queue-size N] [-v] " ++
    "SCXML_FILE"

/-! ## Words -/

/-- The value that is written in one word with an option. -/
structure Attached where
  afterEquals : Bool
  value : Text
  deriving DecidableEq, Repr

/-- What a word of a command line is. -/
inductive Word
  | value (content : Text)
  /-- The two hyphens before words that are all values. -/
  | separator
  /-- An option as it is spelled out. -/
  | option (name : OptionName) (isShort : Bool) (attached? : Option Attached)
  /-- A word that looks like an option but is none. -/
  | unknown
  deriving DecidableEq, Repr

/-- Whether a text is a number after a minus sign, perhaps with a point and a line
break. -/
def isNegativeNumber : Text → Bool
  | '-' :: rest =>
      let body := if rest.getLast? = some '\n' then rest.dropLast else rest
      let isDigits (digits : Text) : Bool :=
        !digits.isEmpty && digits.all fun c => (Text.decimalValue? c).isSome
      isDigits body ||
        match Text.after? '.' body with
        | some fraction =>
            ((Text.before '.' body).isEmpty || isDigits (Text.before '.' body)) &&
              isDigits fraction
        | none => false
  | _ => false

/-- Whether a spelling is that of a short option. -/
def isShortSpelling (spelling : Text) : Bool := spelling.length = 2 && spelling ≠ "--"

/-- The options that a word which is no full spelling can stand for: those that a
long word begins, or the short one at the start of a short word. -/
def candidates (word : Text) : List Word :=
  match word with
  | '-' :: '-' :: _ =>
      let start := Text.before '=' word
      let attached? := (Text.after? '=' word).map (Attached.mk true)
      (spellings.filter fun (spelling, _) => start.isPrefixOf spelling).map
        fun (_, name) => .option name false attached?
  | first :: second :: rest =>
      (spellings.filter fun (spelling, _) => spelling = [first, second]).map
        fun (_, name) => .option name true (some ⟨false, rest⟩)
  | _ => []

/-- What a word before the two hyphens is. -/
def wordOf (word : Text) : Except UsageError Word :=
  if word.head? ≠ some '-' then
    .ok (.value word)
  else
    match optionOf? word with
    | some name => .ok (.option name (isShortSpelling word) none)
    | none =>
        if word = "-" then
          .ok (.value word)
        else
          match Text.after? '=' word, optionOf? (Text.before '=' word) with
          | some value, some name =>
              .ok (.option name (isShortSpelling (Text.before '=' word)) (some ⟨true, value⟩))
          | _, _ =>
              match candidates word with
              | [only] => .ok only
              | _ :: _ :: _ => .error (.ambiguous word)
              | [] =>
                  if isNegativeNumber word || ' ' ∈ word then
                    .ok (.value word)
                  else
                    .ok .unknown

/-- What the words of a command line are. -/
def wordsOf : List Text → Except UsageError (List Word)
  | [] => .ok []
  | word :: rest =>
      if word = "--" then
        .ok (.separator :: rest.map .value)
      else do
        let first ← wordOf word
        return first :: (← wordsOf rest)

/-! ## Taking words -/

/-- What a command line asks for. -/
structure Arguments where
  description : Text
  interfaces : List Text := []
  outputDir : Text := "."
  templateDir? : Option Text := none
  className? : Option Text := none
  serviceTimeout : Int := 1000
  serviceRetries : Int := 10
  queueSize : Int := 10
  isVerbose : Bool := false
  deriving DecidableEq, Repr

/-- Why the taking of words ends early. -/
inductive Stop
  | help
  | usage (error : UsageError)
  deriving DecidableEq, Repr

/-- An option with the values that were given to it. -/
structure Setting where
  name : OptionName
  values : List Text
  deriving DecidableEq, Repr

/-- What was taken so far: the arguments, whether they name a description, and
whether a word fitted nowhere. -/
structure Taken where
  arguments : Arguments := { description := [] }
  hasDescription : Bool := false
  hasExtra : Bool := false
  deriving DecidableEq, Repr

/-- A value that has to be an integer. -/
def numberOf (value : Text) : Except Stop Int :=
  match Text.integer? value with
  | some number => .ok number
  | none => .error (.usage (.notANumber value))

/-- Arguments with a setting. -/
def Arguments.set (arguments : Arguments) (setting : Setting) : Except Stop Arguments :=
  let value := setting.values.headD []
  match setting.name with
  | .help => .error .help
  | .interfaces => .ok { arguments with interfaces := setting.values }
  | .outputDir => .ok { arguments with outputDir := value }
  | .templateDir => .ok { arguments with templateDir? := some value }
  | .className => .ok { arguments with className? := some value }
  | .serviceTimeout =>
      (numberOf value).map fun number => { arguments with serviceTimeout := number }
  | .serviceRetries =>
      (numberOf value).map fun number => { arguments with serviceRetries := number }
  | .queueSize => (numberOf value).map fun number => { arguments with queueSize := number }
  | .verbose => .ok { arguments with isVerbose := true }

/-- Arguments with settings in order. -/
def Arguments.setAll (arguments : Arguments) : List Setting → Except Stop Arguments
  | [] => .ok arguments
  | setting :: rest => do (← arguments.set setting).setAll rest

/-- The values at the start of some words, and the words after them. -/
def leadingValues : List Word → List Text × List Word
  | .value content :: rest =>
      let (values, after) := leadingValues rest
      (content :: values, after)
  | rest => ([], rest)

/-- Settings of one word and the words after it, and whether a part of the word
fitted nowhere. -/
structure Reading where
  settings : List Setting
  rest : List Word
  hasExtra : Bool := false

/-- Read an option whose values are in the words after it. -/
def readFollowing (name : OptionName) (rest : List Word) : Except UsageError Reading :=
  match name.arity with
  | .nothing => .ok { settings := [⟨name, []⟩], rest := rest }
  | .one =>
      match rest with
      | .value content :: rest => .ok { settings := [⟨name, [content]⟩], rest := rest }
      | _ => .error (.missingValue name)
  | .oneOrMore =>
      match leadingValues rest with
      | ([], _) => .error (.missingValue name)
      | (values, rest) => .ok { settings := [⟨name, values⟩], rest := rest }

/-- Read short options that are joined in one word after a hyphen. -/
def readJoined (rest : List Word) : Text → Except UsageError Reading
  | [] => .ok { settings := [], rest := rest }
  | c :: joined =>
      match optionOf? ['-', c] with
      | none => .ok { settings := [], rest := rest, hasExtra := true }
      | some name =>
          match joined with
          | [] => readFollowing name rest
          | mark :: more =>
              if name.arity = .nothing then
                if mark = '=' || mark = '-' then
                  .error (.needlessValue name)
                else
                  (readJoined rest (mark :: more)).map fun reading =>
                    { reading with settings := ⟨name, []⟩ :: reading.settings }
              else
                .ok {
                  settings := [⟨name, [if mark = '=' then more else mark :: more]⟩]
                  rest := rest }

/-- Read an option with the value attached to it, or with the values after it. -/
def readOption (name : OptionName) (isShort : Bool) (attached? : Option Attached)
    (rest : List Word) : Except UsageError Reading :=
  match attached? with
  | none => readFollowing name rest
  | some ⟨afterEquals, value⟩ =>
      if name.arity = .nothing then
        if isShort && !afterEquals && !value.isEmpty && value.head? ≠ some '-' then
          (readJoined rest value).map fun reading =>
            { reading with settings := ⟨name, []⟩ :: reading.settings }
        else
          .error (.needlessValue name)
      else
        .ok { settings := [⟨name, [value]⟩], rest := rest }

/-- Take a value as the description, if there is none yet. -/
def Taken.describe (taken : Taken) (content : Text) : Taken :=
  { taken with
    arguments := { taken.arguments with description := content }
    hasDescription := true }

/-- Take words in order. -/
def takeWords : Nat → Taken → List Word → Except Stop Taken
  | 0, taken, _ => .ok taken
  | _ + 1, taken, [] => .ok taken
  | fuel + 1, taken, word :: rest =>
      match word with
      | .option name isShort attached? =>
          match readOption name isShort attached? rest with
          | .error error => .error (.usage error)
          | .ok reading => do
              let arguments ← taken.arguments.setAll reading.settings
              takeWords fuel
                { taken with
                  arguments := arguments
                  hasExtra := taken.hasExtra || reading.hasExtra }
                reading.rest
      | .value content =>
          if taken.hasDescription then
            takeWords fuel { taken with hasExtra := true } rest
          else
            let after :=
              match rest with
              | .separator :: rest => rest
              | rest => rest
            takeWords fuel (taken.describe content) after
      | .separator =>
          match rest with
          | .value content :: rest =>
              if taken.hasDescription then
                takeWords fuel { taken with hasExtra := true } rest
              else
                takeWords fuel (taken.describe content) rest
          | rest => takeWords fuel { taken with hasExtra := true } rest
      | .unknown => takeWords fuel { taken with hasExtra := true } rest

/-- What the words of a command line ask for. -/
def Arguments.ofWords (words : List Word) : Except Stop Arguments := do
  let taken ← takeWords words.length {} words
  if !taken.hasDescription then
    throw (.usage .missingDescription)
  else if taken.hasExtra then
    throw (.usage .unrecognized)
  else
    return taken.arguments

/-- What a command line asks for. -/
def Arguments.ofTexts (texts : List Text) : Except Stop Arguments :=
  match wordsOf texts with
  | .error error => .error (.usage error)
  | .ok words => ofWords words

end CommandLine
end SkillNode
