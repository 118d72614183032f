import SkillNode.CommandLine.Arguments
import SkillNode.Generation.Writing
import SkillNode.Pipeline

/-!
# The command line program

The program checks the arguments, loads the interfaces, reads the behaviour
description, tells of what it found, generates the sources, and writes them. A
failure on the way ends it with a message, and nothing is written. There are
failures that the program has no answer to: it breaks off then, without an exit
code of its own.
-/

namespace SkillNode
namespace CommandLine

open FileTree (Path Tree)
open Generation (Options Sources)
open Interface (Catalog)
open Markup (Converters)
open Statechart (RawModel TypedModel)
open Template (Folder)

/-! ## What the arguments stand for -/

/-- The settings that arguments ask for. -/
def Arguments.options (arguments : Arguments) : Options where
  className? := arguments.className?
  serviceWaitTimeoutMs := arguments.serviceTimeout
  serviceMaxRetries := arguments.serviceRetries
  subscriptionQueueSize := arguments.queueSize

/-- A directory of a tree as a folder of templates. -/
def folderAt (tree : Tree) (path : Path) : Folder where
  path := path.text
  content? parts :=
    match tree.read { path with parts := path.parts ++ parts } with
    | .ok content => some (Text.ofUtf8 content)
    | .error _ => none

/-- The folder of templates that arguments ask for. -/
def Arguments.folder (arguments : Arguments) (tree : Tree) : Folder :=
  match arguments.templateDir? with
  | some (c :: rest) => folderAt tree (Path.ofText (c :: rest))
  | _ => Generation.bundledFolder

/-! ## Steps -/

/-- What is read before anything is generated. -/
structure Loaded where
  catalog : Catalog
  model : RawModel

/-- Load the interfaces and read the behaviour description. -/
def load (tree : Tree) (arguments : Arguments) (converters : Converters := .none) :
    Run Loaded := do
  let catalog ← Catalog.load tree (arguments.interfaces.map Path.ofText)
  let model ← Statechart.ofFile tree (Path.ofText arguments.description) converters
  return ⟨catalog, model⟩

/-- The lines about what was read. -/
def Loaded.report (loaded : Loaded) : List Text :=
  let services := loaded.model.endpoints.countP (·.isService)
  let topics := loaded.model.endpoints.countP (! ·.isService)
  ["Generating code for: " ++ loaded.model.name,
    "  States: " ++ Text.ofNat loaded.model.states.length,
    "  Service clients: " ++ Text.ofNat services,
    "  Topic subscribers: " ++ Text.ofNat topics,
    "  Interfaces loaded: " ++ Text.ofNat loaded.catalog.size]

/-- The records about the interfaces that were loaded. -/
def Loaded.catalogLog (loaded : Loaded) : Log :=
  loaded.catalog.keys.map fun key => .debug ("Interface available: " ++ key.text)

/-- Generate the sources of what was read. -/
def Loaded.sources (loaded : Loaded) (folder : Folder) (options : Options) : Run Sources := do
  Run.tell loaded.catalogLog
  let model ← Statechart.typed loaded.catalog loaded.model
  Run.ofExcept .generation (Generation.generate folder [] options model)

/-! ## Results -/

/-- What a run of the program leaves: its exit code, the files, and the lines that it
printed as output and as errors. -/
structure Result where
  exitCode : Nat
  tree : Tree
  output : List Text
  errors : List Text

/-- The lines for the records of a log that are printed. -/
def logLines (isVerbose : Bool) (log : Log) : List Text :=
  (log.filter fun record => isVerbose || record.level ≠ .debug).map LogRecord.line

/-- The lines about a failure. -/
def failureLines (isVerbose : Bool) (message : Text) : List Text :=
  ("Error generating code: " ++ message) ::
    if isVerbose then [(LogRecord.debug "Generation failed").line] else []

/-- The line about a file that was written. -/
def writtenLine (path : Path) : Text := "  ✓ Generated: " ++ path.text

/-- Write generated sources and tell of it. -/
def writeSources (draws : List Text) (tree : Tree) (arguments : Arguments) (sources : Sources)
    (output errors : List Text) : Result :=
  let written := sources.write draws tree (Path.ofText arguments.outputDir)
  match written.outcome with
  | .ok paths =>
      ⟨0, written.tree, output ++ paths.map writtenLine, errors⟩
  | .error error =>
      ⟨1, written.tree, output, errors ++ failureLines arguments.isVerbose error.message⟩

/-- Tell of a failure before anything is written, if the program has an answer to it. -/
def answer (tree : Tree) (arguments : Arguments) (output errors : List Text) (failure : Failure) :
    Except Failure Result :=
  if failure.isAnswered then
    .ok ⟨1, tree, output, errors ++ failureLines arguments.isVerbose failure.message⟩
  else
    .error failure

/-- Generate code as arguments ask that were found to be in order. -/
def generateCode (draws : List Text) (tree : Tree) (arguments : Arguments)
    (converters : Converters := .none) : Except Failure Result :=
  let loading := load tree arguments converters
  let loadLines := logLines arguments.isVerbose loading.log
  match loading.outcome with
  | .error failure => answer tree arguments [] loadLines failure
  | .ok loaded =>
      let generation := loaded.sources (arguments.folder tree) arguments.options
      let errors := loadLines ++ logLines arguments.isVerbose generation.log
      match generation.outcome with
      | .error failure => answer tree arguments loaded.report errors failure
      | .ok sources => .ok (writeSources draws tree arguments sources loaded.report errors)

/-- Do what arguments ask for. The description is looked for before there is an answer to any
failure. -/
def runArguments (draws : List Text) (tree : Tree) (arguments : Arguments)
    (converters : Converters := .none) : Except Failure Result :=
  match tree.isThere (Path.ofText arguments.description) with
  | .error error => .error (.file error)
  | .ok false =>
      .ok ⟨1, tree, [], ["Error: SCXML file not found: " ++ arguments.description]⟩
  | .ok true =>
      match arguments.options.fault? with
      | some fault => .ok ⟨1, tree, [], ["Error: " ++ fault.message]⟩
      | none => generateCode draws tree arguments converters

/-- How a command line ends: with a result, early because of its words, or broken off by a failure
that the program has no answer to. Every file and directory is as it was then. -/
inductive Ending
  | finished (result : Result)
  | stopped (stop : Stop)
  | failed (failure : Failure)

/-- Run the program on a command line. -/
def run (draws : List Text) (tree : Tree) (texts : List Text) (converters : Converters := .none) :
    Ending :=
  match Arguments.ofTexts texts with
  | .error stop => .stopped stop
  | .ok arguments =>
      match runArguments draws tree arguments converters with
      | .ok result => .finished result
      | .error failure => .failed failure

/-- The exit code of a command line that is stopped early. -/
def Stop.exitCode : Stop → Nat
  | .help => 0
  | .usage _ => 2

/-- Lines as a text, each with a line feed at its end. -/
def printed (lines : List Text) : Text := lines.flatMap (· ++ ['\n'])

end CommandLine
end SkillNode
