import SkillNode.CommandLine.Program

/-!
# The program

The files that a command line names are read into a tree, the program is run on the
tree, and the entries that it changed are written back.
-/

namespace SkillNode
namespace CommandLine

open FileTree (Path Place Tree)

/-! ## Reading files -/

/-- The place that a path leads to, its double dots taken as steps back. -/
def placeOf (workingDirectory : Place) (path : Path) : Place :=
  let start := if path.root.isEmpty then workingDirectory else []
  path.parts.foldl
    (fun (here : Place) (part : Text) =>
      if part = ".." then here.dropLast else here ++ [part])
    start

/-- The name of a place for the system. -/
def systemName (place : Place) : String := String.ofList ("/" ++ Text.join "/" place)

/-- Read what stands at a place into a tree, a directory with all below it down to a
depth. Files beyond the depth are taken without content. -/
partial def takePlace (tree : Tree) (place : Place) (depth : Nat) : IO Tree := do
  let path := (← IO.currentDir) / systemName place
  if ← path.isDir then
    let mut result := tree.put place .directory
    if depth ≠ 0 then
      for entry in ← path.readDir do
        result ← takePlace result (place ++ [entry.fileName.toList]) (depth - 1)
    return result
  else if ← path.pathExists then
    let content ← if depth = 0 then pure [] else (·.toList) <$> IO.FS.readBinFile path
    return tree.put place (.file content)
  else
    return tree

/-- Read what stands at the places on the way to a place into a tree. -/
def takeWay (tree : Tree) (place : Place) : IO Tree := do
  let mut result := tree
  for length in [1:place.length + 1] do
    let around := place.take length
    if (result.find? around).isNone then
      result ← takePlace result around 0
  return result

/-- Read what a path leads to and passes through into a tree. -/
def takePath (tree : Tree) (path : Path) (depth : Nat) : IO Tree := do
  let mut result := tree
  for length in [0:path.parts.length + 1] do
    let way := { path with parts := path.parts.take length }
    result ← takeWay result (placeOf tree.workingDirectory way)
  takePlace result (placeOf tree.workingDirectory path) depth

/-- A depth that no directory reaches. -/
def anyDepth : Nat := 4096

/-- Read all that the arguments name into a tree. -/
def takeNamed (workingDirectory : Place) (arguments : Arguments) : IO Tree := do
  let mut tree ← takePath (Tree.empty workingDirectory) (.ofText arguments.outputDir) 1
  let templates := arguments.templateDir?.toList.filter (! ·.isEmpty)
  for text in arguments.description :: arguments.interfaces ++ templates do
    tree ← takePath tree (.ofText text) anyDepth
  return tree

/-! ## Writing files -/

/-- Write the entries of a tree that an earlier one does not have so. New content is
complete under another name before it takes the place of the old. -/
def writeChanges (tree earlier : Tree) : IO Unit := do
  let fromRoot (tree : Tree) : Tree := { tree with workingDirectory := [] }
  let changes := (fromRoot tree).changesSince (fromRoot earlier)
  for (name, content?) in changes do
    let name := String.ofList ('/' :: name)
    match content? with
    | none => IO.FS.createDirAll name
    | some content => IO.FS.writeBinFile (name ++ ".part") ⟨content.toArray⟩
  for (name, content?) in changes do
    let name := String.ofList ('/' :: name)
    if content?.isSome then
      IO.FS.rename (name ++ ".part") name

/-- The characters of a draw. -/
def drawAlphabet : List Char := "abcdefghijklmnopqrstuvwxyz0123456789_".toList

/-- Draw a name at random. -/
def drawName : IO Text := do
  let mut name : Text := []
  for _ in [0:8] do
    name := drawAlphabet[← IO.rand 0 (drawAlphabet.length - 1)]?.getD '_' :: name
  return name

/-! ## Running -/

/-- Run the program on the files of the system. -/
def runOnFiles (texts : List Text) : IO UInt32 := do
  let stderr ← IO.getStderr
  match Arguments.ofTexts texts with
  | .error stop =>
      match stop with
      | .help => IO.println (String.ofList usageLine)
      | .usage error =>
          stderr.putStrLn (String.ofList usageLine)
          stderr.putStrLn (String.ofList ("error: " ++ error.message))
      return UInt32.ofNat stop.exitCode
  | .ok arguments =>
      let current := toString (← IO.currentDir)
      let workingDirectory := (Path.ofText current.toList).parts
      let tree ← takeNamed workingDirectory arguments
      match runArguments [← drawName, ← drawName, ← drawName] tree arguments with
      | .error failure =>
          stderr.putStrLn (String.ofList failure.message)
          return 1
      | .ok result =>
          stderr.putStr (String.ofList (printed result.errors))
          writeChanges result.tree tree
          IO.print (String.ofList (printed result.output))
          return UInt32.ofNat result.exitCode

end CommandLine
end SkillNode

/-- Generate a skill node from the command line. -/
def main (texts : List String) : IO UInt32 :=
  SkillNode.CommandLine.runOnFiles (texts.map String.toList)
