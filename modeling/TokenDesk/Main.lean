import Std.Time.DateTime.Timestamp
import TokenDesk.Command.Program

/-!
# The command line

Takes the directory that it is started in, and those that its arguments name, into a file tree, runs a
program on the tree and writes back what the run has changed. Links are not followed, no network is
reached and no container is started.
-/

set_option autoImplicit false

namespace TokenDesk.CommandLine

open TokenDesk.Text

/-- The names on the way to a path. -/
def placeOf (path : String) : Location :=
  (Path.pieces path).filter (!·.isEmpty)

def pathOf (at_ : Location) : String :=
  "/" ++ Path.ofPieces at_

/-- Adds an entry of a directory with all that stands below it. -/
partial def take (tree : FileTree) (found : IO.FS.DirEntry) : IO FileTree := do
  let at_ := placeOf found.path.toString
  match (← found.path.symlinkMetadata).type with
  | .dir => (← found.path.readDir).foldlM take ⟨(at_, .directory) :: tree.entries⟩
  | .file =>
    let bytes ← IO.FS.readBinFile found.path
    return ⟨(at_, .file bytes.toList) :: tree.entries⟩
  | _ => return tree

/-- Adds a directory with all that stands below it, and the directories above it. -/
def takeDirectory (tree : FileTree) (path : String) : IO FileTree := do
  let real ← IO.FS.realPath path
  if !(← real.isDir) then return tree
  let at_ := placeOf real.toString
  let above := (List.range (at_.length + 1)).map fun n => (at_.take n, Entry.directory)
  (← real.readDir).foldlM take ⟨above ++ tree.entries⟩

/-- The text of an argument that may name a directory. -/
def candidate (argument : String) : String :=
  match splitFirst? '=' argument.toList with
  | some (_, value) => String.ofList value
  | none => argument

/-- The variables that this process was given. -/
def ownEnvironment : IO Environment := do
  try
    let bytes ← IO.FS.readBinFile "/proc/self/environ"
    return (splitAll '\x00' (decodeLossy bytes.toList).toList).filterMap fun cs =>
      (splitFirst? '=' cs).map fun (name, value) => (String.ofList name, String.ofList value)
  catch _ => return []

/-- Writes the files and directories that are not as they were. -/
def writeBack (before after : FileTree) : IO Unit := do
  for (at_, entry) in after.entries.reverse do
    if before.get? at_ != some entry then
      match entry with
      | .directory => IO.FS.createDirAll (pathOf at_)
      | .file bytes =>
        let draft := pathOf at_ ++ ".draft"
        IO.FS.writeBinFile draft ⟨bytes.toArray⟩
        IO.FS.rename draft (pathOf at_)

/-- Runs a program and gives its exit code. -/
def execute (program : Command.Program) (arguments : List String) : IO UInt32 := do
  let here ← IO.currentDir
  let mut tree ← takeDirectory .empty here.toString
  for argument in arguments do
    tree ← (takeDirectory tree (candidate argument)) <|> pure tree
  let input ←
    if program.readsInput arguments then (← IO.getStdin).readBinToEnd else pure .empty
  let time ← Std.Time.Timestamp.now
  let host : Command.Host Unit := {
    environment := ← ownEnvironment
    now := .ofEpochNanos time.toNanosecondsSinceUnixEpoch.val.toNat
    input := input.toList
    dial := fun _ => .absent Unit
    confirm := .prompt
    execute := fun _ => none }
  let start : World Unit := ⟨⟨tree, placeOf here.toString⟩, (), ""⟩
  -- Whether the output takes what a run prints is only known when it is printed.
  let machine : Machine ←
    try
      IO.print (program.run host arguments .steady start).2.output
      (← IO.getStdout).flush
      pure .steady
    catch e => pure (.mute (.disk (toString e)))
  let (ending, after) := program.run host arguments machine start
  writeBack tree after.files.tree
  match ending with
  | .ok () => pure ()
  | .failed cause => IO.eprintln cause.message
  | .aborted => IO.eprintln "The run was aborted"
  return Command.Program.exitCode ending

end TokenDesk.CommandLine

/-- Runs the program that the first argument names with the arguments behind it. -/
def main (arguments : List String) : IO UInt32 := do
  match arguments with
  | name :: rest =>
    match TokenDesk.Command.Program.ofName? name with
    | some program => TokenDesk.CommandLine.execute program rest
    | none =>
      IO.eprintln (name ++ " is no program")
      return 1
  | [] =>
    let names := TokenDesk.Command.Program.all.map TokenDesk.Command.Program.name
    IO.eprintln ("Programs: " ++ String.intercalate ", " names)
    return 1
