import TokenDesk.Files.Pattern
import TokenDesk.Files.Tree

/-!
# Finding files by pattern

Follows a path pattern through a file tree, component by component. A component without wildcards is
followed as it is; any other is held against the names in the directory.
-/

set_option autoImplicit false

namespace TokenDesk.Files

open TokenDesk.Text

/-- One component of a path pattern. -/
abbrev Step := List Pattern.Token

/-- The path of an entry of a directory; the working directory is not written. -/
def entryPath (directory name : String) : String :=
  if directory == "." then name else Path.join directory name

/-- The entries that two stars may stand before: all below a directory, at most `depth` deep. -/
def below (f : Files) : Nat → String → List String
  | 0, _ => []
  | depth + 1, directory =>
    (f.list directory).flatMap fun name =>
      let path := entryPath directory name
      path :: (if f.isDirectory path then below f depth path else [])

/-- The steps behind leading double stars. -/
def dropDepths (steps : List Step) : List Step :=
  steps.dropWhile (· == [.anyDepth])

/-- The dot entries that a step written with a dot stands for. -/
def dotEntries (step : Step) : List String :=
  if step.head? == some (.char '.') then
    [".", ".."].filter fun name => Pattern.accepts step name.toList
  else []

/-- The name that a step is held against. -/
def nameOf (path : String) : List Char :=
  ((Path.fileName? path).getD "").toList

/-- The paths that the steps lead to from a path. -/
def expand (f : Files) : Nat → String → List Step → List String
  | 0, _, _ => []
  | _ + 1, path, [] => [path]
  | fuel + 1, path, step :: steps =>
    match Pattern.literal? step with
    | some name =>
      let name := String.ofList name
      let next := entryPath path name
      let found := if name == "." || name == ".." then f.isDirectory path else f.exists? next
      if found then expand f fuel next steps else []
    | none =>
      if !f.isDirectory path then []
      else if step == [.anyDepth] then
        let entries := f.below (f.tree.entries.length + 1) path
        match dropDepths steps with
        | [] => entries.filter f.isDirectory
        | step :: steps =>
          (entries.filter fun entry => Pattern.accepts step (nameOf entry)).flatMap fun entry =>
            expand f fuel entry steps
      else
        let entries := (f.list path).map (entryPath path)
        let dots := (dotEntries step).map (Path.join path)
        ((entries.filter fun entry => Pattern.accepts step (nameOf entry)) ++ dots).flatMap
          fun entry => expand f fuel entry steps

/-- The components of a path pattern behind its root. -/
def patternPieces (pattern : String) : List String :=
  let pieces := Path.pieces pattern
  let pieces := if Path.isAbsolute pattern then pieces.dropWhile (· == "") else pieces
  if pieces.getLast? == some "" then pieces.dropLast else pieces

/-- The paths that a path pattern stands for, in the order of their components. -/
def glob (f : Files) (pattern : String) : Except Pattern.Error (List String) := do
  let _ ← Pattern.tokens pattern
  let steps ← (patternPieces pattern).mapM Pattern.tokens
  let start := if Path.isAbsolute pattern then "/" else "."
  return Path.sort (f.expand (steps.length + 1) start steps)

end TokenDesk.Files
