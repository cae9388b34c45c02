import TokenDesk.Files.Glob
import TokenDesk.Ledger.Workspace

/-!
# Static analysis

Finds the sources of a workspace and builds the container command that analyzes one of them. The
workspace is mounted in the container, and only files that really lie in it are handed over.
-/

set_option autoImplicit false

namespace TokenDesk.Assistant

open TokenDesk.Text

/-- A program with its arguments. -/
structure Command where
  program : String
  arguments : List String
  deriving DecidableEq, Repr

/-- What a program left when it ended. -/
structure Finished where
  status : Nat
  stdout : Octets
  stderr : Octets
  deriving DecidableEq, Repr

namespace Analyzer

def defaultImage : String := "ghcr.io/crytic/slither"

def containerProgram : String := "docker"

/-- Where the workspace stands in the container. -/
def mountPoint : String := "/src"

/-- Why a file is not analyzed. -/
inductive Error where
  | pattern (text : String) (cause : Pattern.Error)
  | notSolidity (file : String)
  | workspace (root : String) (cause : OsError)
  | source (file : String) (cause : OsError)
  | outside (file root : String)
  | noProgram
  /-- An argument holds a zero character. -/
  | badArgument
  | failed (file : String) (report : String)
  deriving DecidableEq, Repr

def Error.message : Error → String
  | .pattern text cause => "Source pattern `" ++ text ++ "`: " ++ cause.message
  | .notSolidity file => quoted file ++ " is not a Solidity file"
  | .workspace root cause => "Workspace " ++ quoted root ++ ": " ++ cause.message
  | .source file cause => "Source file " ++ quoted file ++ ": " ++ cause.message
  | .outside file root =>
    "Source file " ++ quoted file ++ " is outside the workspace " ++ quoted root
  | .noProgram =>
    containerProgram ++ " subprocess spawning error: Os \x7b code: 2, kind: NotFound, " ++
      "message: \"No such file or directory\" \x7d"
  | .badArgument =>
    containerProgram ++ " subprocess spawning error: Error \x7b kind: InvalidInput, " ++
      "message: \"nul byte found in provided data\" \x7d"
  | .failed file report => "Analysis of " ++ quoted file ++ " failed: " ++ report

/-- The sources below the contracts directory, in the order of their components. -/
def sources (w : Workspace) (f : Files) : Except Error (List String) :=
  let pattern := Path.join (Path.join (Path.join w.root "contracts") "**") "*.sol"
  (f.glob pattern).mapError (.pattern pattern)

/-- The names below a directory that a place inside it adds. -/
def relative? : Location → Location → Option Location
  | [], at_ => some at_
  | _ :: _, [] => none
  | name :: directory, other :: at_ => if name = other then relative? directory at_ else none

/-- The name of a place in the container. -/
def mounted (at_ : Location) : String :=
  at_.foldl (fun path name => path ++ "/" ++ name) mountPoint

/-- The command that analyzes a file; a relative path starts at the workspace. -/
def command (image : String) (w : Workspace) (file : String) (f : Files) :
    Except Error Command :=
  if Path.extension? file ≠ some "sol" then .error (.notSolidity file)
  else
    match f.canonicalize w.root with
    | .error cause => .error (.workspace w.root cause)
    | .ok root =>
      let path := Path.join w.root file
      match f.canonicalize path with
      | .error cause => .error (.source path cause)
      | .ok at_ =>
        match relative? root at_ with
        | none => .error (.outside (Files.absolute at_) (Files.absolute root))
        | some names =>
          .ok ⟨containerProgram, ["run", "--rm", "-v", Files.absolute root ++ ":" ++ mountPoint,
            image, "slither", mounted names]⟩

/-- What an analysis reports, given what the container program left; it may be missing. -/
def report (file : String) (finished? : Option Finished) : Except Error String :=
  match finished? with
  | none => .error .noProgram
  | some finished =>
    let stdout := decodeLossy finished.stdout
    if finished.status = 0 then .ok stdout
    else
      let stderr := decodeLossy finished.stderr
      .error (.failed file (if trim stderr == "" then stdout else stderr))

/-- Analyzes a file; `execute` runs a command. -/
def run (image : String) (w : Workspace) (file : String) (execute : Command → Option Finished)
    (f : Files) : Except Error String :=
  match command image w file f with
  | .error e => .error e
  | .ok c =>
    if c.arguments.any Files.hasZero then .error .badArgument else report file (execute c)

end Analyzer

end TokenDesk.Assistant
