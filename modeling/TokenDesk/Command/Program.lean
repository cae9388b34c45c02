import TokenDesk.Command.Assist
import TokenDesk.Command.Pipeline

/-!
# Programs

The five programs under their names. A program that refuses has not changed a file; one that aborts has
changed none unless it could not print what it has done.
-/

set_option autoImplicit false

namespace TokenDesk.Command

inductive Program where
  | deployer
  | interactor
  | summarizer
  | networkChecker
  | assistant
  deriving DecidableEq, Repr

namespace Program

def name : Program → String
  | deployer => "deployer"
  | interactor => "interactor"
  | summarizer => "summarizer"
  | networkChecker => "network-checker"
  | assistant => "solidity-assistant"

def all : List Program := [deployer, interactor, summarizer, networkChecker, assistant]

def ofName? (text : String) : Option Program :=
  all.find? (·.name == text)

variable {σ : Type}

/-- Reads options and runs a program with them. -/
def withOptions (settings : List Setting) (arguments : List String)
    (program : Arguments → Run σ Refusal Unit) : Run σ Refusal Unit :=
  match Arguments.ofOptions? settings arguments with
  | some a => program a
  | none => Run.fail .usage

/-- Runs a program with its arguments. -/
def run (p : Program) (host : Host σ) (arguments : List String) : Run σ Refusal Unit :=
  match p with
  | deployer => withOptions deployerSettings arguments (Command.deployer host)
  | interactor => withOptions interactorSettings arguments (Command.interactor host)
  | summarizer => withOptions summarizerSettings arguments Command.summarizer
  | networkChecker => withOptions checkerSettings arguments (Command.networkChecker host)
  | assistant =>
    match Task.read? arguments with
    | none => Run.fail .usage
    | some (root?, task) => do
      let w ← openWorkspace root?
      task.run host w

/-- Whether a run with these arguments reads the standard input: only a chat does. -/
def readsInput (p : Program) (arguments : List String) : Bool :=
  match p, Task.read? arguments with
  | assistant, some (_, .advise []) => true
  | _, _ => false

/-- What a program that ended so returns to the system. -/
def exitCode : Ending Refusal Unit → UInt32
  | .ok () => 0
  | .failed _ => 1
  | .aborted => 101

end Program

end TokenDesk.Command
