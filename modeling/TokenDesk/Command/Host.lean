import TokenDesk.Assistant.Analyzer
import TokenDesk.Assistant.Document
import TokenDesk.Assistant.Snippet
import TokenDesk.Command.Options
import TokenDesk.Run.Failure

/-!
# Where programs run

What a program finds around it beside the files, why it may refuse, and the steps with which the
programs begin.
-/

set_option autoImplicit false

namespace TokenDesk.Command

open TokenDesk.Text

/-- What a program finds where it is started. -/
structure Host (σ : Type) where
  environment : Environment
  now : Time.Instant
  /-- What stands on the standard input. -/
  input : Octets
  /-- The node at a URL. -/
  dial : Url → Node σ
  /-- How receipts are waited for. -/
  confirm : Confirm σ
  /-- What a command of a container leaves; none where it cannot be started. -/
  execute : Assistant.Command → Option Assistant.Finished

/-- Why a program refused. -/
inductive Refusal where
  /-- The arguments are not what the program takes. -/
  | usage
  | workspace (cause : Workspace.Error)
  | failure (cause : Failure)
  | document (cause : Assistant.Document.Error)
  | analyzer (cause : Assistant.Analyzer.Error)
  | snippet (cause : Assistant.Snippet.Error)
  | noContracts (path : String)
  | noSources (root : String)
  | noDeployments
  /-- The standard input is no text. -/
  | input
  /-- The chat cannot write its answers. -/
  | output (cause : OsError)
  deriving Repr

def Refusal.message : Refusal → String
  | .usage => "The arguments are not understood"
  | .workspace cause => cause.message
  | .failure cause => cause.message
  | .document cause => cause.message
  | .analyzer cause => cause.message
  | .snippet cause => cause.message
  | .noContracts path => "No contract declarations found in " ++ quoted path
  | .noSources root => "No Solidity sources found in " ++ quoted root
  | .noDeployments => Assistant.noDeployments
  | .input => Files.ReadError.message .notText
  | .output cause => cause.message

variable {σ : Type}

/-- Opens the workspace that an option names. -/
def openWorkspace (root? : Option String) : Run σ Refusal Workspace :=
  (Run.look (Workspace.open (root?.getD defaultRoot))).mapError .workspace

/-- The variables with those of the workspace's environment file. -/
def loadEnvironment (w : Workspace) (env : Environment) : Run σ Refusal Environment := do
  let (loading, env) ← Run.look fun f => .ok (w.loadEnvironment f env)
  match loading with
  | .loaded => return env
  | .malformed => Run.fail (.workspace (.environment w.environmentPath))
  | .aborted => Run.orAbort none

/-- What a program that works on a network begins with. -/
structure Setup where
  workspace : Workspace
  environment : Environment
  network : String
  config : Config

/-- Opens the workspace, loads its environment and its configuration and selects the network. -/
def setup (host : Host σ) (a : Arguments) : Run σ Refusal Setup := do
  let w ← openWorkspace (a.value? "workspace")
  let env ← loadEnvironment w host.environment
  let network := selectNetwork (a.value? "network") (env.lookup networkVariable)
  let config ← (Run.look w.loadConfig).mapError .workspace
  return ⟨w, env, network, config⟩

namespace Setup

/-- The endpoint of the network. -/
def endpoint (s : Setup) : Run σ Failure Endpoint :=
  Run.ofExcept ((s.config.endpoint s.network).mapError .unknownNetwork)

/-- Connects to an endpoint. -/
def connect (s : Setup) (host : Host σ) (e : Endpoint) : Run σ Failure (Client σ) :=
  (Run.ask (Client.connect host.dial host.confirm e s.config s.environment)).mapError .client

end Setup

end TokenDesk.Command
