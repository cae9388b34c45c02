import TokenDesk.Ledger.Log
import TokenDesk.Network.Endpoint
import TokenDesk.Record.Artifact

/-!
# Workspaces

The directory that a project keeps its files in, and where each file stands below it. Logs are kept
apart by network: the network's name is part of the file name.
-/

set_option autoImplicit false

namespace TokenDesk

open TokenDesk.Text
open TokenDesk.Json

/-- A directory with the files of a project. -/
structure Workspace where
  root : String
  deriving DecidableEq, Repr

namespace Workspace

def deploymentsDirectory (w : Workspace) : String :=
  Path.join w.root "deployments"

def reportsDirectory (w : Workspace) : String :=
  Path.join w.root "reports"

/-- What the name of a deployment log begins with. -/
def deploymentMark : String := "deployed-contracts."

/-- What the name of a log ends with. -/
def logMark : String := ".json"

def deploymentFile (network : String) : String :=
  deploymentMark ++ network ++ logMark

def deploymentLog (w : Workspace) (network : String) : AppendLog DeploymentRecord :=
  ⟨Path.join w.deploymentsDirectory (deploymentFile network), .deployments⟩

def reportPath (w : Workspace) (network : String) : String :=
  Path.join w.reportsDirectory ("interaction-report." ++ network ++ logMark)

def reportLog (w : Workspace) (network : String) : AppendLog ReportEntry :=
  ⟨w.reportPath network, .reports⟩

/-- The report log with entries of any shape. -/
def rawReportLog (w : Workspace) (network : String) : AppendLog Json :=
  ⟨w.reportPath network, .untyped⟩

def summaryPath (w : Workspace) : String :=
  Path.join w.reportsDirectory "interaction-summary.csv"

/-- Where the compiler leaves a contract that a source file declares. -/
def artifactPath (w : Workspace) (source contract : String) : String :=
  Path.join (Path.join (Path.join w.root "artifacts/contracts") source) (contract ++ ".json")

def configPath (w : Workspace) : String :=
  Path.join w.root "networks.json"

def environmentPath (w : Workspace) : String :=
  Path.join w.root ".env"

/-! ## Reading -/

/-- Why the files of a workspace cannot be used. -/
inductive Error where
  | noDirectory (root : String)
  | environment (path : String)
  | configReading (path : String) (cause : OsError)
  | configParsing (path : String) (cause : Fault)
  | artifactReading (path : String) (cause : Files.ReadError)
  | artifactParsing (path : String) (cause : Fault)
  deriving DecidableEq, Repr

def Error.message : Error → String
  | .noDirectory root => "Workspace directory " ++ quoted root ++ " does not exist"
  | .environment path => "Environment file " ++ quoted path ++ " loading: malformed line"
  | .configReading path cause =>
    "Network config " ++ quoted path ++ " parsing error: " ++ cause.message
  | .configParsing path cause =>
    "Network config " ++ quoted path ++ " parsing error: " ++ cause.message
  | .artifactReading path cause =>
    "Artifact " ++ quoted path ++ " reading: " ++ cause.message ++ ". Is the contract compiled?"
  | .artifactParsing path cause =>
    "Artifact " ++ quoted path ++ " parsing: " ++ cause.message

/-- The workspace of an existing directory. -/
def «open» (root : String) (f : Files) : Except Error Workspace :=
  if f.isDirectory root then .ok ⟨root⟩ else .error (.noDirectory root)

/-- Adds the environment file to the variables, where there is one. -/
def loadEnvironment (w : Workspace) (f : Files) (env : Environment) :
    Environment.Loading × Environment :=
  match f.readBytes w.environmentPath with
  | .ok bytes => env.load bytes
  | .error .isDirectory => (.malformed, env)
  | .error _ => (.loaded, env)

/-- The configuration, or the presets where there is no file. -/
def loadConfig (w : Workspace) (f : Files) : Except Error Config :=
  if !f.exists? w.configPath then .ok {}
  else
    match f.readBytes w.configPath with
    | .error cause => .error (.configReading w.configPath cause)
    | .ok bytes => (Config.ofBytes bytes).mapError (.configParsing w.configPath)

/-- The compiled form of a contract that a source file declares. -/
def loadArtifact (w : Workspace) (source contract : String) (f : Files) : Except Error Artifact :=
  let path := w.artifactPath source contract
  match f.readText path with
  | .error cause => .error (.artifactReading path cause)
  | .ok text => (readText Artifact.read text).mapError (.artifactParsing path)

/-- The network that a file name of a deployment log names. -/
def networkOf? (name : String) : Option String :=
  match after? deploymentMark.toList name.toList with
  | none => none
  | some rest =>
    match after? logMark.toList.reverse rest.reverse with
    | none => none
    | some network => if network.isEmpty then none else some (String.ofList network.reverse)

/-- The networks that have a deployment log, ascending. -/
def deployedNetworks (w : Workspace) (f : Files) : List String :=
  ((f.list w.deploymentsDirectory).filterMap networkOf?).mergeSort fun a b => a ≤ b

end Workspace

end TokenDesk
