import TokenDesk.Chain.Client

/-!
# Failures of runs

Every cause that can end a run early, with its message.
-/

set_option autoImplicit false

namespace TokenDesk

open TokenDesk.Text

/-- Why a run on a workspace ended early. -/
inductive Failure where
  | workspace (cause : Workspace.Error)
  | log (cause : LogError)
  | unknownNetwork (cause : Config.UnknownNetwork)
  | noDeploymentLog (network : String)
  | noDeployment (path : String)
  | noReport (path : String)
  | undeployable (cause : Artifact.Error)
  | amount (cause : Amount.Error)
  | address (cause : Address.Error)
  | noSigners
  | summary (path : String) (cause : OsError)
  | client (cause : Client.Error)
  /-- The chain refused a call. -/
  | chain (message : String)
  deriving Repr

def Failure.message : Failure → String
  | .workspace cause => cause.message
  | .log cause => cause.message
  | .unknownNetwork cause => cause.message
  | .noDeploymentLog network => "No deployment file found for network: " ++ network
  | .noDeployment path => "Deployment log " ++ quoted path ++ " has no records"
  | .noReport path => "No JSON report found at " ++ quoted path
  | .undeployable cause => cause.message
  | .amount cause => cause.message
  | .address cause => cause.message
  | .noSigners => "No signer accounts available"
  | .summary path cause => "Summary file " ++ quoted path ++ " writing: " ++ cause.message
  | .client cause => cause.message
  | .chain message => message

/-- The latest record of a network. -/
def Workspace.latestDeployment (w : Workspace) (network : String) (f : Files) :
    Except Failure DeploymentRecord :=
  let log := w.deploymentLog network
  if !log.exists? f then .error (.noDeploymentLog network)
  else
    match log.latest f with
    | .error e => .error (.log e)
    | .ok none => .error (.noDeployment log.path)
    | .ok (some record) => .ok record

end TokenDesk
