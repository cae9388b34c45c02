import TokenDesk.Run.Failure

/-!
# Deploying a contract

One run takes the compiled contract, deploys it and appends a record to the log of the network.
-/

set_option autoImplicit false

namespace TokenDesk

open TokenDesk.Text

/-- What to deploy where. -/
structure Deployment where
  workspace : Workspace
  network : String
  contract : String := "MyToken"
  source : String := "ERC20.sol"
  quiet : Bool := false

namespace Deployment

/-- The record of a deployed contract. -/
def record (d : Deployment) (artifact : Artifact) (deployer instanceAt : Address)
    (now : Time.Instant) : DeploymentRecord where
  contract := d.contract
  address := instanceAt.checksum
  network := d.network
  timestamp := now.truncate
  deployer := deployer.checksum
  abi := artifact.abi

/-- Deploys the contract at a point in time. -/
def run {σ : Type} (d : Deployment) (factory : Factory σ) (now : Time.Instant) :
    Run σ Failure DeploymentRecord := do
  let artifact ← (Run.look (d.workspace.loadArtifact d.source d.contract)).mapError .workspace
  let deployer ← (Run.ask factory.deployer).mapError .chain
  let arguments ← (Run.ofExcept (artifact.arguments deployer)).mapError .undeployable
  Run.status d.quiet ("   Deploying " ++ artifact.contractName ++ arguments.text ++ " from " ++
    deployer.checksum ++ " on `" ++ d.network ++ "`")
  let instanceAt ← (Run.ask (factory.deploy artifact arguments)).mapError .chain
  let record := d.record artifact deployer instanceAt now
  Run.status d.quiet ("    Deployed " ++ record.contract ++ " at " ++ record.address)
  let log := d.workspace.deploymentLog d.network
  let count ← (Run.change (log.append record)).mapError .log
  Run.status d.quiet ("       Saved deployment #" ++ decimal count ++ " to " ++ quoted log.path)
  return record

end Deployment

end TokenDesk
