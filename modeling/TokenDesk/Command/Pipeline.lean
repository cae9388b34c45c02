import TokenDesk.Command.Host
import TokenDesk.Run.Deploy
import TokenDesk.Run.Interact
import TokenDesk.Run.Summarize

/-!
# The deployment programs

Four programs: one deploys a contract, one interacts with the latest token, one summarizes the reports
and one checks that a network can be used.
-/

set_option autoImplicit false

namespace TokenDesk.Command

open TokenDesk.Text

variable {σ : Type}

/-! ## Deployer -/

def deployerSettings : List Setting :=
  [.workspace, .network, .contract, .source, .quiet]

/-- Deploys a contract to a network. -/
def deployer (host : Host σ) (a : Arguments) : Run σ Refusal Unit := do
  let s ← setup host a
  let e ← s.endpoint.mapError .failure
  let client ← (s.connect host e).mapError .failure
  let preset : Deployment := { workspace := s.workspace, network := s.network }
  let deployment := { preset with
    contract := (a.value? "contract").getD preset.contract
    source := (a.value? "source").getD preset.source
    quiet := a.has "quiet" }
  let _ ← (deployment.run client.factory host.now).mapError .failure

/-! ## Interactor -/

def interactorSettings : List Setting :=
  [.workspace, .network, .quiet]

/-- What the throwaway accounts of a run are drawn from. -/
def seed (deployment : DeploymentRecord) (now : Time.Instant) : String :=
  deployment.address ++ ":" ++ signed now.epochMillis

/-- Connects to the token of a deployment. -/
def openSession (s : Setup) (host : Host σ) (deployment : DeploymentRecord) :
    Run σ Failure (Session σ) := do
  let e ← s.endpoint
  let client ← s.connect host e
  let signers ← (Run.ask client.signers).mapError .client
  match Roles.ofSigners? signers (seed deployment host.now) with
  | none => Run.fail .noSigners
  | some roles =>
    let address ← Run.ofExcept ((Address.parse deployment.address).mapError .address)
    let contract ←
      Run.ofEnding ((Client.contractAt address deployment.abiText).mapError .client)
    return ⟨client.token contract, roles⟩

/-- Interacts with the latest token of a network. -/
def interactor (host : Host σ) (a : Arguments) : Run σ Refusal Unit := do
  let s ← setup host a
  let interaction : Interaction := ⟨s.workspace, s.network, a.has "quiet"⟩
  let entry? ← (interaction.run (openSession s host) host.now).mapError .failure
  Run.status (a.has "quiet" || entry?.isNone)
    ("    Finished interaction flow on `" ++ s.network ++ "`")

/-! ## Summarizer -/

def summarizerSettings : List Setting :=
  [.workspace, .network, .output, .quiet]

/-- Summarizes the report log of a network. -/
def summarizer (a : Arguments) : Run σ Refusal Unit := do
  let w ← openWorkspace (a.value? "workspace")
  let network := (a.value? "network").getD defaultNetwork
  let log := w.rawReportLog network
  let isThere ← Run.look fun f => .ok (log.exists? f)
  if !isThere then Run.fail (.failure (.noReport log.path))
  else
    let output := (a.value? "output").getD w.summaryPath
    let rows ← (Summary.run w network output).mapError .failure
    Run.status (a.has "quiet")
      ("     Summarized " ++ decimal rows ++ " report entries to " ++ quoted output)

/-! ## Network checker -/

def checkerSettings : List Setting :=
  [.workspace, .network, .token]

/-- The token that is looked at on a test network where no other is named. -/
def linkToken : String := "0x779877A7B0D9E8603169DdbD7836e478b4624789"

/-- The token to look at, if any. -/
def tokenToCheck? (a : Arguments) (network : String) : Option String :=
  match a.value? "token" with
  | some token => some token
  | none => if network = "sepolia" then some linkToken else none

/-- Looks at the balance of a token. -/
def checkToken (client : Client σ) (text : String) : Run σ Failure Unit := do
  let address ← Run.ofExcept ((Address.parse text).mapError .address)
  let token := client.token ⟨address, .tokenViews⟩
  let symbol ← Interaction.call token .symbol
  let decimals ← Interaction.call token .decimals
  let amount ← Interaction.call token (.balanceOf client.account)
  let balance ← Interaction.shown amount decimals
  Run.printLine ("     Balance " ++ balance ++ " " ++ symbol)

/-- Checks that a network answers and that the account has what it needs. -/
def checkNetwork (s : Setup) (host : Host σ) (a : Arguments) : Run σ Failure Unit := do
  let e ← s.endpoint
  Run.printLine ("    Checking `" ++ s.network ++ "` at " ++ e.resolvedUrl s.environment)
  let client ← s.connect host e
  Run.printLine ("   Connected to `" ++ s.network ++ "` (chain ID " ++
    decimal client.chainId.toNat ++ ")")
  Run.printLine ("     Account " ++ client.account.checksum)
  let amount ← (Run.ask (client.balance client.account)).mapError .client
  let balance ← Interaction.shown amount Amount.etherDecimals
  Run.printLine ("     Balance " ++ balance ++ " ETH")
  match tokenToCheck? a s.network with
  | some token => checkToken client token
  | none => pure ()
  Run.printLine "    Finished everything looks good"

def networkChecker (host : Host σ) (a : Arguments) : Run σ Refusal Unit := do
  let s ← setup host a
  (checkNetwork s host a).mapError .failure

end TokenDesk.Command
