import TokenDesk.Run.Failure

/-!
# Interacting with a token

One run exercises the latest deployed token with the operations that the network's mode permits and
appends an entry to the report log. An operation that the chain refuses is recorded as failed and does
not end the run; every other refusal does. In the restricted mode the chain is not even connected.
-/

set_option autoImplicit false

namespace TokenDesk

open TokenDesk.Text

/-- A token that has been connected, with the roles of the run. -/
structure Session (σ : Type) where
  token : Token σ
  roles : Roles

/-- Which token to interact with. -/
structure Interaction where
  workspace : Workspace
  network : String
  quiet : Bool := false

namespace Interaction

/-- What the owner transfers to the first user. -/
def transferAmount : String := "0.001"

/-- What is minted for the second user. -/
def mintAmount : String := "0.01"

/-- The amounts of a run in base units. -/
structure Stakes where
  transfer : Amount
  mint : Amount

/-- What a token says of itself. -/
structure Profile where
  name : String
  symbol : String
  decimals : Nat
  totalSupply : Amount

variable {σ : Type}

/-- Calls a token. -/
def call (token : Token σ) (c : TokenCall) : Run σ Failure c.Answer :=
  (Run.ask (token.ask c)).mapError .chain

/-- The decimal form of an amount; the run aborts where it has none. -/
def shown (amount : Amount) (decimals : Nat) : Run σ Failure String :=
  Run.orAbort (amount.format? decimals)

def profile (token : Token σ) : Run σ Failure Profile := do
  let name ← call token .name
  let symbol ← call token .symbol
  let decimals ← call token .decimals
  let totalSupply ← call token .totalSupply
  return ⟨name, symbol, decimals, totalSupply⟩

def announce (i : Interaction) (p : Profile) : Run σ Failure Unit :=
  if i.quiet then pure ()
  else do
    let supply ← shown p.totalSupply p.decimals
    Run.printLine ("       Token " ++ p.name ++ " (" ++ p.symbol ++ "), " ++ decimal p.decimals ++
      " decimals, total supply " ++ supply ++ " " ++ p.symbol)

def stakes (decimals : Nat) : Ending Failure Stakes := do
  let transfer ← (Amount.parse transferAmount decimals).mapError .amount
  let mint ← (Amount.parse mintAmount decimals).mapError .amount
  return ⟨transfer, mint⟩

/-- The transaction of an operation. -/
def transaction (token : Token σ) (roles : Roles) (stakes : Stakes) :
    Action → Run σ Failure UInt64
  | .transfer => call token (.transfer roles.user1 stakes.transfer)
  | .mint => call token (.mint roles.user2 stakes.mint)
  | .transferOwnership => call token (.transferOwnership roles.user1)

/-- Attempts an operation unless the mode forbids it. -/
def outcome (i : Interaction) (mode : Mode) (session : Session σ) (stakes : Stakes)
    (action : Action) : Run σ Failure GasOutcome :=
  if !mode.permits action then pure .disabled
  else do
    match ← Run.attempt (transaction session.token session.roles stakes action) with
    | .ok gas =>
      Run.status i.quiet ("   Succeeded " ++ action.name ++ " in " ++ mode.name ++
        " mode, gas used " ++ decimal gas.toNat)
      return .recorded gas
    | .error e =>
      Run.status i.quiet ("      Failed " ++ action.name ++ ": " ++ e.message)
      return .failed

def gasUsage (i : Interaction) (mode : Mode) (session : Session σ) (stakes : Stakes) :
    Run σ Failure GasUsage := do
  let transfer ← i.outcome mode session stakes .transfer
  let mint ← i.outcome mode session stakes .mint
  let transferOwnership ← i.outcome mode session stakes .transferOwnership
  return ⟨transfer, mint, transferOwnership⟩

def balance (token : Token σ) (decimals : Nat) (holder : Address) : Run σ Failure String := do
  let amount ← call token (.balanceOf holder)
  shown amount decimals

def balances (session : Session σ) (decimals : Nat) : Run σ Failure Balances := do
  let owner ← balance session.token decimals session.roles.owner
  let user1 ← balance session.token decimals session.roles.user1
  let user2 ← balance session.token decimals session.roles.user2
  return ⟨owner, user1, user2⟩

def announceBalances (i : Interaction) (p : Profile) (b : Balances) (supply : Amount) :
    Run σ Failure Unit :=
  if i.quiet then pure ()
  else do
    let supply ← shown supply p.decimals
    Run.printLine ("    Balances owner " ++ b.owner ++ " " ++ p.symbol ++ ", user1 " ++ b.user1 ++
      " " ++ p.symbol ++ ", user2 " ++ b.user2 ++ " " ++ p.symbol ++ ", total supply " ++ supply ++
      " " ++ p.symbol)

/-- The part of a run that uses the chain. -/
def exercise (i : Interaction) (mode : Mode) (deployment : DeploymentRecord) (session : Session σ)
    (now : Time.Instant) : Run σ Failure ReportEntry := do
  let profile ← profile session.token
  i.announce profile
  let stakes ← Run.ofEnding (stakes profile.decimals)
  let gasUsage ← i.gasUsage mode session stakes
  let balances ← balances session profile.decimals
  let supplyAfter ← call session.token .totalSupply
  i.announceBalances profile balances supplyAfter
  let before ← shown profile.totalSupply profile.decimals
  let after ← shown supplyAfter profile.decimals
  let entry : ReportEntry :=
    ⟨now.truncate, i.network, mode, deployment.contract, deployment.address, gasUsage, balances, before,
      after⟩
  let log := i.workspace.reportLog i.network
  let _ ← (Run.change (log.append entry)).mapError .log
  Run.status i.quiet ("       Saved interaction report to " ++ quoted log.path)
  return entry

/-- Interacts with the latest token at a point in time; none where the mode forbids everything. -/
def run (i : Interaction) (connect : DeploymentRecord → Run σ Failure (Session σ))
    (now : Time.Instant) : Run σ Failure (Option ReportEntry) := do
  let deployment ← Run.look (i.workspace.latestDeployment i.network)
  let category := Category.ofNetwork i.network
  let mode := category.mode
  Run.status i.quiet ("   Connected to `" ++ i.network ++ "` (" ++ category.name ++ " network, " ++
    mode.name ++ " mode)")
  Run.status i.quiet ("    Contract " ++ deployment.contract ++ " at " ++ deployment.address ++
    ", deployed " ++ deployment.timestamp.offsetText)
  if !mode.writesReport then
    Run.status i.quiet
      "    Skipping mainnet detected, exiting without executing any operations"
    return none
  else
    let session ← connect deployment
    let entry ← i.exercise mode deployment session now
    return some entry

end Interaction

end TokenDesk
