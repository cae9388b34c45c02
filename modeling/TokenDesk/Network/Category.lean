import TokenDesk.Text.Blank

/-!
# Network categories

The category of a network follows from its name alone and fixes what a run may do there. A name
that is not known as local or as a test network counts as a production chain.
-/

set_option autoImplicit false

namespace TokenDesk

/-- The gated operations of a token. -/
inductive Action where | transfer | mint | transferOwnership
  deriving DecidableEq, Repr

def Action.name : Action → String
  | .transfer => "transfer"
  | .mint => "mint"
  | .transferOwnership => "transferOwnership"

/-- All operations, in the order in which a run attempts them. -/
def Action.all : List Action := [.transfer, .mint, .transferOwnership]

/-- How far a run may go. -/
inductive Mode where | full | safe | restricted
  deriving DecidableEq, Repr

namespace Mode

def name : Mode → String
  | .full => "FULL"
  | .safe => "SAFE"
  | .restricted => "RESTRICTED"

/-- The mode with this name. -/
def ofName? (text : String) : Option Mode :=
  [Mode.full, .safe, .restricted].find? fun mode => mode.name == text

def permits : Mode → Action → Bool
  | .full, _ => true
  | .safe, .transfer => true
  | _, _ => false

def writesReport : Mode → Bool
  | .restricted => false
  | _ => true

end Mode

/-- The risk category of a network. -/
inductive Category where | localNode | testnet | mainnet
  deriving DecidableEq, Repr

namespace Category

def name : Category → String
  | .localNode => "LOCAL"
  | .testnet => "TESTNET"
  | .mainnet => "MAINNET"

def localNetworks : List String := ["localhost", "hardhat"]

def testNetworks : List String := ["sepolia", "goerli", "mumbai", "polygonZkEVMTestnet"]

/-- The category of a network name. -/
def ofNetwork (network : String) : Category :=
  if network ∈ localNetworks then .localNode
  else if network ∈ testNetworks then .testnet
  else .mainnet

def mode : Category → Mode
  | .localNode => .full
  | .testnet => .safe
  | .mainnet => .restricted

end Category

/-- The network used where nothing names one. -/
def defaultNetwork : String := "localhost"

/-- The variable that names the network where no argument does. -/
def networkVariable : String := "HARDHAT_NETWORK"

/-- The argument, else the variable unless it is blank, else the default. -/
def selectNetwork (argument assigned : Option String) : String :=
  match argument with
  | some name => name
  | none =>
    match assigned with
    | some name => if Text.trim name == "" then defaultNetwork else name
    | none => defaultNetwork

end TokenDesk
