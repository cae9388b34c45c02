import TokenDesk.Record.Deployment
import TokenDesk.Network.Category

/-!
# Report entries

What a run on a deployed token leaves behind: the gas of each gated operation, the balances of the
roles and the supply before and after. Gas is written as a string, so that no 64-bit word is rounded.
-/

set_option autoImplicit false

namespace TokenDesk

open TokenDesk.Text
open TokenDesk.Json

/-- What became of a gated operation. -/
inductive GasOutcome where | recorded (gas : UInt64) | failed | disabled
  deriving DecidableEq, Repr

namespace GasOutcome

def failedMarker : String := "FAILED"

def disabledMarker : String := "DISABLED"

def text : GasOutcome → String
  | .recorded gas => decimal gas.toNat
  | .failed => failedMarker
  | .disabled => disabledMarker

/-- Why a text is no outcome. -/
structure Error where
  value : String
  cause : NumeralError
  deriving DecidableEq, Repr

def Error.message (e : Error) : String :=
  "Invalid gas value `" ++ e.value ++ "`: " ++ e.cause.message

def parse (value : String) : Except Error GasOutcome :=
  if value = failedMarker then .ok .failed
  else if value = disabledMarker then .ok .disabled
  else
    match word64 value with
    | .ok gas => .ok (.recorded gas)
    | .error cause => .error ⟨value, cause⟩

/-- Whether the operation was tried. -/
def isAttempted : GasOutcome → Bool
  | .disabled => false
  | _ => true

def toJson (g : GasOutcome) : Json :=
  .string g.text

def read : Reader GasOutcome
  | _, .string (some s) =>
    match parse s with
    | .ok g => .ok g
    | .error _ => .error .invalid
  | _, _ => .error .invalid

end GasOutcome

/-- The outcomes of the three gated operations. -/
structure GasUsage where
  transfer : GasOutcome
  mint : GasOutcome
  transferOwnership : GasOutcome
  deriving DecidableEq, Repr

namespace GasUsage

/-- How many operations were tried. -/
def attempted (g : GasUsage) : Nat :=
  ([g.transfer, g.mint, g.transferOwnership].filter GasOutcome.isAttempted).length

def toJson (g : GasUsage) : Json :=
  .object [("transfer", g.transfer.toJson), ("mint", g.mint.toJson),
    ("transferOwnership", g.transferOwnership.toJson)]

/-- The fields that have been read. -/
structure Draft where
  transfer : Option GasOutcome := none
  mint : Option GasOutcome := none
  transferOwnership : Option GasOutcome := none

def layout : Layout Draft GasUsage where
  names := ["transfer", "mint", "transferOwnership"]
  start := {}
  field key d depth v :=
    match key with
    | "transfer" => (GasOutcome.read depth v).map fun a => { d with transfer := some a }
    | "mint" => (GasOutcome.read depth v).map fun a => { d with mint := some a }
    | _ => (GasOutcome.read depth v).map fun a => { d with transferOwnership := some a }
  has key d :=
    match key with
    | "transfer" => d.transfer.isSome
    | "mint" => d.mint.isSome
    | _ => d.transferOwnership.isSome
  finish d := do
    let transfer ← required "transfer" d.transfer
    let mint ← required "mint" d.mint
    let transferOwnership ← required "transferOwnership" d.transferOwnership
    .ok ⟨transfer, mint, transferOwnership⟩

def read : Reader GasUsage :=
  readRecord layout

end GasUsage

/-- The balances of the roles at the end of a run, in decimal form. -/
structure Balances where
  owner : String
  user1 : String
  user2 : String
  deriving DecidableEq, Repr

namespace Balances

def toJson (b : Balances) : Json :=
  .object [("owner", .string b.owner), ("user1", .string b.user1), ("user2", .string b.user2)]

/-- The fields that have been read. -/
structure Draft where
  owner : Option String := none
  user1 : Option String := none
  user2 : Option String := none

def layout : Layout Draft Balances where
  names := ["owner", "user1", "user2"]
  start := {}
  field key d depth v :=
    match key with
    | "owner" => (readString depth v).map fun a => { d with owner := some a }
    | "user1" => (readString depth v).map fun a => { d with user1 := some a }
    | _ => (readString depth v).map fun a => { d with user2 := some a }
  has key d :=
    match key with
    | "owner" => d.owner.isSome
    | "user1" => d.user1.isSome
    | _ => d.user2.isSome
  finish d := do
    let owner ← required "owner" d.owner
    let user1 ← required "user1" d.user1
    let user2 ← required "user2" d.user2
    .ok ⟨owner, user1, user2⟩

def read : Reader Balances :=
  readRecord layout

end Balances

namespace Mode

def toJson (m : Mode) : Json :=
  .string m.name

/-- A mode is written by its name; an object with the name as its only key and null is read too. -/
def read : Reader Mode
  | _, .string (some s) =>
    match ofName? s with
    | some m => .ok m
    | none => .error .invalid
  | _ + 1, .object [(some key, .null)] true =>
    match ofName? key with
    | some m => .ok m
    | none => .error .invalid
  | _, _ => .error .invalid

end Mode

/-- A run on a deployed token. -/
structure ReportEntry where
  timestamp : Time.Instant
  network : String
  mode : Mode
  contract : String
  address : String
  gasUsage : GasUsage
  balances : Balances
  totalSupplyBefore : String
  totalSupplyAfter : String
  deriving DecidableEq, Repr

namespace ReportEntry

def toJson (e : ReportEntry) : Json :=
  .object [("timestamp", e.timestamp.toJson), ("network", .string e.network),
    ("mode", e.mode.toJson), ("contract", .string e.contract), ("address", .string e.address),
    ("gasUsage", e.gasUsage.toJson), ("balances", e.balances.toJson),
    ("totalSupplyBefore", .string e.totalSupplyBefore),
    ("totalSupplyAfter", .string e.totalSupplyAfter)]

/-- The fields of an entry that have been read. -/
structure Draft where
  timestamp : Option Time.Instant := none
  network : Option String := none
  mode : Option Mode := none
  contract : Option String := none
  address : Option String := none
  gasUsage : Option GasUsage := none
  balances : Option Balances := none
  totalSupplyBefore : Option String := none
  totalSupplyAfter : Option String := none

def layout : Layout Draft ReportEntry where
  names := ["timestamp", "network", "mode", "contract", "address", "gasUsage", "balances",
    "totalSupplyBefore", "totalSupplyAfter"]
  start := {}
  field key d depth v :=
    match key with
    | "timestamp" => (Time.Instant.read depth v).map fun a => { d with timestamp := some a }
    | "network" => (readString depth v).map fun a => { d with network := some a }
    | "mode" => (Mode.read depth v).map fun a => { d with mode := some a }
    | "contract" => (readString depth v).map fun a => { d with contract := some a }
    | "address" => (readString depth v).map fun a => { d with address := some a }
    | "gasUsage" => (GasUsage.read depth v).map fun a => { d with gasUsage := some a }
    | "balances" => (Balances.read depth v).map fun a => { d with balances := some a }
    | "totalSupplyBefore" =>
      (readString depth v).map fun a => { d with totalSupplyBefore := some a }
    | _ => (readString depth v).map fun a => { d with totalSupplyAfter := some a }
  has key d :=
    match key with
    | "timestamp" => d.timestamp.isSome
    | "network" => d.network.isSome
    | "mode" => d.mode.isSome
    | "contract" => d.contract.isSome
    | "address" => d.address.isSome
    | "gasUsage" => d.gasUsage.isSome
    | "balances" => d.balances.isSome
    | "totalSupplyBefore" => d.totalSupplyBefore.isSome
    | _ => d.totalSupplyAfter.isSome
  finish d := do
    let timestamp ← required "timestamp" d.timestamp
    let network ← required "network" d.network
    let mode ← required "mode" d.mode
    let contract ← required "contract" d.contract
    let address ← required "address" d.address
    let gasUsage ← required "gasUsage" d.gasUsage
    let balances ← required "balances" d.balances
    let totalSupplyBefore ← required "totalSupplyBefore" d.totalSupplyBefore
    let totalSupplyAfter ← required "totalSupplyAfter" d.totalSupplyAfter
    .ok ⟨timestamp, network, mode, contract, address, gasUsage, balances, totalSupplyBefore,
      totalSupplyAfter⟩

def read : Reader ReportEntry :=
  readRecord layout

end ReportEntry

end TokenDesk
