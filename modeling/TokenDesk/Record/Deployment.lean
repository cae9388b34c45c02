import TokenDesk.Record.Abi
import TokenDesk.Time.Instant

/-!
# Deployment records

What a deployment leaves behind: the contract with its interface, where it stands, and who put it
there when.
-/

set_option autoImplicit false

namespace TokenDesk

open TokenDesk.Json

namespace Time.Instant

/-- An instant is written with milliseconds in universal time. -/
def toJson (t : Instant) : Json :=
  .string t.millisText

def read : Reader Instant
  | _, .string (some s) =>
    match parse? s with
    | some t => .ok t
    | none => .error .invalid
  | _, _ => .error .invalid

end Time.Instant

/-- A deployed contract. -/
structure DeploymentRecord where
  contract : String
  address : String
  network : String
  timestamp : Time.Instant
  deployer : String
  abi : List AbiItem
  deriving Repr

namespace DeploymentRecord

def functions (r : DeploymentRecord) : List AbiItem :=
  r.abi.filter AbiItem.isFunction

/-- The first function with this signature or this name. -/
def function? (r : DeploymentRecord) (selector : String) : Option AbiItem :=
  r.functions.find? fun item => item.signature == selector || item.name? == some selector

/-- The signatures of all functions, in the order of the interface. -/
def signatures (r : DeploymentRecord) : List String :=
  r.functions.map AbiItem.signature

/-- The interface as text. -/
def abiText (r : DeploymentRecord) : String :=
  compact (AbiItem.listToJson r.abi)

def toJson (r : DeploymentRecord) : Json :=
  .object [("contract", .string r.contract), ("address", .string r.address),
    ("network", .string r.network), ("timestamp", r.timestamp.toJson),
    ("deployer", .string r.deployer), ("abi", AbiItem.listToJson r.abi)]

/-- The fields of a record that have been read. -/
structure Draft where
  contract : Option String := none
  address : Option String := none
  network : Option String := none
  timestamp : Option Time.Instant := none
  deployer : Option String := none
  abi : Option (List AbiItem) := none

def layout : Layout Draft DeploymentRecord where
  names := ["contract", "address", "network", "timestamp", "deployer", "abi"]
  start := {}
  field key d depth v :=
    match key with
    | "contract" => (readString depth v).map fun a => { d with contract := some a }
    | "address" => (readString depth v).map fun a => { d with address := some a }
    | "network" => (readString depth v).map fun a => { d with network := some a }
    | "timestamp" => (Time.Instant.read depth v).map fun a => { d with timestamp := some a }
    | "deployer" => (readString depth v).map fun a => { d with deployer := some a }
    | _ => (readList AbiItem.read depth v).map fun a => { d with abi := some a }
  has key d :=
    match key with
    | "contract" => d.contract.isSome
    | "address" => d.address.isSome
    | "network" => d.network.isSome
    | "timestamp" => d.timestamp.isSome
    | "deployer" => d.deployer.isSome
    | _ => d.abi.isSome
  finish d := do
    let contract ← required "contract" d.contract
    let address ← required "address" d.address
    let network ← required "network" d.network
    let timestamp ← required "timestamp" d.timestamp
    let deployer ← required "deployer" d.deployer
    let abi ← required "abi" d.abi
    .ok ⟨contract, address, network, timestamp, deployer, abi⟩

def read : Reader DeploymentRecord :=
  readRecord layout

end DeploymentRecord

end TokenDesk
