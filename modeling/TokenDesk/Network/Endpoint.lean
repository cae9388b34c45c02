import TokenDesk.Files.Environment
import TokenDesk.Json.Reader
import TokenDesk.Text.Blank

/-!
# Network endpoints

Where the node of a network is reached and who signs there. A configuration file names endpoints; the
networks that are known without one are a node on this machine and the Sepolia test network.
-/

set_option autoImplicit false

namespace TokenDesk

open TokenDesk.Text
open TokenDesk.Json

/-- How a network is reached. -/
structure Endpoint where
  url : String
  /-- The variable that replaces the address of the node. -/
  urlVariable? : Option String := none
  /-- The chain that has to be met there. -/
  chainId? : Option UInt64 := none
  /-- The variable that holds the secret key; without it the node signs. -/
  keyVariable? : Option String := none
  /-- How many blocks confirm a transaction, where it differs from the configuration's number. -/
  confirmations? : Option UInt64 := none
  deriving DecidableEq, Repr

namespace Endpoint

/-- A node on this machine, which needs no confirmations. -/
def onThisMachine : Endpoint where
  url := "http://127.0.0.1:8545"
  confirmations? := some 0

def sepolia : Endpoint where
  url := "https://ethereum-sepolia-rpc.publicnode.com"
  urlVariable? := some "SEPOLIA_RPC_URL"
  chainId? := some 11155111
  keyVariable? := some "PRIVATE_KEY"

/-- The value of a variable that is named and set. -/
def setting? (env : Environment) (name? : Option String) : Option String :=
  name?.bind fun name => env.lookup name

/-- The address of the node: the variable's value, unless it is blank. -/
def resolvedUrl (e : Endpoint) (env : Environment) : String :=
  match setting? env e.urlVariable? with
  | some url => if trim url == "" then e.url else url
  | none => e.url

/-- The secret key, unless the variable is blank. -/
def resolvedKey? (e : Endpoint) (env : Environment) : Option String :=
  match (setting? env e.keyVariable?).map trim with
  | some key => if key == "" then none else some key
  | none => none

/-- The fields of an endpoint that have been read. -/
structure Draft where
  url : Option String := none
  urlVariable : Option (Option String) := none
  chainId : Option (Option UInt64) := none
  keyVariable : Option (Option String) := none
  confirmations : Option (Option UInt64) := none

def layout : Layout Draft Endpoint where
  names := ["url", "url_env", "chain_id", "private_key_env", "confirmations"]
  start := {}
  field key d depth v :=
    match key with
    | "url" => (readString depth v).map fun a => { d with url := some a }
    | "url_env" => (readOptional readString depth v).map fun a => { d with urlVariable := some a }
    | "chain_id" => (readOptional readWord depth v).map fun a => { d with chainId := some a }
    | "private_key_env" =>
      (readOptional readString depth v).map fun a => { d with keyVariable := some a }
    | _ => (readOptional readWord depth v).map fun a => { d with confirmations := some a }
  has key d :=
    match key with
    | "url" => d.url.isSome
    | "url_env" => d.urlVariable.isSome
    | "chain_id" => d.chainId.isSome
    | "private_key_env" => d.keyVariable.isSome
    | _ => d.confirmations.isSome
  finish d :=
    (required "url" d.url).map fun url =>
      ⟨url, d.urlVariable.getD none, d.chainId.getD none, d.keyVariable.getD none,
        d.confirmations.getD none⟩

def read : Reader Endpoint :=
  readRecord layout

end Endpoint

/-- What a configuration file settles. -/
structure Config where
  /-- The endpoints by network name, names ascending. -/
  endpoints : List (String × Endpoint) := []
  /-- How many blocks confirm a transaction. -/
  confirmations : UInt64 := 1
  /-- The gas that a deployment may use. -/
  gasLimit : UInt64 := 3000000
  deriving DecidableEq, Repr

namespace Config

/-- The networks known without a configuration. -/
def builtIn : List (String × Endpoint) :=
  [("hardhat", .onThisMachine), ("localhost", .onThisMachine), ("sepolia", .sepolia)]

/-- The names of all networks, ascending. -/
def knownNetworks (c : Config) : List String :=
  ((builtIn ++ c.endpoints).map Prod.fst).eraseDups.mergeSort fun a b => a ≤ b

/-- No endpoint goes by this name. -/
structure UnknownNetwork where
  name : String
  known : List String
  deriving DecidableEq, Repr

def UnknownNetwork.message (e : UnknownNetwork) : String :=
  "Network `" ++ e.name ++ "` is not configured. Known networks: " ++
    String.intercalate ", " e.known

/-- The endpoint of a network: the file's before the built-in one. -/
def endpoint (c : Config) (name : String) : Except UnknownNetwork Endpoint :=
  match (c.endpoints ++ builtIn).lookup name with
  | some e => .ok e
  | none => .error ⟨name, c.knownNetworks⟩

/-- How many blocks confirm a transaction at an endpoint. -/
def confirmationsAt (c : Config) (e : Endpoint) : UInt64 :=
  e.confirmations?.getD c.confirmations

/-- The fields of a configuration that have been read. -/
structure Draft where
  endpoints : Option (List (String × Endpoint)) := none
  confirmations : Option UInt64 := none
  gasLimit : Option UInt64 := none

def layout : Layout Draft Config where
  names := ["networks", "confirmations", "gas_limit"]
  start := {}
  field key d depth v :=
    match key with
    | "networks" => (readTable Endpoint.read depth v).map fun a => { d with endpoints := some a }
    | "confirmations" => (readWord depth v).map fun a => { d with confirmations := some a }
    | _ => (readWord depth v).map fun a => { d with gasLimit := some a }
  has key d :=
    match key with
    | "networks" => d.endpoints.isSome
    | "confirmations" => d.confirmations.isSome
    | _ => d.gasLimit.isSome
  finish d :=
    let preset : Config := {}
    .ok ⟨d.endpoints.getD [], d.confirmations.getD preset.confirmations,
      d.gasLimit.getD preset.gasLimit⟩

def read : Reader Config :=
  readRecord layout

/-- The characters of a file whose strings are looked at only where they are asked for. A byte that
is no text counts as a lone half character: it spoils the string that holds it, if that is asked for.
Behind a backslash it is no escape, whether the string is asked for or not. -/
def lenientChars (isEscaped : Bool) : List (Option Char) → List Char
  | [] => []
  | some c :: cs => c :: lenientChars (c == '\\' && !isEscaped) cs
  | none :: cs => (if isEscaped then ['?'] else "\\udc00\\udc00".toList) ++ lenientChars false cs

/-- Reads the bytes of a configuration file. -/
def ofBytes (bytes : Octets) : Except Fault Config :=
  readText read (String.ofList (lenientChars false (decode bytes)))

end Config

end TokenDesk
