import TokenDesk.Chain.Dialogue
import TokenDesk.Chain.Receipt
import TokenDesk.Chain.Token
import TokenDesk.Chain.Signer
import TokenDesk.Chain.Transaction
import TokenDesk.Contract.Data
import TokenDesk.Network.Endpoint
import TokenDesk.Network.Url

/-!
# Clients

A client is connected to the node of a network and sends from one account: the node's first one, or the
one of a secret key. It reads tokens, sends their transactions and deploys contracts.
-/

set_option autoImplicit false

namespace TokenDesk

open TokenDesk.Text
open TokenDesk.Contract

/-- How the receipt of a transaction with a hash is waited for, given how many blocks are to confirm it. A
client leaves this to the library through which it speaks to nodes, which asks as often as it likes. -/
abbrev Confirm (σ : Type) : Type :=
  Node σ → (confirmations : UInt64) → (hash : Octets) → Dialogue σ Node.Error Receipt

/-- A connection to a node of states `σ`. -/
structure Client (σ : Type) where
  node : Node σ
  confirm : Confirm σ
  signer : Signer
  account : Address
  chainId : UInt64
  confirmations : UInt64
  /-- The gas that a deployment may use. -/
  gasLimit : UInt64

namespace Client

/-! ## Failures -/

/-- Why a contract's function gave nothing. -/
inductive CallError where
  /-- The arguments or the result do not have the declared types, or there is no such function. -/
  | interface
  /-- The result has not the type asked. -/
  | outputType
  | node (cause : Node.Error)
  deriving DecidableEq, Repr

def CallError.message : CallError → String
  | .interface => "Abi error: the data do not fit the interface"
  | .outputType => "Invalid output type: unexpected result"
  | .node cause => "Api error: " ++ cause.message

/-- Why a client cannot do something. -/
inductive Error where
  | badUrl (url : String) (cause : Url.Error)
  | key (cause : Signer.Error)
  | connection (url : String) (cause : Node.Error)
  | wrongChain (url : String) (expected found : UInt64)
  | accounts (cause : Node.Error)
  | noAccounts (url : String)
  | balance (cause : Node.Error)
  /-- A contract's interface is malformed. -/
  | interface
  | call (function : String) (cause : CallError)
  | transaction (function : String) (cause : Node.Error)
  | reverted (function : String) (hash : Octets)
  | noGasUsed (function : String)
  | undeployable (cause : Artifact.Error)
  | deployment (contract : String) (cause : CallError)
  | notDeployed (contract : String) (hash : Octets)
  deriving DecidableEq, Repr

def Error.message : Error → String
  | .badUrl url cause => "RPC endpoint `" ++ url ++ "`: failed to parse url: " ++ cause.message
  | .key cause => cause.message
  | .connection url cause => "Connection to `" ++ url ++ "`: " ++ cause.message
  | .wrongChain url expected found =>
    "Chain ID mismatch at `" ++ url ++ "`: expected " ++ decimal expected.toNat ++ ", found " ++
      decimal found.toNat
  | .accounts cause => "Accounts request: " ++ cause.message
  | .noAccounts url => "The node at `" ++ url ++ "` has no unlocked accounts"
  | .balance cause => "Balance request: " ++ cause.message
  | .interface => "Contract ABI parsing: malformed interface"
  | .call function cause => "Call to `" ++ function ++ "`: " ++ cause.message
  | .transaction function cause => "Transaction `" ++ function ++ "`: " ++ cause.message
  | .reverted function hash => "Transaction `" ++ function ++ "` " ++ Hex.marked hash ++ " reverted"
  | .noGasUsed function => "Transaction `" ++ function ++ "` receipt has no gas used"
  | .undeployable cause => cause.message
  | .deployment contract cause => "Contract `" ++ contract ++ "` deployment: " ++ cause.message
  | .notDeployed contract hash =>
    "Contract `" ++ contract ++ "` deployment: Failure during deployment.Tx hash: " ++
      Hex.marked hash

variable {σ : Type}

/-! ## Connecting -/

/-- The accounts that the node can sign for. -/
def nodeAccounts (node : Node σ) : Dialogue σ Error (List Address) :=
  (Dialogue.ask node "eth_accounts" [] (Wire.list? Wire.address?)).mapError .accounts

/-- The signer that an endpoint asks for. -/
def signerOf (e : Endpoint) (env : Environment) : Except Error Signer :=
  match e.resolvedKey? env with
  | some key => (Signer.parse key).mapError .key
  | none => .ok .node

/-- The identifier that a chain reports, in 64 bits. -/
def chainIdOf (reported : Nat) : UInt64 :=
  UInt64.ofNat reported

/-- The account that a signer sends from. -/
def accountOf (node : Node σ) (url : String) (signer : Signer) : Dialogue σ Error Address :=
  match signer.address? with
  | some account => pure account
  | none => do
    match ← nodeAccounts node with
    | [] => Dialogue.fail (.noAccounts url)
    | account :: _ => pure account

/-- Connects to an endpoint; `dial` gives the node at a URL. -/
def connect (dial : Url → Node σ) (confirm : Confirm σ) (e : Endpoint) (config : Config)
    (env : Environment) : Dialogue σ Error (Client σ) := do
  let url := e.resolvedUrl env
  let address ← Dialogue.ofExcept ((Url.parse url).mapError (.badUrl url))
  let node := dial address
  let signer ← Dialogue.ofExcept (signerOf e env)
  let reported ← (Dialogue.ask node "eth_chainId" [] Wire.amount?).mapError (.connection url)
  let chainId := chainIdOf reported
  match e.chainId? with
  | some expected =>
    if expected ≠ chainId then Dialogue.fail (.wrongChain url expected chainId)
    else pure ()
  | none => pure ()
  let account ← accountOf node url signer
  return ⟨node, confirm, signer, account, chainId, config.confirmationsAt e, config.gasLimit⟩

/-! ## Accounts -/

/-- The accounts that transactions can be sent from, the sending one first. -/
def signers (c : Client σ) : Dialogue σ Error (List Address) :=
  match c.signer with
  | .key _ => pure [c.account]
  | .node => nodeAccounts c.node

/-- How much of the chain's own coin an account has. -/
def balance (c : Client σ) (account : Address) : Dialogue σ Error Amount := do
  let n ← (Dialogue.ask c.node "eth_getBalance" [.string account.lower, .string "latest"]
    Wire.amount?).mapError .balance
  return .ofNatLow n

/-! ## Transactions -/

/-- The gas that a call may use. -/
def callGas : Nat := 100000

/-- What is to be sent: data for a contract, or a deployment. -/
structure Message where
  receiver? : Option Address
  gas? : Option UInt64
  data : Octets

namespace Message

/-- The form in which a node signs and sends a message. -/
def toJson (m : Message) (account : Address) : Json :=
  .object ([("from", .string account.lower)] ++
    Json.optional "to" (m.receiver?.map fun a => .string a.lower) ++
    Json.optional "gas" (m.gas?.map fun n => .string (Hex.quantity n.toNat)) ++
    [("data", .string (Hex.marked m.data))])

end Message

/-- A message as a signed transaction. A call asks the node for the chain again, a deployment goes to
the chain that was met when connecting. All questions are asked before an answer is looked at. -/
def signed (c : Client σ) (m : Message) (secret : Curve.Secp256k1.Secret) :
    Dialogue σ Node.Error Octets := do
  let isCall := m.receiver?.isSome
  let chain ←
    if isCall then Dialogue.request c.node "eth_chainId" []
    else pure (.result (.string (Hex.quantity c.chainId.toNat)))
  let price ← Dialogue.request c.node "eth_gasPrice" []
  let count ← Dialogue.request c.node "eth_getTransactionCount"
    [.string c.account.lower, .string "latest"]
  let nonce ← Dialogue.ofExcept (count.read Wire.amount?)
  let gasPrice ← Dialogue.ofExcept (price.read Wire.amount?)
  let chainId ← Dialogue.ofExcept (chain.read Wire.amount?)
  let gas := (m.gas?.map UInt64.toNat).getD callGas
  if UInt64.size ≤ chainId then Dialogue.orAbort none
  else
    let t : Transaction := ⟨nonce, gasPrice, gas, m.receiver?, m.data, UInt64.ofNat chainId⟩
    Dialogue.orAbort (t.signed? secret)

/-- Hands a message to the node and gives the hash of its transaction. -/
def submit (c : Client σ) (m : Message) : Dialogue σ Node.Error Octets :=
  match c.signer with
  | .node => Dialogue.ask c.node "eth_sendTransaction" [m.toJson c.account] Wire.digest?
  | .key secret => do
    let bytes ← c.signed m secret
    Dialogue.ask c.node "eth_sendRawTransaction" [.string (Hex.marked bytes)] Wire.digest?

/-- Sends a message and gives its receipt. -/
def send (c : Client σ) (m : Message) : Dialogue σ Node.Error Receipt := do
  let hash ← c.submit m
  c.confirm c.node c.confirmations hash

end Client

/-- Does not wait: where blocks have to confirm a transaction, the node is asked to tell of new blocks, and
then it is asked once for the receipt. A receipt that is still missing aborts. -/
def Confirm.prompt {σ : Type} : Confirm σ := fun node confirmations hash => do
  if confirmations ≠ 0 then
    let _ ← Dialogue.ask node "eth_newBlockFilter" [] Wire.text?
  let receipt? ← Dialogue.ask node "eth_getTransactionReceipt" [.string (Hex.marked hash)]
    Receipt.orPending?
  Dialogue.orAbort receipt?

namespace Client

variable {σ : Type}

/-! ## Contracts -/

/-- A contract at an address. -/
structure Binding where
  address : Address
  interface : Interface

/-- The contract at an address whose interface is given as a text. -/
def contractAt (address : Address) (interface : String) : Ending Error Binding :=
  ((Interface.parse interface).map (⟨address, ·⟩)).mapError fun _ => .interface

/-- The data of a call of a function by name, with that function. -/
def Binding.call? (b : Binding) (function : String) (arguments : List Argument) :
    Option (Function × Octets) := do
  let f ← b.interface.function? function
  let data ← f.call? arguments
  return (f, data)

/-- Calls a function that changes nothing; `accept` takes its only result. -/
def query {α : Type} (c : Client σ) (b : Binding) (function : String) (arguments : List Argument)
    (accept : Value → Option α) : Dialogue σ Error α :=
  Dialogue.mapError (.call function) do
    match b.call? function arguments with
    | none => Dialogue.fail .interface
    | some (f, data) =>
      let target : Json :=
        .object [("to", .string b.address.lower), ("data", .string (Hex.marked data))]
      let bytes ←
        (Dialogue.ask c.node "eth_call" [target, .string "latest"] Wire.data?).mapError .node
      match ← Dialogue.ofEnding ((f.results bytes).mapError fun _ => .interface) with
      | [value] => Dialogue.ofEnding (.ofOption .outputType (accept value))
      | _ => Dialogue.fail .outputType

/-- The gas that a receipt tells of, in 64 bits. -/
def gasUsed (function : String) (r : Receipt) : Except Error UInt64 :=
  if r.isReverted then .error (.reverted function r.hash)
  else
    match r.gasUsed? with
    | some gas => .ok (UInt64.ofNat gas)
    | none => .error (.noGasUsed function)

/-- Sends a call of a function and gives the gas that it used. -/
def transact (c : Client σ) (b : Binding) (function : String) (arguments : List Argument) :
    Dialogue σ Error UInt64 := do
  match b.call? function arguments with
  | none => Dialogue.fail (.transaction function .malformed)
  | some (_, data) =>
    let receipt ← (c.send ⟨some b.address, none, data⟩).mapError (.transaction function)
    Dialogue.ofExcept (gasUsed function receipt)

def takeText : Value → Option String
  | .text s => some s
  | _ => none

def takeNumber : Value → Option Nat
  | .number n => some n
  | _ => none

def takeAmount (v : Value) : Option Amount :=
  (takeNumber v).map .ofNatLow

/-- The places that a token reports, in 32 bits. -/
def placesOf (reported : Nat) : Nat :=
  reported % UInt32.size

/-- The dialogue of a token call. -/
def ask (c : Client σ) (b : Binding) : (call : TokenCall) → Dialogue σ Error call.Answer
  | .name => c.query b "name" [] takeText
  | .symbol => c.query b "symbol" [] takeText
  | .decimals => do
    let reported ← c.query b "decimals" [] takeNumber
    return placesOf reported
  | .totalSupply => c.query b "totalSupply" [] takeAmount
  | .balanceOf holder => c.query b "balanceOf" [.address holder] takeAmount
  | .transfer receiver amount => c.transact b "transfer" [.address receiver, .number amount]
  | .mint receiver amount => c.transact b "mint" [.address receiver, .number amount]
  | .transferOwnership receiver => c.transact b "transferOwnership" [.address receiver]

/-- The token at a contract. -/
def token (c : Client σ) (b : Binding) : Token σ where
  ask call := (c.ask b call).mapError Error.message

/-! ## Deployments -/

def argumentsOf : ConstructorArguments → List Argument
  | .none => []
  | .initialOwner owner => [.address owner]

/-- The bytes of a compiled contract. -/
def bytecode (artifact : Artifact) : Except Error Octets := do
  let digits ← artifact.bytecodeDigits.mapError .undeployable
  (Hex.decode digits).mapError fun _ => .undeployable (.badBytecode artifact.contractName)

/-- Deploys a compiled contract and gives its address. -/
def deploy (c : Client σ) (artifact : Artifact) (arguments : ConstructorArguments) :
    Dialogue σ Error Address := do
  let code ← Dialogue.ofExcept (bytecode artifact)
  let name := artifact.contractName
  let interface ←
    Dialogue.ofEnding ((Interface.parse artifact.abiText).mapError fun _ => .interface)
  match interface.creation? code (argumentsOf arguments) with
  | none => Dialogue.fail (.deployment name .interface)
  | some data =>
    let receipt ←
      (c.send ⟨none, some c.gasLimit, data⟩).mapError fun e => .deployment name (.node e)
    if receipt.isReverted then Dialogue.fail (.notDeployed name receipt.hash)
    else
      match receipt.contract? with
      | some address => pure address
      | none => Dialogue.fail (.notDeployed name receipt.hash)

/-- The client as the one who deploys. -/
def factory (c : Client σ) : Factory σ where
  deployer s := (.ok c.account, s)
  deploy artifact arguments := (c.deploy artifact arguments).mapError Error.message

end Client

end TokenDesk
