import TokenDesk.Record.Deployment
import TokenDesk.Chain.Address

/-!
# Build artifacts

What the compiler leaves of a contract: its names, its interface and its bytecode. A contract can be
deployed if its constructor takes nothing or the address of its owner.
-/

set_option autoImplicit false

namespace TokenDesk

open TokenDesk.Text
open TokenDesk.Json

/-- What a constructor is given. -/
inductive ConstructorArguments where | none | initialOwner (owner : Address)
  deriving DecidableEq

def ConstructorArguments.text : ConstructorArguments → String
  | .none => "()"
  | .initialOwner owner => "(initialOwner: " ++ owner.checksum ++ ")"

/-- A compiled contract. -/
structure Artifact where
  contractName : String
  sourceName : String
  abi : List AbiItem
  bytecode : String
  deriving Repr

namespace Artifact

/-- Why a compiled contract cannot be deployed. -/
inductive Error where
  | noBytecode (contract : String)
  | badBytecode (contract : String)
  | badConstructor (contract : String) (kinds : List String)
  deriving DecidableEq, Repr

def Error.message : Error → String
  | .noBytecode contract =>
    "Contract `" ++ contract ++
      "` has no bytecode. Abstract contracts and interfaces cannot be deployed"
  | .badBytecode contract =>
    "Contract `" ++ contract ++
      "` bytecode is not valid hex. Unlinked libraries are not supported"
  | .badConstructor contract kinds =>
    "Contract `" ++ contract ++ "` constructor (" ++ String.intercalate ", " kinds ++
      ") is not supported. Expected no parameters or a single owner address"

/-- The interface as text. -/
def abiText (a : Artifact) : String :=
  compact (AbiItem.listToJson a.abi)

/-- The digits of the bytecode, without mark and blanks. -/
def bytecodeDigits (a : Artifact) : Except Error (List Char) :=
  let cs := dropHexMark (trimChars a.bytecode.toList)
  if cs.isEmpty then .error (.noBytecode a.contractName)
  else if byteLength cs % 2 ≠ 0 || !cs.all Hex.isDigit then .error (.badBytecode a.contractName)
  else .ok cs

/-- The first constructor of the interface. -/
def constructor? (a : Artifact) : Option AbiItem :=
  a.abi.find? AbiItem.isConstructor

/-- What the constructor is to be given by a deployer. -/
def arguments (a : Artifact) (deployer : Address) : Except Error ConstructorArguments :=
  match a.constructor?.map AbiItem.inputs with
  | none | some [] => .ok .none
  | some [input] =>
    if input.kind = "address" then .ok (.initialOwner deployer)
    else .error (.badConstructor a.contractName [input.kind])
  | some inputs => .error (.badConstructor a.contractName (inputs.map Parameter.kind))

/-- The fields of an artifact that have been read. -/
structure Draft where
  contractName : Option String := none
  sourceName : Option String := none
  abi : Option (List AbiItem) := none
  bytecode : Option String := none

def layout : Layout Draft Artifact where
  names := ["contractName", "sourceName", "abi", "bytecode"]
  start := {}
  field key d depth v :=
    match key with
    | "contractName" => (readString depth v).map fun a => { d with contractName := some a }
    | "sourceName" => (readString depth v).map fun a => { d with sourceName := some a }
    | "abi" => (readList AbiItem.read depth v).map fun a => { d with abi := some a }
    | _ => (readString depth v).map fun a => { d with bytecode := some a }
  has key d :=
    match key with
    | "contractName" => d.contractName.isSome
    | "sourceName" => d.sourceName.isSome
    | "abi" => d.abi.isSome
    | _ => d.bytecode.isSome
  finish d := do
    let contractName ← required "contractName" d.contractName
    let sourceName ← required "sourceName" d.sourceName
    let abi ← required "abi" d.abi
    let bytecode ← required "bytecode" d.bytecode
    .ok ⟨contractName, sourceName, abi, bytecode⟩

def read : Reader Artifact :=
  readRecord layout

end Artifact

end TokenDesk
