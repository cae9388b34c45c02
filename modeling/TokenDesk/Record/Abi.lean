import TokenDesk.Json.Reader
import TokenDesk.Json.Printer

/-!
# Contract interfaces

The entries of a contract's ABI as the Solidity compiler emits them. An absent field stays absent when
an entry is written again; only the name of a parameter is always written.
-/

set_option autoImplicit false

namespace TokenDesk

open TokenDesk.Json

/-- A parameter; the components are those of a tuple. -/
inductive Parameter where
  | mk (name kind : String) (internalType? : Option String) (indexed? : Option Bool)
      (components? : Option (List Parameter))
  deriving Repr

namespace Parameter

def name : Parameter → String
  | mk name _ _ _ _ => name

def kind : Parameter → String
  | mk _ kind _ _ _ => kind

/-- A parameter with a name and a type and nothing else. -/
def plain (name kind : String) : Parameter :=
  mk name kind none none none

mutual

def toJson : Parameter → Json
  | mk name kind internalType? indexed? components? =>
    .object ([("name", .string name), ("type", .string kind)] ++
      optional "internalType" (internalType?.map .string) ++
      optional "indexed" (indexed?.map .bool) ++
      optional "components" (optionToJson components?))

def optionToJson : Option (List Parameter) → Option Json
  | none => none
  | some ps => some (.array (listToJson ps))

def listToJson : List Parameter → List Json
  | [] => []
  | p :: ps => toJson p :: listToJson ps

end

/-- The fields of a parameter that have been read. -/
structure Draft where
  name : Option String := none
  kind : Option String := none
  internalType : Option (Option String) := none
  indexed : Option (Option Bool) := none
  components : Option (Option (List Parameter)) := none

/-- How a parameter is read, given how its components are. -/
def layout (components : Reader (Option (List Parameter))) : Layout Draft Parameter where
  names := ["name", "type", "internalType", "indexed", "components"]
  start := {}
  field key d depth v :=
    match key with
    | "name" => (readString depth v).map fun a => { d with name := some a }
    | "type" => (readString depth v).map fun a => { d with kind := some a }
    | "internalType" =>
      (readOptional readString depth v).map fun a => { d with internalType := some a }
    | "indexed" => (readOptional readBool depth v).map fun a => { d with indexed := some a }
    | _ => (components depth v).map fun a => { d with components := some a }
  has key d :=
    match key with
    | "name" => d.name.isSome
    | "type" => d.kind.isSome
    | "internalType" => d.internalType.isSome
    | "indexed" => d.indexed.isSome
    | _ => d.components.isSome
  finish d :=
    (required "type" d.kind).map fun kind =>
      mk (d.name.getD "") kind (d.internalType.getD none) (d.indexed.getD none)
        (d.components.getD none)

/-- Reads a parameter whose components nest at most `levels` deep. -/
def readLevels : Nat → Reader Parameter
  | 0 => fun _ _ => .error .invalid
  | levels + 1 => readRecord (layout (readOptional (readList (readLevels levels))))

/-- Each level of components takes part of the nesting, so more levels than that are never met. -/
def read : Reader Parameter := fun depth =>
  readLevels (depth + 1) depth

end Parameter

/-- An entry of a contract's ABI. -/
structure AbiItem where
  kind : String
  name? : Option String := none
  inputs? : Option (List Parameter) := none
  outputs? : Option (List Parameter) := none
  stateMutability? : Option String := none
  anonymous? : Option Bool := none
  deriving Repr

namespace AbiItem

def isFunction (item : AbiItem) : Bool :=
  item.kind == "function"

def isConstructor (item : AbiItem) : Bool :=
  item.kind == "constructor"

/-- Whether a call changes nothing. -/
def isReadOnly (item : AbiItem) : Bool :=
  item.stateMutability? == some "view" || item.stateMutability? == some "pure"

def inputs (item : AbiItem) : List Parameter :=
  item.inputs?.getD []

def name (item : AbiItem) : String :=
  item.name?.getD ""

/-- The name with the declared types of the parameters. -/
def signature (item : AbiItem) : String :=
  item.name ++ "(" ++ String.intercalate "," (item.inputs.map Parameter.kind) ++ ")"

def toJson (item : AbiItem) : Json :=
  .object ([("type", .string item.kind)] ++
    optional "name" (item.name?.map .string) ++
    optional "inputs" (Parameter.optionToJson item.inputs?) ++
    optional "outputs" (Parameter.optionToJson item.outputs?) ++
    optional "stateMutability" (item.stateMutability?.map .string) ++
    optional "anonymous" (item.anonymous?.map .bool))

/-- The fields of an entry that have been read. -/
structure Draft where
  kind : Option String := none
  name : Option (Option String) := none
  inputs : Option (Option (List Parameter)) := none
  outputs : Option (Option (List Parameter)) := none
  stateMutability : Option (Option String) := none
  anonymous : Option (Option Bool) := none

def layout : Layout Draft AbiItem where
  names := ["type", "name", "inputs", "outputs", "stateMutability", "anonymous"]
  start := {}
  field key d depth v :=
    match key with
    | "type" => (readString depth v).map fun a => { d with kind := some a }
    | "name" => (readOptional readString depth v).map fun a => { d with name := some a }
    | "inputs" =>
      (readOptional (readList Parameter.read) depth v).map fun a => { d with inputs := some a }
    | "outputs" =>
      (readOptional (readList Parameter.read) depth v).map fun a => { d with outputs := some a }
    | "stateMutability" =>
      (readOptional readString depth v).map fun a => { d with stateMutability := some a }
    | _ => (readOptional readBool depth v).map fun a => { d with anonymous := some a }
  has key d :=
    match key with
    | "type" => d.kind.isSome
    | "name" => d.name.isSome
    | "inputs" => d.inputs.isSome
    | "outputs" => d.outputs.isSome
    | "stateMutability" => d.stateMutability.isSome
    | _ => d.anonymous.isSome
  finish d :=
    (required "type" d.kind).map fun kind =>
      ⟨kind, d.name.getD none, d.inputs.getD none, d.outputs.getD none,
        d.stateMutability.getD none, d.anonymous.getD none⟩

def read : Reader AbiItem :=
  readRecord layout

/-- The interface as one array. -/
def listToJson (abi : List AbiItem) : Json :=
  .array (abi.map toJson)

end AbiItem

end TokenDesk
