import TokenDesk.Chain.Address
import TokenDesk.Chain.Amount
import TokenDesk.Contract.Interface
import TokenDesk.Text.BigEndian

/-!
# Call data and results

Arguments and results are written in words of 32 bytes. A value of varying size stands behind the
words of its neighbours, and an offset in its place says where. Reading follows the offsets wherever
they lead, but never out of the data, and does not look at what is left over.
-/

set_option autoImplicit false

namespace TokenDesk.Contract

open TokenDesk.Text

/-! ## Arguments -/

/-- What a call is given. -/
inductive Argument where | address (a : Address) | number (n : Amount)

namespace Argument

/-- Whether an argument has a declared type; numbers have every unsigned one. -/
def fits : Argument → ValueType → Bool
  | address _, .address => true
  | number _, .uint _ => true
  | _, _ => false

def fitAll : List Argument → List ValueType → Bool
  | [], [] => true
  | a :: as, t :: ts => fits a t && fitAll as ts
  | _, _ => false

def word : Argument → Octets
  | address a => List.replicate 12 0 ++ a.bytes
  | number n => bytes32 n.units

/-- The words of arguments; none where they do not have the declared types. -/
def encode? (arguments : List Argument) (types : List ValueType) : Option Octets :=
  if fitAll arguments types then some (arguments.flatMap word) else none

end Argument

/-- The data of a call: the selector and the arguments. -/
def Function.call? (f : Function) (arguments : List Argument) : Option Octets :=
  (Argument.encode? arguments f.inputs).map (f.selector ++ ·)

/-- The data of a deployment: the bytecode and the arguments, which need a constructor. -/
def Interface.creation? (i : Interface) (bytecode : Octets) (arguments : List Argument) :
    Option Octets :=
  match i.constructor? with
  | some types => (Argument.encode? arguments types).map (bytecode ++ ·)
  | none => if arguments.isEmpty then some bytecode else none

/-! ## Results -/

/-- What a call gives. -/
inductive Value where
  | address (bs : Octets)
  | flag (b : Bool)
  | bytes (bs : Octets)
  | text (s : String)
  | number (n : Nat)
  | list (items : List Value)
  deriving Repr

/-- The bytes from an offset on, as many as asked; the data must not end before. Where they would end
past all numbers of 64 bits, reading aborts. -/
def slice (data : Octets) (offset length : Nat) : Reading Octets :=
  if UInt64.size ≤ offset + length then .aborted
  else if offset + length ≤ data.length then .ok ((data.drop offset).take length)
  else .failed ()

def word (data : Octets) (offset : Nat) : Reading Nat :=
  (slice data offset 32).map natOf

/-- An offset or a length: a word that fits 32 bits. -/
def place (data : Octets) (offset : Nat) : Reading Nat := do
  let n ← word data offset
  if n < UInt32.size then return n else .failed ()

/-- The bytes that an offset leads to, behind their length. -/
def bytesAt (data : Octets) (offset : Nat) : Reading Octets := do
  let start ← place data offset
  let length ← place data start
  slice data (start + 32) length

/-- Reads as many values as asked, one behind the other. -/
def repeated (step : Nat → Reading (Value × Nat)) : Nat → Nat → Reading (List Value × Nat)
  | 0, offset => .ok ([], offset)
  | count + 1, offset =>
    (step offset).bind fun (value, offset) =>
      (repeated step count offset).map fun (values, offset) => (value :: values, offset)

/-- The place of a compound value: its data and the offset in them, behind an offset if it is dynamic. -/
def body (dynamic : Bool) (data : Octets) (offset : Nat) : Reading (Octets × Nat) :=
  if dynamic then do
    let start ← place data offset
    if start ≤ data.length then return (data.drop start, 0) else .failed ()
  else .ok (data, offset)

mutual

/-- Reads a value at an offset and gives the offset behind its words. -/
def value (data : Octets) (offset : Nat) : ValueType → Reading (Value × Nat)
  | .address => (slice data offset 32).map fun bs => (.address (bs.drop 12), offset + 32)
  | .bool => do
    let n ← word data offset
    if n < 256 then return (.flag (n == 1), offset + 32) else .failed ()
  | .int _ | .uint _ => (word data offset).map fun n => (.number n, offset + 32)
  | .fixedBytes length => (slice data offset length).map fun bs => (.bytes bs, offset + 32)
  | .bytes => (bytesAt data offset).map fun bs => (.bytes bs, offset + 32)
  | .string => (bytesAt data offset).map fun bs => (.text (decodeLossy bs), offset + 32)
  | .array item => do
    let start ← place data offset
    let count ← place data start
    let data := data.drop (start + 32)
    let (values, _) ← repeated (fun offset => value data offset item) count 0
    return (.list values, offset + 32)
  | .fixedArray item length => do
    let dynamic := item.isDynamic
    let (data, start) ← body dynamic data offset
    let (values, behind) ← repeated (fun offset => value data offset item) length start
    return (.list values, if dynamic then offset + 32 else behind)
  | .tuple items => do
    let dynamic := ValueType.anyDynamic items
    let (data, start) ← body dynamic data offset
    let (values, behind) ← values data start items
    return (.list values, if dynamic then offset + 32 else behind)

/-- Reads values of several types, one behind the other. -/
def values (data : Octets) (offset : Nat) : List ValueType → Reading (List Value × Nat)
  | [] => .ok ([], offset)
  | type :: types =>
    (value data offset type).bind fun (value, offset) =>
      (values data offset types).map fun (values, offset) => (value :: values, offset)

end

/-- Reads what a function gives. Without any bytes there is no contract to give something. -/
def Function.results (f : Function) (data : Octets) : Reading (List Value) :=
  if data.isEmpty && !f.outputs.all ValueType.isVoid then .failed ()
  else (values data 0 f.outputs).map Prod.fst

end TokenDesk.Contract
