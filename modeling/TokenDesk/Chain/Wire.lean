import TokenDesk.Chain.Address
import TokenDesk.Json.Reader
import TokenDesk.Text.BigEndian

/-!
# Written forms on the wire

How a node writes numbers, bytes and records. Numbers and bytes of a known size are hexadecimal texts
that may be spread by blanks: the blanks count where the length is measured, but not between the
digits. Where the length is odd, the first digit stands for a byte alone; a digit that is left over in
the end is dropped.
-/

set_option autoImplicit false

namespace TokenDesk.Wire

open TokenDesk.Text

/-! ## Digits -/

/-- The bytes of digits between blanks; `pending?` is the first digit of the byte that has begun. -/
def pairDigits (pending? : Option Nat) : List Char → Option Octets
  | [] => some []
  | c :: cs =>
    if Json.isGap c then pairDigits pending? cs
    else
      match Hex.value? c, pending? with
      | none, _ => none
      | some digit, none => pairDigits (some digit) cs
      | some digit, some high =>
        (pairDigits none cs).map (UInt8.ofNat (high * 16 + digit) :: ·)

/-- The bytes of digits between blanks. -/
def spreadBytes? (cs : List Char) : Option Octets :=
  pairDigits (if cs.length % 2 = 1 then some 0 else none) cs

/-- A number of at most `width` characters, with or without the mark. -/
def number? (width : Nat) : Json → Option Nat
  | .string s =>
    let cs := dropHexMark s.toList
    if cs.isEmpty || width < cs.length then none else (spreadBytes? cs).map natOf
  | _ => none

/-- A number of 256 bits. -/
def amount? : Json → Option Nat := number? 64

/-- A number of 64 bits. -/
def word? : Json → Option Nat := number? 16

/-- So many bytes, with or without the mark; those that blanks stand in the way of are zero. -/
def bytes? (length : Nat) : Json → Option Octets
  | .string s =>
    let cs := dropHexMark s.toList
    if cs.length = 2 * length then
      (spreadBytes? cs).map fun bs => bs ++ List.replicate (length - bs.length) 0
    else none
  | _ => none

def digest? : Json → Option Octets := bytes? 32

def address? (v : Json) : Option Address :=
  (bytes? 20 v).bind Address.ofBytes?

/-- Any number of bytes behind the mark, without blanks. -/
def data? : Json → Option Octets
  | .string s => (after? ['0', 'x'] s.toList).bind fun cs => (Hex.decode cs).toOption
  | _ => none

/-! ## Lists and records -/

/-- The items of a list. -/
def list? {α : Type} (reader : Json → Option α) : Json → Option (List α)
  | .array items => items.mapM reader
  | _ => none

def text? : Json → Option String
  | .string s => some s
  | _ => none

def flag? : Json → Option Bool
  | .bool b => some b
  | _ => none

/-- The fields of a record: an object, or an array with a value for every field in order. -/
def record? (fields : List String) : Json → Option Json
  | .object entries => some (.object entries)
  | .array items =>
    if items.length = fields.length then some (.object (fields.zip items)) else none
  | _ => none

/-- A field that has to be there. -/
def field? {α : Type} (reader : Json → Option α) (key : String) (v : Json) : Option α :=
  (v.get? key).bind reader

/-- A field that may be absent, but not null. -/
def present? {α : Type} (reader : Json → Option α) (key : String) (v : Json) :
    Option (Option α) :=
  match v.get? key with
  | none => some none
  | some found => (reader found).map some

/-- A field that may be absent or null. -/
def optional? {α : Type} (reader : Json → Option α) (key : String) (v : Json) :
    Option (Option α) :=
  match v.get? key with
  | none | some .null => some none
  | some found => (reader found).map some

end TokenDesk.Wire
