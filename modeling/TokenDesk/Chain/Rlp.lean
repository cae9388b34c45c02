import TokenDesk.Text.BigEndian

/-!
# Recursive length prefixes

The written form of transactions: byte strings and lists of written items, each behind its length. A
single byte below 128 stands for itself.
-/

set_option autoImplicit false

namespace TokenDesk.Rlp

open TokenDesk.Text

/-- The mark of a length: short ones are added to the mark, long ones follow it. -/
def header (mark length : Nat) : Octets :=
  if length < 56 then [UInt8.ofNat (mark + length)]
  else
    let bs := natBytes length
    UInt8.ofNat (mark + 55 + bs.length) :: bs

/-- A byte string. -/
def bytes (bs : Octets) : Octets :=
  match bs with
  | [b] => if b < 0x80 then [b] else header 0x80 1 ++ [b]
  | bs => header 0x80 bs.length ++ bs

/-- A number: the byte string without zeros in front. -/
def number (n : Nat) : Octets :=
  bytes (natBytes n)

/-- A list of items that are written already. -/
def list (items : List Octets) : Octets :=
  header 0xC0 items.flatten.length ++ items.flatten

end TokenDesk.Rlp
