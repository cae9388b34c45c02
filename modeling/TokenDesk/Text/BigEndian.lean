import TokenDesk.Text.Utf8

/-!
# Numbers as bytes

Numbers written with the highest byte first, in words of 32 bytes or without zeros in front.
-/

set_option autoImplicit false

namespace TokenDesk.Text

/-- A number as 32 bytes; higher bits are cut. -/
def bytes32 (n : Nat) : Octets :=
  (List.range 32).map fun i => UInt8.ofNat (n >>> (8 * (31 - i)))

/-- The number of a byte sequence. -/
def natOf (bs : Octets) : Nat :=
  bs.foldl (fun n b => n * 256 + b.toNat) 0

/-- The shortest bytes of a number below `2 ^ 256`; zero has none. -/
def natBytes (n : Nat) : Octets :=
  (bytes32 n).dropWhile (· == 0)

theorem length_bytes32 (n : Nat) : (bytes32 n).length = 32 := by
  simp [bytes32]

end TokenDesk.Text
