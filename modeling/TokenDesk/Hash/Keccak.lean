import TokenDesk.Text.Utf8

/-!
# Keccak-256

The sponge with the permutation of 25 lanes of 64 bits, a rate of 136 bytes and the padding
`01 … 80`. Function selectors, addresses and transaction digests come from it.
-/

set_option autoImplicit false

namespace TokenDesk.Hash.Keccak

open TokenDesk.Text (Octets)

/-- The 25 lanes, row by row. -/
abbrev Lanes := Array UInt64

def lane (s : Lanes) (i : Nat) : UInt64 :=
  s.getD i 0

def rotate (w : UInt64) (n : Nat) : UInt64 :=
  if n % 64 = 0 then w
  else (w <<< UInt64.ofNat (n % 64)) ||| (w >>> UInt64.ofNat (64 - n % 64))

/-- One constant for each of the 24 rounds. -/
def roundConstants : List UInt64 := [
  0x0000000000000001, 0x0000000000008082, 0x800000000000808A, 0x8000000080008000,
  0x000000000000808B, 0x0000000080000001, 0x8000000080008081, 0x8000000000008009,
  0x000000000000008A, 0x0000000000000088, 0x0000000080008009, 0x000000008000000A,
  0x000000008000808B, 0x800000000000008B, 0x8000000000008089, 0x8000000000008003,
  0x8000000000008002, 0x8000000000000080, 0x000000000000800A, 0x800000008000000A,
  0x8000000080008081, 0x8000000000008080, 0x0000000080000001, 0x8000000080008008]

/-- The rotation of each lane. -/
def rotations : Array Nat := #[
  0, 1, 62, 28, 27, 36, 44, 6, 55, 20, 3, 10, 43, 25, 39, 41, 45, 15, 21, 8, 18, 2, 61, 56, 14]

/-- Adds the parity of two neighbouring columns to each lane. -/
def theta (s : Lanes) : Lanes :=
  let column x := (List.range 5).foldl (fun w y => w ^^^ lane s (x + 5 * y)) 0
  let columns : Lanes := Array.ofFn fun x : Fin 5 => column x.val
  Array.ofFn fun i : Fin 25 =>
    let x := i.val % 5
    lane s i.val ^^^ lane columns ((x + 4) % 5) ^^^ rotate (lane columns ((x + 1) % 5)) 1

/-- Rotates each lane and moves it to its new place. -/
def rhoPi (s : Lanes) : Lanes :=
  Array.ofFn fun i : Fin 25 =>
    let x := i.val % 5
    let y := i.val / 5
    let source := (x + 3 * y) % 5 + 5 * x
    rotate (lane s source) (rotations.getD source 0)

/-- Mixes each lane with the next two of its row. -/
def chi (s : Lanes) : Lanes :=
  Array.ofFn fun i : Fin 25 =>
    let x := i.val % 5
    let row := 5 * (i.val / 5)
    lane s i.val ^^^ (~~~ lane s (row + (x + 1) % 5) &&& lane s (row + (x + 2) % 5))

def round (s : Lanes) (constant : UInt64) : Lanes :=
  let s := chi (rhoPi (theta s))
  s.modify 0 (· ^^^ constant)

def permute (s : Lanes) : Lanes :=
  roundConstants.foldl round s

/-- Eight bytes, the lowest first. -/
def wordOf (bs : Octets) : UInt64 :=
  bs.foldr (fun b w => (w <<< 8) ||| b.toUInt64) 0

def bytesOf (w : UInt64) : Octets :=
  (List.range 8).map fun i => (w >>> UInt64.ofNat (8 * i)).toUInt8

/-- The message with its padding, a multiple of 136 bytes. -/
def pad (bs : Octets) : Octets :=
  let missing := 136 - bs.length % 136
  if missing = 1 then bs ++ [0x81]
  else bs ++ [0x01] ++ List.replicate (missing - 2) 0 ++ [0x80]

/-- Adds one block of 136 bytes to the state and permutes. -/
def absorbBlock (s : Lanes) (block : Octets) : Lanes :=
  permute (Array.ofFn fun i : Fin 25 =>
    if i.val < 17 then lane s i.val ^^^ wordOf ((block.drop (8 * i.val)).take 8)
    else lane s i.val)

def absorb : Nat → Lanes → Octets → Lanes
  | 0, s, _ => s
  | blocks + 1, s, bs => absorb blocks (absorbBlock s (bs.take 136)) (bs.drop 136)

/-- The digest of 32 bytes. -/
def keccak256 (bs : Octets) : Octets :=
  let padded := pad bs
  let s := absorb (padded.length / 136) (Array.replicate 25 0) padded
  (List.range 4).flatMap fun i => bytesOf (lane s i)

theorem length_bytesOf (w : UInt64) : (bytesOf w).length = 8 := by
  simp [bytesOf]

theorem length_keccak256 (bs : Octets) : (keccak256 bs).length = 32 := by
  simp [keccak256, List.range_succ, length_bytesOf]

end TokenDesk.Hash.Keccak
