import TokenDesk.Hash.Sha256
import TokenDesk.Text.BigEndian

/-!
# The curve y² = x³ + 7

Public keys and deterministic signatures. Points are kept in the form (X, Y, Z) that stands for
(X / Z², Y / Z³), and Z = 0 is the point at infinity. The secret of a signature is drawn from the
key and the digest (RFC 6979), and of s and order − s the lower one is written.
-/

set_option autoImplicit false

namespace TokenDesk.Curve.Secp256k1

open TokenDesk.Text (Octets bytes32 natOf)
open TokenDesk.Hash.Sha256 (keyed)

/-- The modulus of the coordinates. -/
def field : Nat := 0xFFFFFFFFFFFFFFFFFFFFFFFFFFFFFFFFFFFFFFFFFFFFFFFFFFFFFFFEFFFFFC2F

/-- The number of points. -/
def order : Nat := 0xFFFFFFFFFFFFFFFFFFFFFFFFFFFFFFFEBAAEDCE6AF48A03BBFD25E8CD0364141

def baseX : Nat := 0x79BE667EF9DCBBAC55A06295CE870B07029BFCDB2DCE28D959F2815B16F81798

def baseY : Nat := 0x483ADA7726A3C4655DA4FBFC0E1108A8FD17B448A68554199C47D08FFB10D4B8

/-- Raises to a power by squaring; `bits` bounds the length of the exponent. -/
def power (modulus : Nat) : Nat → Nat → Nat → Nat
  | 0, _, _ => 1
  | bits + 1, base, exponent =>
    let rest := power modulus bits (base * base % modulus) (exponent / 2)
    if exponent % 2 = 1 then base * rest % modulus else rest

/-- The inverse modulo a prime. -/
def inverse (modulus n : Nat) : Nat :=
  power modulus 256 (n % modulus) (modulus - 2)

structure Point where
  x : Nat
  y : Nat
  z : Nat
  deriving DecidableEq, Repr

def infinity : Point := ⟨1, 1, 0⟩

def base : Point := ⟨baseX, baseY, 1⟩

def sub (a b : Nat) : Nat :=
  (a + (field - b % field)) % field

def double (p : Point) : Point :=
  if p.z = 0 then p
  else
    let yy := p.y * p.y % field
    let s := 4 * p.x * yy % field
    let m := 3 * p.x * p.x % field
    let x := sub (m * m) (2 * s)
    ⟨x, sub (m * sub s x) (8 * yy * yy), 2 * p.y * p.z % field⟩

def add (p q : Point) : Point :=
  if p.z = 0 then q
  else if q.z = 0 then p
  else
    let pz := p.z * p.z % field
    let qz := q.z * q.z % field
    let u := p.x * qz % field
    let v := q.x * pz % field
    let s := p.y * qz * q.z % field
    let t := q.y * pz * p.z % field
    if u = v then if s = t then double p else infinity
    else
      let h := sub v u
      let r := sub t s
      let hh := h * h % field
      let hhh := h * hh % field
      let w := u * hh % field
      let x := sub (r * r) (hhh + 2 * w)
      ⟨x, sub (r * sub w x) (s * hhh), h * p.z * q.z % field⟩

/-- The multiple of a point; `bits` bounds the length of the factor. -/
def times : Nat → Nat → Point → Point
  | 0, _, _ => infinity
  | bits + 1, factor, p =>
    let rest := times bits (factor / 2) (double p)
    if factor % 2 = 1 then add p rest else rest

/-- The plain coordinates of a point that is not at infinity. -/
def coordinates (p : Point) : Nat × Nat :=
  let i := inverse field p.z
  let ii := i * i % field
  (p.x * ii % field, p.y * ii * i % field)

/-- A secret key: a number from 1 to the order, the order left out. -/
structure Secret where
  value : Nat
  pos : 0 < value
  lt_order : value < order
  deriving DecidableEq

/-- The secret key of 32 bytes in range. -/
def Secret.ofBytes? (bs : Octets) : Option Secret :=
  if bs.length = 32 then
    if h : 0 < natOf bs ∧ natOf bs < order then some ⟨natOf bs, h.1, h.2⟩ else none
  else none

/-- The coordinates of the public key as 64 bytes. -/
def Secret.publicBytes (secret : Secret) : Octets :=
  let (x, y) := coordinates (times 256 secret.value base)
  bytes32 x ++ bytes32 y

structure Signature where
  r : Nat
  s : Nat
  /-- Whether the y coordinate of the drawn point is odd, adjusted to the lower s. -/
  parity : Nat
  deriving DecidableEq, Repr

/-- The signature with a given drawn number, where it gives one. -/
def signWith? (secret : Secret) (digest drawn : Nat) : Option Signature :=
  if drawn = 0 || order ≤ drawn then none
  else
    let (x, y) := coordinates (times 256 drawn base)
    let r := x % order
    let s := inverse order drawn * ((digest + r * secret.value) % order) % order
    if r = 0 || s = 0 then none
    else
      let parity := y % 2 + (if order ≤ x then 2 else 0)
      if order / 2 < s then some ⟨r, order - s, if parity % 2 = 0 then parity + 1 else parity - 1⟩
      else some ⟨r, s, parity⟩

/-- Draws numbers until one gives a signature, at most `fuel` of them. -/
def signLoop (secret : Secret) (digest : Nat) : Nat → Octets → Octets → Option Signature
  | 0, _, _ => none
  | fuel + 1, key, chain =>
    let drawn := keyed key chain
    match signWith? secret digest (natOf drawn) with
    | some signature => some signature
    | none =>
      let key := keyed key (drawn ++ [0x00])
      signLoop secret digest fuel key (keyed key drawn)

/-- The signature of a digest of 32 bytes. -/
def sign (secret : Secret) (digest : Octets) : Option Signature :=
  let message := natOf digest % order
  let seed := bytes32 secret.value ++ bytes32 message
  let chain := List.replicate 32 (0x01 : UInt8)
  let key := keyed (List.replicate 32 0x00) (chain ++ [0x00] ++ seed)
  let chain := keyed key chain
  let key := keyed key (chain ++ [0x01] ++ seed)
  signLoop secret message 16 key (keyed key chain)

end TokenDesk.Curve.Secp256k1
