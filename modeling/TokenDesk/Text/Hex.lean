import TokenDesk.Text.Utf8
import TokenDesk.Text.Quoted
import TokenDesk.Text.Decimal

/-!
# Hexadecimal

Byte sequences as pairs of hexadecimal digits. Reading accepts either letter case and checks the
parity of the length before it looks at a digit.
-/

set_option autoImplicit false

namespace TokenDesk.Text.Hex

open TokenDesk.Text

/-- The lowercase digit of a nibble. -/
def digit (n : Nat) : Char :=
  if n < 10 then Char.ofNat (48 + n) else Char.ofNat (87 + n)

/-- The value of a digit in either letter case. -/
def value? (c : Char) : Option Nat :=
  if '0' ≤ c && c ≤ '9' then some (c.toNat - 48)
  else if 'a' ≤ c && c ≤ 'f' then some (c.toNat - 87)
  else if 'A' ≤ c && c ≤ 'F' then some (c.toNat - 55)
  else none

def isDigit (c : Char) : Bool :=
  (value? c).isSome

/-- Two lowercase digits for each byte. -/
def encodeChars (bs : Octets) : List Char :=
  bs.flatMap fun b => [digit (b.toNat / 16), digit (b.toNat % 16)]

def encode (bs : Octets) : String :=
  String.ofList (encodeChars bs)

/-- The bytes with the mark `0x` in front. -/
def marked (bs : Octets) : String :=
  "0x" ++ encode bs

/-- Why a text is no hexadecimal byte sequence; positions count bytes. -/
inductive Error where | oddLength | badDigit (byte : UInt8) (position : Nat)
  deriving DecidableEq, Repr

/-- A byte beyond ASCII is shown as the character with its number. -/
def Error.message : Error → String
  | .oddLength => "Odd number of digits"
  | .badDigit byte position =>
    "Invalid character " ++ quotedChar (Char.ofNat byte.toNat) ++ " at position " ++
      decimal position

/-- The value of a byte that is a digit. -/
def nibble (b : UInt8) (position : Nat) : Except Error Nat :=
  match value? (Char.ofNat b.toNat) with
  | some n => .ok n
  | none => .error (.badDigit b position)

/-- Reads pairs of digits, counting from `position`. -/
def decodePairs (position : Nat) : Octets → Except Error Octets
  | high :: low :: bs =>
    match nibble high position with
    | .error e => .error e
    | .ok h =>
      match nibble low (position + 1) with
      | .error e => .error e
      | .ok l =>
        match decodePairs (position + 2) bs with
        | .error e => .error e
        | .ok rest => .ok (UInt8.ofNat (h * 16 + l) :: rest)
  | _ => .ok []

/-- The bytes of a text of hexadecimal digits. -/
def decode (cs : List Char) : Except Error Octets :=
  let bs := octets (String.ofList cs)
  if bs.length % 2 = 1 then .error .oddLength else decodePairs 0 bs

/-- The number of a run of digits below a base of at most 16; nothing denotes zero. -/
def natural? (base : Nat) (cs : List Char) : Option Nat :=
  cs.foldl (fun n? c => n?.bind fun n =>
    ((value? c).filter (· < base)).map (n * base + ·)) (some 0)

/-- The digits of a number after the mark, without superfluous zeros. -/
def quantity (n : Nat) : String :=
  "0x" ++ String.ofList (Nat.toDigits 16 n)

end TokenDesk.Text.Hex
