import TokenDesk.Text.Blank
import TokenDesk.Text.Hex
import TokenDesk.Hash.Keccak

/-!
# Account addresses

Twenty bytes, written with a checksum in the letter case of their hexadecimal digits (EIP-55).
Reading ignores letter case.
-/

set_option autoImplicit false

namespace TokenDesk

open TokenDesk.Text

/-- An account or contract: twenty bytes. -/
structure Address where
  bytes : Octets
  length_bytes : bytes.length = 20
  deriving DecidableEq

namespace Address

/-- Why a text names no address. -/
inductive Error where | badHex (text : String) (cause : Hex.Error) | badLength (text : String) (found : Nat)
  deriving DecidableEq, Repr

def Error.message : Error → String
  | .badHex text cause => "Address `" ++ text ++ "`: " ++ cause.message
  | .badLength text found =>
    "Address `" ++ text ++ "` must be 20 bytes long, found " ++ decimal found

/-- The address of twenty bytes. -/
def ofBytes? (bs : Octets) : Option Address :=
  if h : bs.length = 20 then some ⟨bs, h⟩ else none

/-- The last twenty bytes of a digest. -/
def ofDigest (digest : Octets) (h : digest.length = 32) : Address :=
  ⟨digest.drop 12, by simp [h]⟩

/-- The hexadecimal digit of a digest at a place; beyond the digest it is 0. -/
def nibbleAt (digest : Octets) (place : Nat) : Nat :=
  let b := (digest.getD (place / 2) 0).toNat
  if place % 2 = 0 then b / 16 else b % 16

/-- Raises the letters whose place in the digest holds 8 or more, counting from `place`. -/
def raiseLetters (digest : Octets) (place : Nat) : List Char → List Char
  | [] => []
  | c :: cs =>
    (if isAsciiLetter c && 8 ≤ nibbleAt digest place then c.toUpper else c) ::
      raiseLetters digest (place + 1) cs

/-- The checksum form under a digest of the lowercase digits. -/
def checksumWith (digest : Octets → Octets) (a : Address) : String :=
  let digits := Hex.encodeChars a.bytes
  "0x" ++ String.ofList (raiseLetters (digest (octets (String.ofList digits))) 0 digits)

/-- The checksum form. -/
def checksum (a : Address) : String :=
  a.checksumWith Hash.Keccak.keccak256

/-- The lowercase form. -/
def lower (a : Address) : String :=
  Hex.marked a.bytes

/-- Reads an address; blanks around it and one `0x` in front are allowed. -/
def parse (text : String) : Except Error Address :=
  match Hex.decode (dropHexMark (trimChars text.toList)) with
  | .error cause => .error (.badHex text cause)
  | .ok bs =>
    if h : bs.length = 20 then .ok ⟨bs, h⟩ else .error (.badLength text bs.length)

/-- The address that nobody holds a key of, fixed by the seed. -/
def throwaway (seed : String) : Address :=
  ofDigest (Hash.Keccak.keccak256 (octets seed)) (Hash.Keccak.length_keccak256 _)

end Address

end TokenDesk
