import TokenDesk.Chain.Address
import TokenDesk.Curve.Secp256k1

/-!
# Signers and roles

Transactions are signed by the node or by a secret key. A run names three roles: the owner and two
users, which are throwaway addresses where the node offers no further accounts.
-/

set_option autoImplicit false

namespace TokenDesk

open TokenDesk.Text
open TokenDesk.Curve.Secp256k1 (Secret)

/-- Who signs the transactions. -/
inductive Signer where | node | key (secret : Secret)
  deriving DecidableEq

namespace Signer

/-- Why a text is no secret key. -/
inductive Error where | badHex (cause : Hex.Error) | outOfRange
  deriving DecidableEq, Repr

def Error.message : Error → String
  | .badHex cause => "Private key decoding: " ++ cause.message
  | .outOfRange => "Private key is invalid: malformed or out-of-range secret key"

/-- The signer with the secret key of a hexadecimal text. -/
def parse (text : String) : Except Error Signer :=
  match Hex.decode (dropHexMark (trimChars text.toList)) with
  | .error cause => .error (.badHex cause)
  | .ok bs =>
    match Secret.ofBytes? bs with
    | some secret => .ok (.key secret)
    | none => .error .outOfRange

/-- The address of a secret key: the end of the digest of its public key. -/
def ownerOf (secret : Secret) : Address :=
  Address.ofDigest (Hash.Keccak.keccak256 secret.publicBytes) (Hash.Keccak.length_keccak256 _)

/-- The address that a key signs for; a node signer has none of its own. -/
def address? : Signer → Option Address
  | .node => none
  | .key secret => some (ownerOf secret)

/-- The shown form, which never holds the secret. -/
def shown (s : Signer) : String :=
  match s.address? with
  | none => "Node"
  | some a => "Key(Some(" ++ a.lower ++ "))"

end Signer

/-- The accounts that take part in a run. -/
structure Roles where
  owner : Address
  user1 : Address
  user2 : Address
  deriving DecidableEq

namespace Roles

/-- The signer at a place, or the throwaway address of the seed and the role's name. -/
def user (signers : List Address) (seed : String) (place : Nat) (name : String) : Address :=
  signers[place]?.getD (Address.throwaway (seed ++ ":" ++ name))

/-- The roles that a list of signers gives; none without a first signer. -/
def ofSigners? (signers : List Address) (seed : String) : Option Roles :=
  signers.head?.map fun owner =>
    ⟨owner, user signers seed 1 "user1", user signers seed 2 "user2"⟩

end Roles

end TokenDesk
