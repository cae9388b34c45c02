import TokenDesk.Chain.Address
import TokenDesk.Chain.Rlp
import TokenDesk.Curve.Secp256k1

/-!
# Signed transactions

A transaction as it is handed to a node once it is signed. The signature covers the chain (EIP-155), so
it is worth nothing on another one. No transaction here carries value.
-/

set_option autoImplicit false

namespace TokenDesk

open TokenDesk.Text
open TokenDesk.Curve.Secp256k1 (Secret Signature sign)

/-- A transaction without value; one without receiver deploys its data. -/
structure Transaction where
  nonce : Nat
  gasPrice : Nat
  gas : Nat
  receiver? : Option Address
  data : Octets
  chainId : UInt64

namespace Transaction

/-- The fields that come before the signature. -/
def fields (t : Transaction) : List Octets :=
  [Rlp.number t.nonce, Rlp.number t.gasPrice, Rlp.number t.gas,
    Rlp.bytes ((t.receiver?.map Address.bytes).getD []), Rlp.number 0, Rlp.bytes t.data]

/-- What is signed: the chain stands where the signature will. -/
def digest (t : Transaction) : Octets :=
  Hash.Keccak.keccak256
    (Rlp.list (t.fields ++ [Rlp.number t.chainId.toNat, Rlp.number 0, Rlp.number 0]))

/-- The mark of the chain and the parity, which has to fit 64 bits. -/
def mark? (t : Transaction) (s : Signature) : Option Nat :=
  let mark := t.chainId.toNat * 2 + 35 + s.parity
  if mark < UInt64.size then some mark else none

/-- The bytes of the signed transaction. -/
def signed? (t : Transaction) (secret : Secret) : Option Octets := do
  let s ← sign secret t.digest
  let mark ← t.mark? s
  return Rlp.list (t.fields ++ [Rlp.number mark, Rlp.number s.r, Rlp.number s.s])

end Transaction

end TokenDesk
