import TokenDesk.Chain.Amount
import TokenDesk.Record.Artifact
import TokenDesk.Run.Effect

/-!
# Tokens and factories

What a run asks of the chain. The chain is a state machine over any state, that of a node or of a script.
Every call may fail with a text or abort.
-/

set_option autoImplicit false

namespace TokenDesk

/-- A call of a deployed token. -/
inductive TokenCall where
  | name
  | symbol
  | decimals
  | totalSupply
  | balanceOf (holder : Address)
  | transfer (receiver : Address) (amount : Amount)
  | mint (receiver : Address) (amount : Amount)
  | transferOwnership (receiver : Address)
  deriving DecidableEq

namespace TokenCall

/-- What a call answers: a text, the places of an amount, an amount, or the gas that it used. -/
@[reducible] def Answer : TokenCall → Type
  | name | symbol => String
  | decimals => Nat
  | totalSupply | balanceOf _ => Amount
  | transfer _ _ | mint _ _ | transferOwnership _ => UInt64

end TokenCall

/-- A deployed token on a chain with states `σ`. -/
structure Token (σ : Type) where
  ask : (call : TokenCall) → σ → Ending String call.Answer × σ

/-- What puts contracts on a chain with states `σ`. -/
structure Factory (σ : Type) where
  /-- The account that deploys. -/
  deployer : σ → Ending String Address × σ
  /-- Deploys a contract and gives its address. -/
  deploy : Artifact → ConstructorArguments → σ → Ending String Address × σ

end TokenDesk
