import TokenDesk.Chain.Reply
import TokenDesk.Chain.Wire
import TokenDesk.Text.Decimal

/-!
# Nodes

A node answers requests, each a method with parameters. It is a state machine over any state, so
nothing is assumed of it: it may refuse, answer something of another form or be out of reach.
-/

set_option autoImplicit false

namespace TokenDesk

open TokenDesk.Text

structure Request where
  method : String
  params : List Json
  deriving Repr

/-- A node with states `σ`. -/
structure Node (σ : Type) where
  answer : Request → σ → Reply × σ

namespace Node

/-- The node that nothing reaches. -/
def absent (σ : Type) : Node σ :=
  ⟨fun _ s => (.unreachable, s)⟩

/-- Why a request gave nothing. -/
inductive Error where
  | refused (message : String)
  | status (code : Nat)
  | garbled
  | unreachable
  /-- The result has not the form asked. -/
  | malformed
  deriving DecidableEq, Repr

def Error.message : Error → String
  | .refused message => "RPC error: " ++ message
  | .status code => "code " ++ decimal code
  | .garbled => "failed to deserialize response: no reply to a request"
  | .unreachable => "failed to send request: the node is out of reach"
  | .malformed => "Decoder error: unexpected form of a result"

end Node

/-- The value of a reply, read as it has to be. -/
def Reply.read {α : Type} (reader : Json → Option α) : Reply → Except Node.Error α
  | .result value =>
    match reader value with
    | some a => .ok a
    | none => .error .malformed
  | .refused message => .error (.refused message)
  | .status code => .error (.status code)
  | .garbled => .error .garbled
  | .unreachable => .error .unreachable

end TokenDesk
