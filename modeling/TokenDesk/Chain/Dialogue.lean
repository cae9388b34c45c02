import TokenDesk.Chain.Node
import TokenDesk.Run.Ending

/-!
# Dialogues with a node

A dialogue asks a node one request after the other. It may fail or abort in between; what the node has
seen by then stays seen.
-/

set_option autoImplicit false

namespace TokenDesk

/-- A dialogue with a node of states `σ` that gives an `α` or fails with an `ε`. -/
def Dialogue (σ ε α : Type) : Type :=
  σ → Ending ε α × σ

namespace Dialogue

variable {σ ε δ α β : Type}

protected def pure (a : α) : Dialogue σ ε α := fun s => (.ok a, s)

protected def bind (dialogue : Dialogue σ ε α) (next : α → Dialogue σ ε β) : Dialogue σ ε β :=
  fun s =>
    match dialogue s with
    | (.ok a, s) => next a s
    | (.failed e, s) => (.failed e, s)
    | (.aborted, s) => (.aborted, s)

instance : Monad (Dialogue σ ε) where
  pure := Dialogue.pure
  bind := Dialogue.bind

def fail (e : ε) : Dialogue σ ε α := fun s => (.failed e, s)

/-- A result that needs nothing of the node. -/
def ofExcept (result : Except ε α) : Dialogue σ ε α := fun s => (.ofExcept result, s)

/-- An ending that needs nothing of the node. -/
def ofEnding (ending : Ending ε α) : Dialogue σ ε α := fun s => (ending, s)

/-- A value, or an abort where there is none. -/
def orAbort (value? : Option α) : Dialogue σ ε α :=
  ofEnding (.orAbort value?)

/-- A dialogue with its failures named anew. -/
def mapError (f : ε → δ) (dialogue : Dialogue σ ε α) : Dialogue σ δ α := fun s =>
  let (ending, s) := dialogue s
  (ending.mapError f, s)

/-- One request, whatever comes of it. -/
def request (node : Node σ) (method : String) (params : List Json) : Dialogue σ ε Reply := fun s =>
  let (reply, s) := node.answer ⟨method, params⟩ s
  (.ok reply, s)

/-- One request whose result is read. -/
def ask (node : Node σ) (method : String) (params : List Json) (reader : Json → Option α) :
    Dialogue σ Node.Error α := do
  let reply ← request node method params
  ofExcept (reply.read reader)

end Dialogue

end TokenDesk
