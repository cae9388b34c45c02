/-!
# Endings

Something that is run ends with a value, with a failure that says its cause, or by aborting: then
nobody can tell more than that it broke off.
-/

set_option autoImplicit false

namespace TokenDesk

/-- How something ended. -/
inductive Ending (ε α : Type) where
  | ok (value : α)
  | failed (cause : ε)
  | aborted
  deriving Repr

namespace Ending

variable {ε δ α β : Type}

def map (f : α → β) : Ending ε α → Ending ε β
  | .ok a => .ok (f a)
  | .failed e => .failed e
  | .aborted => .aborted

def mapError (f : ε → δ) : Ending ε α → Ending δ α
  | .ok a => .ok a
  | .failed e => .failed (f e)
  | .aborted => .aborted

protected def bind (ending : Ending ε α) (next : α → Ending ε β) : Ending ε β :=
  match ending with
  | .ok a => next a
  | .failed e => .failed e
  | .aborted => .aborted

instance : Monad (Ending ε) where
  pure := .ok
  bind := Ending.bind

def ofExcept : Except ε α → Ending ε α
  | .ok a => .ok a
  | .error e => .failed e

/-- A value, or a failure where there is none. -/
def ofOption (cause : ε) : Option α → Ending ε α
  | some a => .ok a
  | none => .failed cause

/-- A value, or an abort where there is none. -/
def orAbort : Option α → Ending ε α
  | some a => .ok a
  | none => .aborted

end Ending

end TokenDesk
