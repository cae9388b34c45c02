import TokenDesk.Ledger.Workspace
import TokenDesk.Run.Ending

/-!
# Runs

What a command does to the world: it reads and writes files, asks the chain and prints. It is carried out on
a machine, whose disk may refuse a write and whose output may refuse a text. A run may end early with a
failure, or abort, where an amount cannot be shown or a text cannot be printed; the world at that point
stays.
-/

set_option autoImplicit false

namespace TokenDesk

/-- What a run may see and change; `σ` is the state of the chain. -/
structure World (σ : Type) where
  files : Files
  chain : σ
  /-- What has been printed. -/
  output : String := ""

/-- What a run is carried out on. -/
structure Machine where
  disk : Files.Disk
  /-- Why the output, behind what it has shown, does not take a text, and what it takes of it. -/
  refused? : (shown text : String) → Option (OsError × String)

namespace Machine

/-- A machine that refuses nothing. -/
def steady : Machine :=
  ⟨.steady, fun _ _ => none⟩

/-- A machine that keeps files but shows nothing. -/
def mute (cause : OsError) : Machine :=
  ⟨.steady, fun _ _ => some (cause, "")⟩

/-- The output takes every text. -/
def Takes (m : Machine) : Prop :=
  ∀ shown text, m.refused? shown text = none

end Machine

/-- A run that gives an `α` or fails with an `ε`. -/
def Run (σ ε α : Type) : Type :=
  Machine → World σ → Ending ε α × World σ

namespace Run

variable {σ ε δ α β : Type}

protected def pure (a : α) : Run σ ε α := fun _ w => (.ok a, w)

protected def bind (run : Run σ ε α) (next : α → Run σ ε β) : Run σ ε β := fun m w =>
  match run m w with
  | (.ok a, w) => next a m w
  | (.failed e, w) => (.failed e, w)
  | (.aborted, w) => (.aborted, w)

instance : Monad (Run σ ε) where
  pure := Run.pure
  bind := Run.bind

def fail (e : ε) : Run σ ε α := fun _ w => (.failed e, w)

/-- A result that needs nothing from the world. -/
def ofExcept (result : Except ε α) : Run σ ε α := fun _ w => (.ofExcept result, w)

/-- An ending that needs nothing from the world. -/
def ofEnding (ending : Ending ε α) : Run σ ε α := fun _ w => (ending, w)

/-- A value, or an abort where there is none. -/
def orAbort (value? : Option α) : Run σ ε α :=
  ofEnding (.orAbort value?)

/-- Asks something of the files. -/
def look (read : Files → Except ε α) : Run σ ε α := fun _ w => (.ofExcept (read w.files), w)

/-- Changes the files on the machine's disk. -/
def change (write : Files.Disk → Files → Except ε α × Files) : Run σ ε α := fun m w =>
  let (result, files) := write m.disk w.files
  (.ofExcept result, { w with files := files })

/-- Asks the chain. -/
def ask (answer : σ → Ending ε α × σ) : Run σ ε α := fun _ w =>
  let (ending, chain) := answer w.chain
  (ending, { w with chain := chain })

/-- Offers a text to the output and tells why it is refused, if it is. -/
def offer (text : String) : Run σ ε (Option OsError) := fun m w =>
  match m.refused? w.output text with
  | none => (.ok none, { w with output := w.output ++ text })
  | some (cause, part) => (.ok (some cause), { w with output := w.output ++ part })

/-- Prints a text as it is; the run aborts where the output refuses it. -/
def print (text : String) : Run σ ε Unit := do
  match ← offer text with
  | none => pure ()
  | some _ => orAbort none

/-- Prints a line. -/
def printLine (line : String) : Run σ ε Unit :=
  print (line ++ "\n")

/-- Prints a line unless the run is quiet. -/
def status (quiet : Bool) (line : String) : Run σ ε Unit :=
  if quiet then Run.pure () else printLine line

/-- The run with its failures named anew. -/
def mapError (f : ε → δ) (run : Run σ ε α) : Run σ δ α := fun m w =>
  let (ending, w) := run m w
  (ending.mapError f, w)

/-- The result of a run that may fail, as a value. -/
def attempt (run : Run σ ε α) : Run σ ε (Except ε α) := fun m w =>
  match run m w with
  | (.ok a, w) => (.ok (.ok a), w)
  | (.failed e, w) => (.ok (.error e), w)
  | (.aborted, w) => (.aborted, w)

end Run

end TokenDesk
