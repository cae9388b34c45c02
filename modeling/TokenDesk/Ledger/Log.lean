import TokenDesk.Files.Writing
import TokenDesk.Json.Printer
import TokenDesk.Json.Reader
import TokenDesk.Record.Report
import TokenDesk.Text.Blank
import TokenDesk.Text.Quoted

/-!
# Append-only logs

A log is a file that holds one JSON array. To append, the array is read without asking a type of its
entries, so that entries of any origin are carried over; then the whole file is written again. A log
without a file is empty, but a file without text is not a log.
-/

set_option autoImplicit false

namespace TokenDesk

open TokenDesk.Text
open TokenDesk.Json

/-- How the entries of a log are read and written. -/
structure Format (α : Type) where
  read : Reader α
  toJson : α → Json

namespace Format

def deployments : Format DeploymentRecord := ⟨DeploymentRecord.read, DeploymentRecord.toJson⟩

def reports : Format ReportEntry := ⟨ReportEntry.read, ReportEntry.toJson⟩

/-- Entries of any shape. -/
def untyped : Format Json := ⟨Json.read, id⟩

end Format

/-- Why a log cannot be read or extended. -/
inductive LogError where
  | reading (path : String) (cause : Files.ReadError)
  | emptyFile (path : String)
  | parsing (path : String) (cause : Fault)
  | writing (path : String) (cause : OsError)
  deriving DecidableEq, Repr

def LogError.message : LogError → String
  | .reading path cause => "Reading log file " ++ quoted path ++ ": " ++ cause.message
  | .emptyFile path => "Log file " ++ quoted path ++ " is empty"
  | .parsing path cause => "Parsing log file " ++ quoted path ++ ": " ++ cause.message
  | .writing path cause => "Writing log file " ++ quoted path ++ ": " ++ cause.message

/-- A log at a path. -/
structure AppendLog (α : Type) where
  path : String
  format : Format α

namespace AppendLog

variable {α β : Type}

def exists? (log : AppendLog α) (f : Files) : Bool :=
  f.exists? log.path

/-- Reads the entries by some reader. -/
def parse (log : AppendLog α) (reader : Reader β) (f : Files) : Except LogError (List β) :=
  if !log.exists? f then .ok []
  else
    match f.readText log.path with
    | .error cause => .error (.reading log.path cause)
    | .ok text =>
      if trim text == "" then .error (.emptyFile log.path)
      else (readText (readList reader) text).mapError (.parsing log.path)

/-- All entries. -/
def load (log : AppendLog α) (f : Files) : Except LogError (List α) :=
  log.parse log.format.read f

/-- The last entry. -/
def latest (log : AppendLog α) (f : Files) : Except LogError (Option α) :=
  (log.load f).map List.getLast?

/-- The file text of entries. -/
def text (entries : List Json) : String :=
  pretty (.array entries)

/-- Adds an entry and tells how many there are then. -/
def append (log : AppendLog α) (entry : α) (disk : Files.Disk) (f : Files) :
    Except LogError Nat × Files :=
  match log.parse Json.read f with
  | .error e => (.error e, f)
  | .ok entries =>
    let entries := entries ++ [(log.format.toJson entry).sorted]
    match f.writeOn disk log.path (octets (text entries)) with
    | (.error cause, f) => (.error (.writing log.path cause), f)
    | (.ok (), f) => (.ok entries.length, f)

end AppendLog

end TokenDesk
