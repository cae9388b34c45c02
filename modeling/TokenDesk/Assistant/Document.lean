import TokenDesk.Assistant.Editing
import TokenDesk.Ledger.Workspace

/-!
# Documents

A source text that is being edited, with the line that new text goes before. Nothing is written
before it is saved.
-/

set_option autoImplicit false

namespace TokenDesk.Assistant

open TokenDesk.Text

/-- A text being edited. -/
structure Document where
  path : String
  text : String
  line : Nat
  deriving DecidableEq, Repr

namespace Document

/-- Why a document cannot be read or written. -/
inductive Error where
  | reading (path : String) (cause : Files.ReadError)
  | writing (path : String) (cause : OsError)
  deriving DecidableEq, Repr

def Error.message : Error → String
  | .reading path cause => "Document " ++ quoted path ++ " reading: " ++ cause.message
  | .writing path cause => "Document " ++ quoted path ++ " writing: " ++ cause.message

/-- Opens an existing document; a relative path starts at the workspace. -/
def «open» (w : Workspace) (path : String) (line : Nat) (f : Files) : Except Error Document :=
  let path := Path.join w.root path
  match f.readText path with
  | .error cause => .error (.reading path cause)
  | .ok text => .ok ⟨path, text, line⟩

/-- Opens a document, an empty one where there is no file. -/
def openOrNew (w : Workspace) (path : String) (line : Nat) (f : Files) : Except Error Document :=
  if f.exists? (Path.join w.root path) then Document.open w path line f
  else .ok ⟨Path.join w.root path, "", line⟩

/-- The document with a block before its line; none where the text cannot be cut there. -/
def insert? (d : Document) (block : String) : Option Document :=
  (insertAtLine d.text d.line block).map fun text => { d with text := text }

/-- The document with pieces at byte offsets, as far as they fit, and whether all did. -/
def insertAll (d : Document) (insertions : List (Nat × String)) : Document × Bool :=
  let (text, complete) := insertAtOffsets d.text insertions
  ({ d with text := text }, complete)

/-- The document with a comment before each of its declarations, and whether all fit. -/
def documented (d : Document) (date : Time.Date) : Document × Bool :=
  d.insertAll (comments d.text date)

/-- The document after it was documented on each of the days, and whether all comments fit. -/
def documentedEach (d : Document) : List Time.Date → Document × Bool
  | [] => (d, true)
  | date :: dates =>
    match d.documented date with
    | (d, true) => documentedEach d dates
    | (d, false) => (d, false)

/-- Writes the document to its file. -/
def save (d : Document) (disk : Files.Disk) (f : Files) : Except Error Unit × Files :=
  match f.writeOn disk d.path (octets d.text) with
  | (.ok (), f) => (.ok (), f)
  | (.error cause, f) => (.error (.writing d.path cause), f)

end Document

end TokenDesk.Assistant
