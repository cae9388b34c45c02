import TokenDesk.Files.Path
import TokenDesk.Text.Utf8

/-!
# File trees

Regular files and directories under one root, and how a path text is followed to the place it names.
Every piece of a path, empty pieces and dots included, asks for a directory before it; so a file with
a slash behind its name is not found as a file. A path cannot hold a zero character, and it has a limit
as each of its names has. The canonical form of a path has no limit as a text, but every name on the way
to it is looked up under its absolute path.
-/

set_option autoImplicit false

namespace TokenDesk

open TokenDesk.Text

/-- Where something stands: the names on the way from the root. -/
abbrev Location := List String

/-- What stands at a place. -/
inductive Entry where | file (bytes : Octets) | directory
  deriving DecidableEq, Repr

/-- Why the system refuses. -/
inductive OsError where
  | notFound | fileExists | notDirectory | isDirectory | busy | invalidArgument | nameTooLong
  /-- A zero character ends a path, so the system is not even asked. -/
  | zeroCharacter
  /-- What the disk itself reports, such as that it is full. -/
  | disk (report : String)
  deriving DecidableEq, Repr

def OsError.message : OsError → String
  | .notFound => "No such file or directory (os error 2)"
  | .busy => "Device or resource busy (os error 16)"
  | .fileExists => "File exists (os error 17)"
  | .notDirectory => "Not a directory (os error 20)"
  | .isDirectory => "Is a directory (os error 21)"
  | .invalidArgument => "Invalid argument (os error 22)"
  | .nameTooLong => "File name too long (os error 36)"
  | .zeroCharacter => "file name contained an unexpected NUL byte"
  | .disk report => report

/-- The most bytes that a name has. -/
def nameLimit : Nat := 255

/-- A path has fewer bytes than this. -/
def pathLimit : Nat := 4096

/-- Files and directories; the root is always a directory. -/
structure FileTree where
  entries : List (Location × Entry)
  deriving Repr

namespace FileTree

def empty : FileTree := ⟨[]⟩

/-- What stands at a place. -/
def get? (t : FileTree) : Location → Option Entry
  | [] => some .directory
  | name :: names => t.entries.lookup (name :: names)

/-- The bytes of the regular file at a place. -/
def file? (t : FileTree) (at_ : Location) : Option Octets :=
  match t.get? at_ with
  | some (.file bytes) => some bytes
  | _ => none

def isDirectoryAt (t : FileTree) (at_ : Location) : Bool :=
  t.get? at_ == some .directory

/-- The tree with an entry at a place, in the stead of what stood there. -/
def put (t : FileTree) (at_ : Location) (entry : Entry) : FileTree :=
  ⟨(at_, entry) :: t.entries.filter fun other => other.1 != at_⟩

/-- The tree without the entry at a place. -/
def erase (t : FileTree) (at_ : Location) : FileTree :=
  ⟨t.entries.filter fun other => other.1 != at_⟩

/-- The name of an entry that stands right below a place. -/
def nameBelow? (at_ : Location) (entry : Location × Entry) : Option String :=
  if entry.1.dropLast == at_ then entry.1.getLast? else none

/-- The names right below a place, ascending. -/
def names (t : FileTree) (at_ : Location) : List String :=
  ((t.entries.filterMap (nameBelow? at_)).eraseDups).mergeSort fun a b => a ≤ b

/-- Goes on from a place along the pieces of a path. -/
def follow (t : FileTree) (at_ : Location) : List String → Except OsError Location
  | [] => .ok at_
  | piece :: pieces =>
    match t.get? at_ with
    | none => .error .notFound
    | some (.file _) => .error .notDirectory
    | some .directory =>
      if Path.isIdle piece then follow t at_ pieces
      else if piece == ".." then follow t at_.dropLast pieces
      else if nameLimit < piece.utf8ByteSize then .error .nameTooLong
      else if (t.get? (at_ ++ [piece])).isSome then follow t (at_ ++ [piece]) pieces
      else .error .notFound

end FileTree

/-- A file tree seen from a working directory. -/
structure Files where
  tree : FileTree
  here : Location
  deriving Repr

namespace Files

/-- Where a path is followed from. -/
def origin (f : Files) (path : String) : Location :=
  if Path.isAbsolute path then [] else f.here

def hasZero (text : String) : Bool :=
  text.toList.contains '\x00'

/-- The place that a path names, however long it is written. -/
def resolve (f : Files) (path : String) : Except OsError Location :=
  if path == "" then .error .notFound
  else if hasZero path then .error .zeroCharacter
  else f.tree.follow (f.origin path) (Path.pieces path)

/-- Why the system does not look at a path. -/
def refusal? (path : String) : Option OsError :=
  if path == "" then some .notFound
  else if hasZero path then some .zeroCharacter
  else if pathLimit ≤ path.utf8ByteSize then some .nameTooLong
  else none

/-- The place that a path names. -/
def locate (f : Files) (path : String) : Except OsError Location :=
  match refusal? path with
  | some e => .error e
  | none => f.resolve path

/-- What stands where a path leads. -/
def entry? (f : Files) (path : String) : Option Entry :=
  match f.locate path with
  | .ok at_ => f.tree.get? at_
  | .error _ => none

def exists? (f : Files) (path : String) : Bool :=
  (f.entry? path).isSome

def isDirectory (f : Files) (path : String) : Bool :=
  f.entry? path == some .directory

/-- Reads a regular file. -/
def readBytes (f : Files) (path : String) : Except OsError Octets :=
  match f.locate path with
  | .error e => .error e
  | .ok at_ =>
    match f.tree.get? at_ with
    | some (.file bytes) => .ok bytes
    | some .directory => .error .isDirectory
    | none => .error .notFound

/-- Why a file cannot be read as text. -/
inductive ReadError where | system (cause : OsError) | notText
  deriving DecidableEq, Repr

def ReadError.message : ReadError → String
  | .system cause => cause.message
  | .notText => "stream did not contain valid UTF-8"

/-- Reads a regular file that holds UTF-8. -/
def readText (f : Files) (path : String) : Except ReadError String :=
  match f.readBytes path with
  | .error e => .error (.system e)
  | .ok bytes =>
    match decode? bytes with
    | some text => .ok text
    | none => .error .notText

/-- The names in a directory, ascending. -/
def list (f : Files) (path : String) : List String :=
  match f.locate path with
  | .ok at_ => if f.tree.isDirectoryAt at_ then f.tree.names at_ else []
  | .error _ => []

/-- The absolute path of a place. -/
def absolute (at_ : Location) : String :=
  "/" ++ Path.ofPieces at_

/-- Whether what follows a name asks for a directory in its place before it goes on or ends. -/
def asksDirectory (pieces : List String) : Bool :=
  match pieces.dropWhile Path.isIdle with
  | [] => !pieces.isEmpty
  | piece :: _ => piece == ".."

/-- The bytes of the path under which a place is looked up; a directory is asked for with a slash. -/
def lookupSize (at_ : Location) (pieces : List String) : Nat :=
  (absolute at_).utf8ByteSize + if asksDirectory pieces then 1 else 0

/-- Goes on from a place along the pieces of a path and looks each name up under its absolute path. -/
def lookUp (t : FileTree) (at_ : Location) : List String → Except OsError Location
  | [] => .ok at_
  | piece :: pieces =>
    if !Path.isIdle piece && piece != ".." && pathLimit ≤ lookupSize (at_ ++ [piece]) pieces then
      .error .nameTooLong
    else
      match t.follow at_ [piece] with
      | .error e => .error e
      | .ok next => lookUp t next pieces

/-- The canonical form of a path, as a place. -/
def canonicalize (f : Files) (path : String) : Except OsError Location :=
  if path == "" then .error .notFound
  else if hasZero path then .error .zeroCharacter
  else lookUp f.tree (f.origin path) (Path.pieces path)

end Files

end TokenDesk
