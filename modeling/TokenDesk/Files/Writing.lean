import TokenDesk.Files.Tree
import TokenDesk.Text.Decimal

/-!
# Writing files

Directories are made on the way down; a file is written beside its target, under a temporary name, and
moved there at once. So a write either leaves exactly the new content at the target or leaves every
regular file as it was, whichever of its steps the disk refuses.
-/

set_option autoImplicit false

namespace TokenDesk.Files

open TokenDesk.Text

/-- Where the last piece of a path is to stand. -/
inductive Target where
  /-- A name in an existing directory; `slash` tells whether a slash follows it. -/
  | name (directory : Location) (name : String) (slash : Bool)
  /-- A dot or the root: the place itself. -/
  | place
  deriving DecidableEq, Repr

/-- Follows a path up to its last piece, which need not exist. -/
def target (f : Files) (path : String) : Except OsError Target :=
  match refusal? path with
  | some e => .error e
  | none =>
    let pieces := (Path.pieces path).reverse
    match pieces.dropWhile (· == "") with
    | [] => .ok .place
    | last :: before =>
      match f.tree.follow (f.origin path) before.reverse with
      | .error e => .error e
      | .ok directory =>
        match f.tree.get? directory with
        | none => .error .notFound
        | some (.file _) => .error .notDirectory
        | some .directory =>
          if last == "." || last == ".." then .ok .place
          else if nameLimit < last.utf8ByteSize then .error .nameTooLong
          else .ok (.name directory last (pieces.head? == some ""))

/-- Makes one directory. -/
def makeDirectory (f : Files) (path : String) : Except OsError Files :=
  match f.target path with
  | .error e => .error e
  | .ok .place => .error .fileExists
  | .ok (.name directory name _) =>
    if (f.tree.get? (directory ++ [name])).isSome then .error .fileExists
    else .ok { f with tree := f.tree.put (directory ++ [name]) .directory }

/-- An outcome, and the files as they are then. -/
abbrev Effect (α : Type) := Except OsError α × Files

/-- Makes one directory, unless it is there. -/
def ensureDirectory (f : Files) (path : String) : Effect Unit :=
  match f.makeDirectory path with
  | .ok f => (.ok (), f)
  | .error e => (if f.isDirectory path then .ok () else .error e, f)

/-- Makes a directory and those above it; `depth` bounds the number of steps up. -/
def makeDirectoriesTo : Nat → Files → String → Effect Unit
  | 0, f, _ => (.error .notFound, f)
  | depth + 1, f, path =>
    if path == "" then (.ok (), f)
    else
      match f.makeDirectory path with
      | .ok f => (.ok (), f)
      | .error .notFound =>
        match Path.parent? path with
        | none => (.error .notFound, f)
        | some parent =>
          match makeDirectoriesTo depth f parent with
          | (.error e, f) => (.error e, f)
          | (.ok (), f) => f.ensureDirectory path
      | .error e => (if f.isDirectory path then .ok () else .error e, f)

/-- Makes a directory and those above it, as far as they are missing. -/
def makeDirectories (f : Files) (path : String) : Effect Unit :=
  makeDirectoriesTo (path.length + 1) f path

/-- The directory that a file is written in. -/
def directoryOf (path : String) : String :=
  match Path.parent? path with
  | some parent => if parent == "" then "." else parent
  | none => "."

/-- The directory some levels above the one that a file is written in. -/
def directoryAbove : Nat → String → String
  | 0, path => directoryOf path
  | levels + 1, path => directoryOf (directoryAbove levels path)

/-- The place that a file gets when it is moved to a path. -/
def destination (f : Files) (path : String) : Except OsError Location :=
  match f.target path with
  | .error .zeroCharacter => .error .invalidArgument
  | .error e => .error e
  | .ok .place => .error .busy
  | .ok (.name _ _ true) => .error .notDirectory
  | .ok (.name directory name false) =>
    if f.tree.isDirectoryAt (directory ++ [name]) then .error .isDirectory
    else .ok (directory ++ [name])

/-- Moves what stands at a place to a path, in the stead of a file that stands there. -/
def rename (f : Files) (source : Location) (path : String) : Effect Unit :=
  match f.destination path with
  | .error e => (.error e, f)
  | .ok place =>
    match f.tree.get? source with
    | none => (.error .notFound, f)
    | some entry => (.ok (), { f with tree := (f.tree.erase source).put place entry })

/-- The files with a regular file at a place. -/
def fill (f : Files) (at_ : Location) (bytes : Octets) : Files :=
  { f with tree := f.tree.put at_ (.file bytes) }

/-- What the disk does in a write. It may refuse every step: it is full, or the path of the temporary file
gets too long for the system. -/
structure Disk where
  /-- Why a directory is not made, and how many levels it is above the one that the file is written in. -/
  unbuilt? : Option (OsError × Nat)
  /-- The names that are tried for the temporary file of a path, one after the other. -/
  names : String → Files → List String
  /-- Why the temporary file is not made. -/
  unmade? : Option OsError
  /-- Why the bytes are not all stored, and how many of them are. -/
  unstored? : Option (OsError × Nat)
  /-- Why the stored bytes are not kept. -/
  unkept? : Option OsError

/-- Makes the directories above a file, from the highest one on, until the disk refuses one. -/
def prepare (disk : Disk) (f : Files) (path : String) : Effect Unit :=
  match disk.unbuilt? with
  | some (e, levels) => (.error e, (f.makeDirectories (directoryAbove (levels + 1) path)).2)
  | none => f.makeDirectories (directoryOf path)

/-- Makes an empty file in the directory of a path, under the first name that is free there. -/
def makeTemporary (disk : Disk) (f : Files) (path : String) : Effect Location :=
  match f.locate (directoryOf path) with
  | .error e => (.error e, f)
  | .ok directory =>
    if !f.tree.isDirectoryAt directory then (.error .notDirectory, f)
    else
      match disk.unmade? with
      | some e => (.error e, f)
      | none =>
        match (disk.names path f).find? fun name => (f.tree.get? (directory ++ [name])).isNone with
        | none => (.error .fileExists, f)
        | some name => (.ok (directory ++ [name]), f.fill (directory ++ [name]) [])

/-- Stores the bytes in the temporary file at a place and moves it to its path. -/
def finish (disk : Disk) (f : Files) (temporary : Location) (path : String) (bytes : Octets) :
    Effect Unit :=
  match disk.unstored? with
  | some (e, count) => (.error e, f.fill temporary (bytes.take count))
  | none =>
    match disk.unkept? with
    | some e => (.error e, f.fill temporary bytes)
    | none => (f.fill temporary bytes).rename temporary path

/-- Writes a file as a whole: makes the directories above it, then a temporary file beside it, which is
moved to its path when it is finished and removed when a step before that fails. -/
def writeOn (disk : Disk) (f : Files) (path : String) (bytes : Octets) : Effect Unit :=
  match f.prepare disk path with
  | (.error e, f) => (.error e, f)
  | (.ok (), f) =>
    match f.makeTemporary disk path with
    | (.error e, f) => (.error e, f)
    | (.ok temporary, f) =>
      match f.finish disk temporary path bytes with
      | (.error e, f) => (.error e, { f with tree := f.tree.erase temporary })
      | (.ok (), f) => (.ok (), f)

/-- The names in a path, in the working directory and in the files. -/
def takenNames (path : String) (f : Files) : List String :=
  Path.pieces path ++ f.here ++ f.tree.entries.flatMap Prod.fst

/-- Names for a temporary file that are not taken. -/
def temporaryNames (path : String) (f : Files) : List String :=
  let taken := takenNames path f
  ((List.range (taken.length + 1)).map fun n => ".tmp" ++ decimal n).filter fun name =>
    !taken.contains name

/-- A disk that refuses nothing. -/
def Disk.steady : Disk :=
  ⟨none, temporaryNames, none, none, none⟩

end TokenDesk.Files
