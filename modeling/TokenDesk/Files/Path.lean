import TokenDesk.Text.Blank

/-!
# Path texts

A path is a text whose pieces are divided by slashes. It is kept and shown as it was written; only
the questions below see through empty pieces and single dots.
-/

set_option autoImplicit false

namespace TokenDesk.Path

open TokenDesk.Text

/-- The pieces between the slashes, as written. -/
def pieces (path : String) : List String :=
  (splitAll '/' path.toList).map String.ofList

def ofPieces (pieces : List String) : String :=
  String.intercalate "/" pieces

def isAbsolute (path : String) : Bool :=
  path.toList.head? == some '/'

/-- The path behind a base, unless it is absolute: then it stands alone. -/
def join (base path : String) : String :=
  if isAbsolute path || base == "" then path
  else if base.toList.getLast? = some '/' then base ++ path
  else base ++ "/" ++ path

/-- What a path begins with that is no name. -/
inductive Lead where | none | root | here
  deriving DecidableEq, Repr

/-- A path apart: its beginning and the pieces behind it, as written. -/
structure Parts where
  lead : Lead
  body : List String
  deriving DecidableEq, Repr

def parts (path : String) : Parts :=
  match pieces path with
  | "" :: body => if isAbsolute path then ⟨.root, body⟩ else ⟨.none, []⟩
  | "." :: body => ⟨.here, body⟩
  | body => ⟨.none, body⟩

/-- The path text of its parts. -/
def Parts.text (p : Parts) : String :=
  match p.lead, p.body with
  | .none, body => ofPieces body
  | .root, body => "/" ++ ofPieces body
  | .here, [] => "."
  | .here, body => "./" ++ ofPieces body

/-- Pieces that name nothing: between two slashes, or a single dot. -/
def isIdle (piece : String) : Bool :=
  piece == "" || piece == "."

/-- The path without its last component; none where it has no component but the root. -/
def parent? (path : String) : Option String :=
  let p := parts path
  match p.body.reverse.dropWhile isIdle with
  | [] => if p.lead = .here then some "" else none
  | _ :: before => some (Parts.text ⟨p.lead, (before.dropWhile isIdle).reverse⟩)

/-- The last component where it is a name. -/
def fileName? (path : String) : Option String :=
  match (parts path).body.reverse.dropWhile isIdle with
  | [] => none
  | name :: _ => if name == ".." then none else some name

/-- What stands behind the last dot of a name that does not begin with it. -/
def extensionOf (name : List Char) : Option (List Char) :=
  let behind := (name.reverse.takeWhile (· != '.')).reverse
  if behind.length + 1 < name.length then some behind else none

/-- The extension of the last component. -/
def extension? (path : String) : Option String :=
  (fileName? path).bind fun name => (extensionOf name.toList).map String.ofList

/-- The rank and text of each component: root before dot before two dots before names. -/
def components (path : String) : List (Nat × String) :=
  let p := parts path
  let lead :=
    match p.lead with
    | .none => []
    | .root => [(0, "")]
    | .here => [(1, "")]
  lead ++ (p.body.filter fun piece => !isIdle piece).map fun piece =>
    if piece == ".." then (2, "") else (3, piece)

/-- The order of paths, component by component. -/
def precedes : List (Nat × String) → List (Nat × String) → Bool
  | [], _ => true
  | _ :: _, [] => false
  | (i, a) :: as, (j, b) :: bs =>
    if i = j && a == b then precedes as bs
    else i < j || (i == j && a < b)

/-- The paths in the order of their components. -/
def sort (paths : List String) : List String :=
  paths.mergeSort fun a b => precedes (components a) (components b)

end TokenDesk.Path
