import TokenDesk.Json.Double

/-!
# JSON values

An object keeps its entries in the order in which they are printed. `sorted` brings a value into the
form of files, in which every object has ascending keys.
-/

set_option autoImplicit false

namespace TokenDesk

/-- A JSON value; whole numbers and doubles are apart. -/
inductive Json where
  | null
  | bool (value : Bool)
  | whole (value : Int)
  | double (value : Json.Double)
  | string (value : String)
  | array (items : List Json)
  | object (entries : List (String × Json))
  deriving Repr, Inhabited

namespace Json

/-- The entry with this key, the last one where there are several. -/
def lookup (key : String) : List (String × Json) → Option Json
  | [] => none
  | (k, v) :: entries =>
    match lookup key entries with
    | some found => some found
    | none => if k = key then some v else none

/-- The value of a key; only objects have keys. -/
def get? (key : String) : Json → Option Json
  | .object entries => lookup key entries
  | _ => none

/-- Puts an entry in its place among ascending keys; an equal key is replaced. -/
def insertSorted (key : String) (value : Json) :
    List (String × Json) → List (String × Json)
  | [] => [(key, value)]
  | (k, v) :: entries =>
    if key < k then (key, value) :: (k, v) :: entries
    else if key = k then (key, value) :: entries
    else (k, v) :: insertSorted key value entries

/-- The entries with ascending keys; of equal keys the last entry stays. -/
def sortEntries (entries : List (String × Json)) : List (String × Json) :=
  entries.foldl (fun sorted entry => insertSorted entry.1 entry.2 sorted) []

mutual

/-- The value with ascending keys in every object. -/
def sorted : Json → Json
  | .array items => .array (sortedItems items)
  | .object entries => .object (sortEntries (sortedEntries entries))
  | value => value

def sortedItems : List Json → List Json
  | [] => []
  | item :: items => sorted item :: sortedItems items

def sortedEntries : List (String × Json) → List (String × Json)
  | [] => []
  | (key, value) :: entries => (key, sorted value) :: sortedEntries entries

end

/-- A key with a value that may be absent: an absent one has no entry. -/
def optional (key : String) (value? : Option Json) : List (String × Json) :=
  match value? with
  | some value => [(key, value)]
  | none => []

end Json

end TokenDesk
