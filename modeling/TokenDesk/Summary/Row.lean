import TokenDesk.Json.Printer
import TokenDesk.Text.Blank

/-!
# Summary rows

One row of cells for each report entry. Entries are taken as plain JSON, whoever wrote them, so a cell
is whatever stands at the path of its column.
-/

set_option autoImplicit false

namespace TokenDesk.Summary

/-- The columns: the header and the path into an entry. -/
def columns : List (String × List String) := [
  ("timestamp", ["timestamp"]),
  ("network", ["network"]),
  ("mode", ["mode"]),
  ("contract", ["contract"]),
  ("address", ["address"]),
  ("transferGas", ["gasUsage", "transfer"]),
  ("mintGas", ["gasUsage", "mint"]),
  ("ownershipGas", ["gasUsage", "transferOwnership"]),
  ("ownerBalance", ["balances", "owner"]),
  ("user1Balance", ["balances", "user1"]),
  ("user2Balance", ["balances", "user2"]),
  ("totalSupplyBefore", ["totalSupplyBefore"]),
  ("totalSupplyAfter", ["totalSupplyAfter"])]

def headers : List String :=
  columns.map Prod.fst

/-- The value at the end of a path, unless it is null. -/
def lookup? (entry : Json) : List String → Option Json
  | [] =>
    match entry with
    | .null => none
    | value => some value
  | key :: path =>
    match entry.get? key with
    | some value => lookup? value path
    | none => none

/-- Whether a text marks a failure, in any letter case. -/
def isFailure (s : String) : Bool :=
  s.toList.map Char.toUpper == "FAILED".toList

/-- The cell of a value: a trimmed string, blank for a failure; the JSON text of anything else. -/
def cell : Option Json → String
  | none | some .null => ""
  | some (.string s) =>
    let s := Text.trim s
    if isFailure s then "" else s
  | some value => value.compact

/-- The cells of an entry. -/
def row (entry : Json) : List String :=
  columns.map fun column => cell (lookup? entry column.2)

end TokenDesk.Summary
