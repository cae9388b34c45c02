import TokenDesk.Summary.Row

/-!
# Summaries as comma-separated lines

A header line and one line for each entry. A cell with a comma is put in quotes, and its own quotes
are doubled; every other cell stands as it is.
-/

set_option autoImplicit false

namespace TokenDesk.Summary

/-- The cell with its quotes doubled. -/
def doubleQuotes (cs : List Char) : List Char :=
  cs.flatMap fun c => if c = '"' then ['"', '"'] else [c]

/-- The written form of a cell. -/
def escapeCell (cell : String) : String :=
  if ',' ∈ cell.toList then
    String.ofList ('"' :: doubleQuotes cell.toList ++ ['"'])
  else cell

def line (cells : List String) : String :=
  String.intercalate "," (cells.map escapeCell)

/-- The lines of a summary: the header and one for each row. -/
def csv (rows : List (List String)) : String :=
  String.intercalate "\n" (String.intercalate "," headers :: rows.map line)

end TokenDesk.Summary
