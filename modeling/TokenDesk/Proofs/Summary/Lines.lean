import Mathlib.Algebra.GroupWithZero.Nat
import TokenDesk.Proofs.Json.Compact
import TokenDesk.Proofs.Text.Split
import TokenDesk.Summary.Csv

/-!
# Lines of a summary

A summary has a line for its header, one for each entry, and one more for each line feed in a cell, since
no cell is quoted for its line feeds. Only texts bring line feeds into cells, so that the lines are the header
and the entries exactly where the texts at the columns have none (`linesOf_summary`).
-/

set_option autoImplicit false

namespace TokenDesk.Summary

open TokenDesk.Text

/-- The lines of a text, cut at its line feeds. -/
def linesOf (text : String) : List String :=
  (splitAll '\n' text.toList).map String.ofList

/-- How many line feeds a text has. -/
def lineFeeds (text : String) : Nat :=
  text.toList.count '\n'

/-- The line above all entries. -/
def headerLine : String :=
  String.intercalate "," headers

theorem lineFeeds_eq_zero {text : String} : lineFeeds text = 0 ↔ '\n' ∉ text.toList :=
  List.count_eq_zero

theorem length_linesOf (text : String) : (linesOf text).length = lineFeeds text + 1 := by
  rw [linesOf, List.length_map, length_splitAll, lineFeeds]

theorem linesOf_of_lineFeeds {text : String} (none : lineFeeds text = 0) : linesOf text = [text] := by
  rw [linesOf, splitAll_of_notMem (lineFeeds_eq_zero.mp none)]
  simp

/-- Texts that are joined by line feeds have the lines of each, one text after the other. -/
theorem linesOf_intercalate {texts : List String} (there : texts ≠ []) :
    linesOf (String.intercalate "\n" texts) = texts.flatMap linesOf := by
  have joined : (String.intercalate "\n" texts).toList = ['\n'].intercalate (texts.map String.toList) :=
    String.toList_intercalate
  rw [linesOf, joined, splitAll_intercalate '\n' (by simpa using there), List.flatMap_map,
    List.map_flatMap]
  rfl

/-! ## Written cells -/

/-- Joining by a mark that is no line feed adds none. -/
theorem count_intercalate {c mark : Char} (other : mark ≠ c) (parts : List (List Char)) :
    ([mark].intercalate parts).count c = (parts.map (List.count c)).sum := by
  induction parts with
  | nil => simp
  | cons part parts ih =>
    by_cases last : parts = []
    · simp [last]
    · rw [List.intercalate_cons_of_ne_nil last, List.append_assoc, List.singleton_append,
        List.count_append, List.count_cons_of_ne other, ih]
      rfl

theorem lineFeeds_escapeCell (cell : String) : lineFeeds (escapeCell cell) = lineFeeds cell := by
  have doubled (cs : List Char) : (doubleQuotes cs).count '\n' = cs.count '\n' := by
    induction cs with
    | nil => rfl
    | cons c cs ih =>
      rw [doubleQuotes, List.flatMap_cons, List.count_append]
      change _ + (doubleQuotes cs).count '\n' = _
      rw [ih]
      split
      case isTrue quote =>
        subst quote
        simp
      case isFalse => rw [← List.count_append, List.singleton_append]
  unfold escapeCell lineFeeds
  split
  · simp [doubled]
  · rfl

theorem toList_line (cells : List String) :
    (line cells).toList = [','].intercalate (cells.map fun cell => (escapeCell cell).toList) := by
  rw [line, String.toList_intercalate, List.map_map]
  rfl

/-- Quoting neither adds a line feed nor takes one away. -/
theorem lineFeeds_line (cells : List String) :
    lineFeeds (line cells) = (cells.map lineFeeds).sum := by
  rw [lineFeeds, toList_line, count_intercalate (by decide), List.map_map]
  exact congrArg List.sum (List.map_congr_left fun cell _ => lineFeeds_escapeCell cell)

/-! ## The lines of rows -/

/-- No column's name is quoted. -/
theorem line_headers : line headers = headerLine := by
  have plain : headers.map escapeCell = headers := by decide +kernel
  rw [line, plain, headerLine]

theorem lineFeeds_headerLine : lineFeeds headerLine = 0 := by
  have none : headers.map lineFeeds = List.replicate 13 0 := by decide +kernel
  rw [← line_headers, lineFeeds_line, none]
  rfl

theorem linesOf_csv (rows : List (List String)) :
    linesOf (csv rows) = headerLine :: (rows.map line).flatMap linesOf := by
  rw [csv, linesOf_intercalate (List.cons_ne_nil _ _), List.flatMap_cons]
  change linesOf headerLine ++ _ = _
  rw [linesOf_of_lineFeeds lineFeeds_headerLine]
  rfl

theorem length_linesOf_csv (rows : List (List String)) :
    (linesOf (csv rows)).length =
      rows.length + 1 + (rows.map fun cells => lineFeeds (line cells)).sum := by
  rw [linesOf_csv, List.length_cons]
  induction rows with
  | nil => rfl
  | cons cells rows ih =>
    simp only [List.map_cons, List.flatMap_cons, List.length_append, length_linesOf, List.length_cons,
      List.sum_cons]
    omega

theorem length_linesOf_csv_eq_iff {rows : List (List String)} :
    (linesOf (csv rows)).length = rows.length + 1 ↔ ∀ cells ∈ rows, lineFeeds (line cells) = 0 := by
  rw [length_linesOf_csv, Nat.add_eq_left, List.sum_eq_zero_iff_forall_eq_nat, List.forall_mem_map]

/-- The lines are the header and the rows exactly where no row has a line feed. -/
theorem linesOf_csv_eq_iff {rows : List (List String)} :
    linesOf (csv rows) = headerLine :: rows.map line ↔
      ∀ cells ∈ rows, lineFeeds (line cells) = 0 := by
  constructor
  · intro framed
    apply length_linesOf_csv_eq_iff.mp
    rw [framed, List.length_cons, List.length_map]
  · intro none
    rw [linesOf_csv, List.flatMap_map]
    congr 1
    induction rows with
    | nil => rfl
    | cons cells rows ih =>
      obtain ⟨first, others⟩ := List.forall_mem_cons.mp none
      rw [List.flatMap_cons, linesOf_of_lineFeeds first, ih others, List.map_cons]
      rfl

/-! ## Values in cells -/

/-- The line feeds that a value brings into its cell: those within the blanks around a text, and none of
any other value. -/
def feeds : Option Json → Nat
  | some (.string s) => lineFeeds (Text.trim s)
  | _ => 0

theorem lineFeeds_of_isFailure {text : String} (failure : isFailure text = true) :
    lineFeeds text = 0 := by
  rw [lineFeeds_eq_zero]
  intro member
  have marker : text.toList.map Char.toUpper = "FAILED".toList := by simpa [isFailure] using failure
  have among : Char.toUpper '\n' ∈ text.toList.map Char.toUpper := List.mem_map_of_mem member
  rw [marker] at among
  exact absurd among (by decide)

theorem lineFeeds_cell (value? : Option Json) : lineFeeds (cell value?) = feeds value? := by
  match value? with
  | none | some .null => rfl
  | some (.string s) =>
    rw [cell, feeds]
    split
    case isTrue failure =>
      rw [lineFeeds_of_isFailure failure]
      rfl
    case isFalse => rfl
  | some (.bool _) | some (.whole _) | some (.double _) | some (.array _) | some (.object _) =>
    exact lineFeeds_eq_zero.mpr (Json.lineFeed_notMem_compact _)

/-- The line feeds that an entry brings into its cells. -/
def entryFeeds (entry : Json) : Nat :=
  (columns.map fun column => feeds (lookup? entry column.2)).sum

theorem lineFeeds_line_row (entry : Json) : lineFeeds (line (row entry)) = entryFeeds entry := by
  rw [lineFeeds_line, row, entryFeeds, List.map_map]
  simp only [Function.comp_def, lineFeeds_cell]

/-- A summary has a line more than there are entries and line feeds in their texts. Its lines are the header
and the entries in order exactly where no text at a column has a line feed. -/
theorem linesOf_summary (entries : List Json) :
    (linesOf (csv (entries.map row))).length =
        entries.length + 1 + (entries.map entryFeeds).sum ∧
      (linesOf (csv (entries.map row)) = headerLine :: entries.map (fun entry => line (row entry)) ↔
        ∀ entry ∈ entries, entryFeeds entry = 0) := by
  constructor
  · rw [length_linesOf_csv, List.length_map, List.map_map]
    simp only [Function.comp_def, lineFeeds_line_row]
  · have framed : linesOf (csv (entries.map row)) = headerLine :: (entries.map row).map line ↔ _ :=
      linesOf_csv_eq_iff
    rw [List.map_map] at framed
    simpa [Function.comp_def, lineFeeds_line_row] using framed

/-- An entry that names its contract over two lines. -/
def twoLineEntry : Json :=
  .object [("contract", .string "My\nToken")]

theorem twoLineEntry_splits :
    linesOf (csv ([twoLineEntry].map row)) = [headerLine, ",,,My", "Token,,,,,,,,,"] ∧
      (linesOf (csv ([twoLineEntry].map row))).length ≠ [twoLineEntry].length + 1 := by
  have below : (([twoLineEntry].map row).map line).flatMap linesOf = [",,,My", "Token,,,,,,,,,"] := by
    decide +kernel
  rw [linesOf_csv, below]
  exact ⟨rfl, by decide⟩

end TokenDesk.Summary
