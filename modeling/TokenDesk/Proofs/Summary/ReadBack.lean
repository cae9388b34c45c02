import TokenDesk.Proofs.Summary.Lines

/-!
# Summaries read back

A reader of comma-separated lines, and what it makes of a summary: it gives the header and the cells of
every row exactly where each cell stays on its line and no cell without a comma begins with a quote
(`table?_summary`).
-/

set_option autoImplicit false

namespace TokenDesk.Summary

open TokenDesk.Text

/-! ## Fields -/

/-- Reads a quoted field behind its opening quote: it runs to the next quote that is not doubled, and a
doubled quote is read as one. Gives the field and what stands behind its closing quote. -/
def quotedField? : List Char → Option (List Char × List Char)
  | [] => none
  | '"' :: '"' :: cs => (quotedField? cs).map fun (field, rest) => ('"' :: field, rest)
  | '"' :: cs => some ([], cs)
  | c :: cs => (quotedField? cs).map fun (field, rest) => (c :: field, rest)

/-- Reads a field: a quoted one, or one that runs to the next comma or to the end. -/
def field? : List Char → Option (List Char × List Char)
  | '"' :: cs => quotedField? cs
  | cs => some (cs.takeWhile (· ≠ ','), cs.dropWhile (· ≠ ','))

theorem doubleQuotes_cons_quote (cs : List Char) :
    doubleQuotes ('"' :: cs) = '"' :: '"' :: doubleQuotes cs := rfl

theorem doubleQuotes_cons_of_ne {c : Char} (other : c ≠ '"') (cs : List Char) :
    doubleQuotes (c :: cs) = c :: doubleQuotes cs := by
  simp [doubleQuotes, other]

/-- A quoted field is read from the characters with quotes doubled and one quote more. -/
theorem quotedField?_eq_some_iff {cs field rest : List Char} :
    quotedField? cs = some (field, rest) ↔
      cs = doubleQuotes field ++ '"' :: rest ∧ rest.head? ≠ some '"' := by
  constructor
  · intro read
    fun_induction quotedField? cs generalizing field with
    | case1 => cases read
    | case2 cs ih =>
      obtain ⟨⟨field, rest⟩, inner, same⟩ := Option.map_eq_some_iff.mp read
      cases same
      obtain ⟨rfl, single⟩ := ih inner
      exact ⟨rfl, single⟩
    | case3 cs single =>
      cases read
      refine ⟨rfl, fun doubled => ?_⟩
      obtain ⟨more, rfl⟩ := List.head?_eq_some_iff.mp doubled
      exact single more rfl
    | case4 c cs _ other ih =>
      obtain ⟨⟨field, rest⟩, inner, same⟩ := Option.map_eq_some_iff.mp read
      cases same
      obtain ⟨rfl, single⟩ := ih inner
      rw [doubleQuotes_cons_of_ne (fun quote => other quote)]
      exact ⟨rfl, single⟩
  · rintro ⟨rfl, single⟩
    induction field with
    | nil =>
      cases rest with
      | nil => rfl
      | cons c rest =>
        have other : c ≠ '"' := by simpa using single
        simp [doubleQuotes, quotedField?, other]
    | cons c field ih =>
      by_cases quote : c = '"'
      · subst quote
        simp [doubleQuotes_cons_quote, quotedField?, ih]
      · simp [doubleQuotes_cons_of_ne quote, quotedField?, quote, ih]

theorem length_le_length_doubleQuotes (cs : List Char) : cs.length ≤ (doubleQuotes cs).length := by
  induction cs with
  | nil => exact Nat.le_refl _
  | cons c cs ih =>
    by_cases quote : c = '"'
    · subst quote
      simp only [doubleQuotes_cons_quote, List.length_cons]
      omega
    · simpa [doubleQuotes_cons_of_ne quote] using ih

theorem mem_doubleQuotes {c : Char} {cs : List Char} : c ∈ doubleQuotes cs ↔ c ∈ cs := by
  induction cs with
  | nil => rfl
  | cons first cs ih =>
    by_cases quote : first = '"'
    · subst quote
      simp [doubleQuotes_cons_quote, ih]
    · simp [doubleQuotes_cons_of_ne quote, ih]

/-- What is read of a field is not longer than what it is read from. -/
theorem length_field? {cs field rest : List Char} (read : field? cs = some (field, rest)) :
    rest.length ≤ cs.length := by
  unfold field? at read
  split at read
  · obtain ⟨rfl, -⟩ := quotedField?_eq_some_iff.mp read
    simp only [List.length_cons, List.length_append]
    omega
  · cases read
    exact (List.dropWhile_sublist _).length_le

/-- Reads the fields of a line, each up to a comma or to the end. -/
def fields? (cs : List Char) : Option (List (List Char)) :=
  match _ : field? cs with
  | some (field, []) => some [field]
  | some (field, ',' :: rest) => (fields? rest).map (field :: ·)
  | _ => none
termination_by cs.length
decreasing_by
  have shorter := length_field? ‹field? cs = some (field, ',' :: rest)›
  simp only [List.length_cons] at shorter
  omega

/-- What may stand behind a field: nothing, or a comma. -/
def Parts (rest : List Char) : Prop :=
  rest = [] ∨ ∃ more, rest = ',' :: more

/-- A cell that begins with a quote only if it is put in quotes. -/
def Told (cell : List Char) : Prop :=
  ',' ∉ cell → cell.head? ≠ some '"'

/-- Such a cell is read where it is written. -/
theorem field?_escapeCell {cell : String} (told : Told cell.toList) {rest : List Char}
    (parts : Parts rest) : field? ((escapeCell cell).toList ++ rest) = some (cell.toList, rest) := by
  have single : rest.head? ≠ some '"' := by
    rcases parts with rfl | ⟨more, rfl⟩ <;> simp
  unfold escapeCell
  split
  case isTrue =>
    rw [String.toList_ofList]
    change quotedField? ((doubleQuotes cell.toList ++ ['"']) ++ rest) = _
    rw [List.append_assoc]
    exact quotedField?_eq_some_iff.mpr ⟨rfl, single⟩
  case isFalse bare =>
    have begins : (cell.toList ++ rest).head? ≠ some '"' := by
      cases chars : cell.toList with
      | nil => simpa [chars] using single
      | cons c cs => simpa [chars] using told bare
    have all : ∀ c ∈ cell.toList, decide (c ≠ ',') = true := by
      intro c member
      simpa using fun comma : c = ',' => bare (comma ▸ member)
    unfold field?
    split
    case h_1 same => simp [same] at begins
    case h_2 =>
      rw [List.takeWhile_append_of_pos all, List.dropWhile_append_of_pos all]
      rcases parts with rfl | ⟨more, rfl⟩ <;> simp

/-- Any other cell is not: a quote that does not quote the cell opens a field that runs past it. -/
theorem field?_escapeCell_ne {cell : String} (untold : ¬ Told cell.toList) {rest : List Char}
    (parts : Parts rest) (behind : List Char) :
    field? ((escapeCell cell).toList ++ rest) ≠ some (cell.toList, behind) := by
  obtain ⟨bare, quote⟩ : ',' ∉ cell.toList ∧ cell.toList.head? = some '"' := by
    simpa [Told] using untold
  obtain ⟨body, chars⟩ := List.head?_eq_some_iff.mp quote
  have written : (escapeCell cell).toList = '"' :: body := by rw [escapeCell, if_neg bare, chars]
  rw [written, chars]
  intro read
  obtain ⟨same, -⟩ := quotedField?_eq_some_iff.mp read
  -- the doubled quotes reach further than the cell, up to its comma
  have reach := length_le_length_doubleQuotes body
  rcases List.append_eq_append_iff.mp same with ⟨beyond, doubled, tail⟩ | ⟨beyond, short, -⟩
  · have some_ : beyond ≠ [] := by
      rintro rfl
      have lengths := congrArg List.length doubled
      simp only [doubleQuotes_cons_quote, List.length_cons, List.append_nil] at lengths
      omega
    obtain ⟨c, beyond, rfl⟩ := List.exists_cons_of_ne_nil some_
    have comma : c = ',' := by
      rcases parts with rfl | ⟨more, rfl⟩
      · simp at tail
      · exact (List.cons.inj tail).1.symm
    subst comma
    have among : ',' ∈ doubleQuotes ('"' :: body) := by simp [doubled]
    exact bare (chars ▸ mem_doubleQuotes.mp among)
  · have lengths := congrArg List.length short
    simp only [doubleQuotes_cons_quote, List.length_cons, List.length_append] at lengths
    omega

/-! ## Lines -/

theorem fields?_of_field? {cs field : List Char} (read : field? cs = some (field, [])) :
    fields? cs = some [field] := by
  rw [fields?, read]

theorem fields?_of_comma {cs field rest : List Char} (read : field? cs = some (field, ',' :: rest)) :
    fields? cs = (fields? rest).map (field :: ·) := by
  rw [fields?, read]
  rfl

theorem field?_of_fields? {cs field : List Char} {fields : List (List Char)}
    (read : fields? cs = some (field :: fields)) : ∃ rest, field? cs = some (field, rest) := by
  rw [fields?] at read
  split at read
  case h_1 found =>
    cases read
    exact ⟨[], found⟩
  case h_2 found =>
    obtain ⟨_, -, same⟩ := Option.map_eq_some_iff.mp read
    cases same
    exact ⟨_, found⟩
  case h_3 => cases read

/-- The characters of a line, one cell after the other. -/
theorem toList_line_cons (cell : String) {cells : List String} (more : cells ≠ []) :
    (line (cell :: cells)).toList = (escapeCell cell).toList ++ ',' :: (line cells).toList := by
  rw [toList_line, toList_line, List.map_cons, List.intercalate_cons_of_ne_nil (by simpa using more)]
  simp

theorem toList_line_singleton (cell : String) :
    (line [cell]).toList = (escapeCell cell).toList := by
  simp [line]

/-- A line gives its cells exactly where none of them begins with a quote that does not quote it. -/
theorem fields?_line_eq_iff {cells : List String} (there : cells ≠ []) :
    fields? (line cells).toList = some (cells.map String.toList) ↔
      ∀ cell ∈ cells, Told cell.toList := by
  induction cells with
  | nil => exact absurd rfl there
  | cons cell cells ih =>
    by_cases told : Told cell.toList
    · rw [List.forall_mem_cons, and_iff_right told]
      by_cases last : cells = []
      · subst last
        have read := field?_escapeCell told (.inl rfl)
        rw [List.append_nil] at read
        simp [toList_line_singleton, fields?_of_field? read]
      · have read := field?_escapeCell told (.inr ⟨(line cells).toList, rfl⟩)
        rw [toList_line_cons cell last, fields?_of_comma read, ← ih last, List.map_cons]
        simp
    · refine iff_of_false ?_ fun all => told (all cell (by simp))
      intro read
      obtain ⟨behind, first⟩ := field?_of_fields? read
      by_cases last : cells = []
      · subst last
        rw [toList_line_singleton, ← List.append_nil (escapeCell cell).toList] at first
        exact field?_escapeCell_ne told (.inl rfl) behind first
      · rw [toList_line_cons cell last] at first
        exact field?_escapeCell_ne told (.inr ⟨_, rfl⟩) behind first

/-! ## Tables -/

/-- Reads the cells of a line. -/
def cells? (text : String) : Option (List String) :=
  (fields? text.toList).map (·.map String.ofList)

/-- Reads the cells of every line of a text. -/
def table? (text : String) : Option (List (List String)) :=
  (linesOf text).mapM cells?

/-- A cell that stays on its line and is told from a quoted one. -/
structure Framed (cell : String) : Prop where
  line : '\n' ∉ cell.toList
  told : Told cell.toList

theorem cells?_line_eq_iff {cells : List String} (there : cells ≠ []) :
    cells? (line cells) = some cells ↔ ∀ cell ∈ cells, Told cell.toList := by
  rw [← fields?_line_eq_iff there, cells?, Option.map_eq_some_iff]
  constructor
  · rintro ⟨fields, read, rfl⟩
    simp [read, Function.comp_def]
  · intro read
    exact ⟨_, read, by simp [Function.comp_def]⟩

theorem mapM_map_eq_some_iff {α β : Type} {written : α → β} {read : β → Option α} {values : List α} :
    (values.map written).mapM read = some values ↔
      ∀ value ∈ values, read (written value) = some value := by
  induction values with
  | nil => simp
  | cons value values ih =>
    rw [List.forall_mem_cons, ← ih, List.map_cons, List.mapM_cons]
    cases read (written value) with
    | none => simp
    | some first =>
      cases (values.map written).mapM read with
      | none => simp
      | some rest => simp

theorem length_of_mapM {α β : Type} {read : α → Option β} {values : List α} {results : List β}
    (success : values.mapM read = some results) : results.length = values.length := by
  induction values generalizing results with
  | nil =>
    cases success
    rfl
  | cons value values ih =>
    rw [List.mapM_cons] at success
    obtain ⟨first, -, behind⟩ := Option.bind_eq_some_iff.mp success
    obtain ⟨rest, others, same⟩ := Option.bind_eq_some_iff.mp behind
    cases same
    simp [ih others]

theorem cells?_headerLine : cells? headerLine = some headers := by
  have told : ∀ cell ∈ headers, Told cell.toList := by
    unfold Told
    decide +kernel
  rw [← line_headers]
  exact (cells?_line_eq_iff (by simp [headers, columns])).mpr told

/-- Rows are read where they are written exactly where all their cells can be told apart. -/
theorem table?_csv_eq_iff {rows : List (List String)} (wide : ∀ cells ∈ rows, cells ≠ []) :
    table? (csv rows) = some (headers :: rows) ↔ ∀ cells ∈ rows, ∀ cell ∈ cells, Framed cell := by
  have flat : (∀ cells ∈ rows, lineFeeds (line cells) = 0) ↔
      ∀ cells ∈ rows, ∀ cell ∈ cells, '\n' ∉ cell.toList := by
    simp only [lineFeeds_line, List.sum_eq_zero_iff_forall_eq_nat, List.forall_mem_map,
      lineFeeds_eq_zero]
  have told : (∀ cells ∈ rows, cells? (line cells) = some cells) ↔
      ∀ cells ∈ rows, ∀ cell ∈ cells, Told cell.toList :=
    forall₂_congr fun cells member => cells?_line_eq_iff (wide cells member)
  have read (framed : linesOf (csv rows) = headerLine :: rows.map line) :
      table? (csv rows) = some (headers :: rows) ↔
        ∀ cells ∈ rows, cells? (line cells) = some cells := by
    rw [table?, framed, List.mapM_cons, cells?_headerLine, ← mapM_map_eq_some_iff]
    cases (rows.map line).mapM cells? <;> simp
  constructor
  · intro success
    have lines : ∀ cells ∈ rows, lineFeeds (line cells) = 0 := by
      apply length_linesOf_csv_eq_iff.mp
      rw [← length_of_mapM success, List.length_cons]
    have apart := told.mp ((read (linesOf_csv_eq_iff.mpr lines)).mp success)
    exact fun cells member cell among => ⟨flat.mp lines cells member cell among, apart cells member cell among⟩
  · intro framed
    have lines := flat.mpr fun cells member cell among => (framed cells member cell among).line
    apply (read (linesOf_csv_eq_iff.mpr lines)).mpr
    exact told.mpr fun cells member cell among => (framed cells member cell among).told

/-- Every row has thirteen cells, and a summary read back gives the header and exactly these cells, row by
row in order, if and only if no cell has a line feed and none without a comma begins with a quote. -/
theorem table?_summary (entries : List Json) :
    (∀ entry, (row entry).length = 13) ∧
      (table? (csv (entries.map row)) = some (headers :: entries.map row) ↔
        ∀ entry ∈ entries, ∀ cell ∈ row entry, Framed cell) := by
  refine ⟨fun _ => rfl, ?_⟩
  have wide : ∀ cells ∈ entries.map row, cells ≠ [] := by
    simp [row, columns]
  rw [table?_csv_eq_iff wide, List.forall_mem_map]

end TokenDesk.Summary
