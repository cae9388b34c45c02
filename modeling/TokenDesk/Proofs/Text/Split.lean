import TokenDesk.Text.Blank

/-!
# Texts split at a mark

A text has one piece more than it has marks (`length_splitAll`), and parts that are joined by a mark are
split again, each into its own pieces (`splitAll_intercalate`). The first cut alone leaves what is before
the first mark and what is behind it (`splitFirst?_eq_some_iff`).
-/

set_option autoImplicit false

namespace TokenDesk.Text

variable {mark c : Char} {cs part : List Char} {parts : List (List Char)}

theorem splitAll_eq_splitOn (mark : Char) (cs : List Char) :
    splitAll mark cs = cs.splitOn mark := by
  induction cs with
  | nil => rfl
  | cons c cs ih =>
    rw [splitAll, List.splitOn_cons_eq_if_modifyHead, ih]
    by_cases same : c = mark
    · simp [same]
    · obtain ⟨piece, pieces, split⟩ := List.exists_cons_of_ne_nil (List.splitOn_ne_nil mark cs)
      simp [same, split]

theorem splitAll_ne_nil (mark : Char) (cs : List Char) : splitAll mark cs ≠ [] := by
  rw [splitAll_eq_splitOn]
  exact List.splitOn_ne_nil mark cs

theorem splitAll_of_notMem (absent : mark ∉ cs) : splitAll mark cs = [cs] := by
  rw [splitAll_eq_splitOn, List.splitOn_eq_singleton absent]

theorem splitAll_append (mark : Char) (before behind : List Char) :
    splitAll mark (before ++ mark :: behind) = splitAll mark before ++ splitAll mark behind := by
  simp only [splitAll_eq_splitOn, List.splitOn_append_cons_self]

/-- Joined parts are split into their own pieces, one part after the other. -/
theorem splitAll_intercalate (mark : Char) (there : parts ≠ []) :
    splitAll mark ([mark].intercalate parts) = parts.flatMap (splitAll mark) := by
  induction parts with
  | nil => exact absurd rfl there
  | cons part parts ih =>
    by_cases last : parts = []
    · simp [last]
    · rw [List.intercalate_cons_of_ne_nil last, List.append_assoc, List.singleton_append,
        splitAll_append, ih last, List.flatMap_cons]

theorem length_splitAll (mark : Char) (cs : List Char) :
    (splitAll mark cs).length = cs.count mark + 1 := by
  induction cs with
  | nil => rfl
  | cons c cs ih =>
    rw [splitAll]
    split
    case isTrue same => rw [same, List.length_cons, ih, List.count_cons_self]
    case isFalse other =>
      obtain ⟨piece, pieces, split⟩ := List.exists_cons_of_ne_nil (splitAll_ne_nil mark cs)
      rw [List.count_cons_of_ne other, ← ih, split]
      rfl

/-- No piece has the mark. -/
theorem notMem_of_mem_splitAll (member : part ∈ splitAll mark cs) : mark ∉ part := by
  induction cs generalizing part with
  | nil =>
    rw [List.mem_singleton.mp member]
    exact List.not_mem_nil
  | cons c cs ih =>
    obtain ⟨piece, pieces, split⟩ := List.exists_cons_of_ne_nil (splitAll_ne_nil mark cs)
    rw [splitAll, split] at member
    rw [split] at ih
    split at member
    case isTrue =>
      rcases List.mem_cons.mp member with rfl | later
      · exact List.not_mem_nil
      · exact ih later
    case isFalse other =>
      rcases List.mem_cons.mp member with rfl | later
      · exact List.not_mem_cons_of_ne_of_not_mem (Ne.symm other) (ih List.mem_cons_self)
      · exact ih (List.mem_cons_of_mem _ later)

theorem mem_intercalate (mark : Char) (member : part ∈ parts) (among : c ∈ part) :
    c ∈ [mark].intercalate parts := by
  induction parts with
  | nil => cases member
  | cons first parts ih =>
    by_cases last : parts = []
    · subst last
      rw [List.mem_singleton.mp member] at among
      simpa using among
    · rw [List.intercalate_cons_of_ne_nil last]
      rcases List.mem_cons.mp member with rfl | later
      · simp [among]
      · simp [ih later]

/-! ## The first mark -/

theorem splitFirst?_eq_some_iff {before behind : List Char} :
    splitFirst? mark cs = some (before, behind) ↔ cs = before ++ mark :: behind ∧ mark ∉ before := by
  induction cs generalizing before with
  | nil => simp [splitFirst?]
  | cons c cs ih =>
    rw [splitFirst?]
    split
    case isTrue same =>
      -- The mark is at the head, so nothing is before it.
      cases before with
      | nil => simp [same]
      | cons first before =>
        constructor
        · intro parts
          cases parts
        · rintro ⟨text, absent⟩
          have head := (List.cons.inj text).1.symm.trans same
          exact absurd (head ▸ List.mem_cons_self) absent
    case isFalse other =>
      rw [Option.map_eq_some_iff]
      constructor
      · rintro ⟨⟨first, rest⟩, found, parts⟩
        cases parts
        obtain ⟨text, absent⟩ := ih.mp found
        exact ⟨by rw [text, List.cons_append],
          List.not_mem_cons_of_ne_of_not_mem (Ne.symm other) absent⟩
      · rintro ⟨text, absent⟩
        cases before with
        | nil => exact absurd (List.cons.inj text).1 other
        | cons first before =>
          obtain ⟨rfl, rest⟩ := List.cons.inj text
          exact ⟨(before, behind), ih.mpr ⟨rest, List.not_mem_of_not_mem_cons absent⟩, rfl⟩

theorem splitFirst?_eq_none_iff : splitFirst? mark cs = none ↔ mark ∉ cs := by
  induction cs with
  | nil => simp [splitFirst?]
  | cons c cs ih =>
    rw [splitFirst?]
    split
    case isTrue same => simp [same]
    case isFalse other => simp [ih, Ne.symm other]

end TokenDesk.Text
