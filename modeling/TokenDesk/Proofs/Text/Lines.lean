import Mathlib.Data.List.Basic
import TokenDesk.Text.Lines

/-!
# Lines of bytes

The lines of a byte sequence end with a line feed, or with a carriage return and a line feed; what is behind the
last feed is one more line, unless there is nothing (`lined_iff`). Behind complete lines the lines of what follows
follow (`inputLines_append`).
-/

set_option autoImplicit false

namespace TokenDesk.Text

variable {bs line rest : Octets} {lines : List Octets}

/-- The lines of a byte sequence without what ends them. -/
inductive Lined : Octets → List Octets → Prop
  | done : Lined [] []
  | opened {line : Octets} (some_ : line ≠ []) (feedless : 10 ∉ line) : Lined line [line]
  | feed {line rest : Octets} {lines : List Octets} (feedless : 10 ∉ line) (bare : line.getLast? ≠ some 13)
      (later : Lined rest lines) : Lined (line ++ 10 :: rest) (line :: lines)
  | returnFeed {line rest : Octets} {lines : List Octets} (feedless : 10 ∉ line) (later : Lined rest lines) :
      Lined (line ++ 13 :: 10 :: rest) (line :: lines)

/-- Every line is ended by a line feed. -/
def Complete (bs : Octets) : Prop :=
  bs = [] ∨ bs.getLast? = some 10

instance (bs : Octets) : Decidable (Complete bs) :=
  inferInstanceAs (Decidable (_ ∨ _))

/-! ## Cutting at feeds -/

theorem byteLines_feed (feedless : 10 ∉ line) (rest : Octets) :
    byteLines (line ++ 10 :: rest) = line :: byteLines rest := by
  induction line with
  | nil => rw [List.nil_append, byteLines, if_pos rfl]
  | cons b line ih =>
    rw [List.mem_cons, not_or] at feedless
    rw [List.cons_append, byteLines, if_neg (Ne.symm feedless.1), ih feedless.2]

theorem byteLines_opened (some_ : line ≠ []) (feedless : 10 ∉ line) : byteLines line = [line] := by
  induction line with
  | nil => exact absurd rfl some_
  | cons b line ih =>
    rw [List.mem_cons, not_or] at feedless
    rw [byteLines, if_neg (Ne.symm feedless.1)]
    by_cases last : line = []
    · subst last
      rfl
    · rw [ih last feedless.2]

theorem byteLines_eq_nil_iff : byteLines bs = [] ↔ bs = [] := by
  cases bs with
  | nil => simp [byteLines]
  | cons b bs =>
    rw [byteLines]
    split
    · simp
    · split <;> simp

theorem inputLines_feed (feedless : 10 ∉ line) (rest : Octets) :
    inputLines (line ++ 10 :: rest) = dropReturn line :: inputLines rest := by
  have cut := byteLines_feed feedless rest
  by_cases last : rest = []
  · subst last
    simp [inputLines, cut, byteLines]
  · have more : byteLines rest ≠ [] := mt byteLines_eq_nil_iff.mp last
    have end_ : (line ++ 10 :: rest).getLast? = rest.getLast? := by
      obtain ⟨b, bs, rfl⟩ := List.exists_cons_of_ne_nil last
      rw [List.getLast?_append_of_ne_nil _ (by simp), List.getLast?_cons_cons]
    unfold inputLines
    dsimp only
    rw [cut, end_]
    split
    · rw [List.map_cons]
    · obtain ⟨first, others, split_⟩ := List.exists_cons_of_ne_nil more
      rw [split_, List.dropLast_cons_cons, List.map_cons, List.getLast?_cons_cons, List.cons_append]

theorem inputLines_opened (some_ : line ≠ []) (feedless : 10 ∉ line) : inputLines line = [line] := by
  have open_ : line.getLast? ≠ some 10 := fun last => feedless (List.mem_of_getLast? last)
  simp [inputLines, byteLines_opened some_ feedless, open_]

theorem dropReturn_of_bare (bare : line.getLast? ≠ some 13) : dropReturn line = line := by
  rw [dropReturn, if_neg bare]

theorem dropReturn_append (line : Octets) : dropReturn (line ++ [13]) = line := by
  simp [dropReturn]

/-! ## The lines of an input -/

theorem lined_inputLines (bs : Octets) : Lined bs (inputLines bs) := by
  induction size : bs.length using Nat.strongRecOn generalizing bs with
  | ind n ih =>
    by_cases feed : 10 ∈ bs
    · obtain ⟨line, rest, rfl, feedless⟩ := List.eq_append_cons_of_mem feed
      have later : Lined rest (inputLines rest) := by
        refine ih rest.length ?_ rest rfl
        simp only [List.length_append, List.length_cons] at size
        omega
      rw [inputLines_feed feedless]
      by_cases bare : line.getLast? = some 13
      · obtain ⟨line, rfl⟩ := List.getLast?_eq_some_iff.mp bare
        rw [dropReturn_append, List.append_assoc]
        exact .returnFeed (fun among => feedless (List.mem_append_left _ among)) later
      · rw [dropReturn_of_bare bare]
        exact .feed feedless bare later
    · by_cases none_ : bs = []
      · subst none_
        exact .done
      · rw [inputLines_opened none_ feed]
        exact .opened none_ feed

theorem Lined.eq_inputLines (lined : Lined bs lines) : lines = inputLines bs := by
  induction lined with
  | done => rfl
  | opened some_ feedless => rw [inputLines_opened some_ feedless]
  | feed feedless bare _ ih => rw [inputLines_feed feedless, dropReturn_of_bare bare, ih]
  | @returnFeed line rest lines feedless _ ih =>
    have whole : line ++ 13 :: 10 :: rest = line ++ [13] ++ 10 :: rest := by simp
    have feedless' : 10 ∉ line ++ [13] := by simpa using feedless
    rw [whole, inputLines_feed feedless', dropReturn_append, ih]

theorem lined_iff : Lined bs lines ↔ lines = inputLines bs :=
  ⟨Lined.eq_inputLines, fun same => same ▸ lined_inputLines bs⟩

theorem Complete.behind (complete : Complete (line ++ 10 :: rest)) : Complete rest := by
  rcases complete with none_ | feed
  · simp at none_
  · by_cases last : rest = []
    · exact .inl last
    · obtain ⟨b, bs, rfl⟩ := List.exists_cons_of_ne_nil last
      rw [List.getLast?_append_of_ne_nil _ (by simp), List.getLast?_cons_cons] at feed
      exact .inr feed

/-- Complete lines stay as they are whatever follows. -/
theorem inputLines_append (complete : Complete bs) (more : Octets) :
    inputLines (bs ++ more) = inputLines bs ++ inputLines more := by
  induction size : bs.length using Nat.strongRecOn generalizing bs with
  | ind n ih =>
    rcases complete with rfl | last
    · rfl
    · obtain ⟨line, rest, rfl, feedless⟩ := List.eq_append_cons_of_mem (List.mem_of_getLast? last)
      have rest_ : Complete rest := Complete.behind (.inr last)
      have shorter : rest.length < n := by
        simp only [List.length_append, List.length_cons] at size
        omega
      rw [List.append_assoc, List.cons_append, inputLines_feed feedless, inputLines_feed feedless,
        ih rest.length shorter rest_ rfl, List.cons_append]

end TokenDesk.Text
