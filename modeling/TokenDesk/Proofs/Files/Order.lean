import TokenDesk.Files.Path

/-!
# The order of paths

Paths are sorted by their components. The order of the components is total and transitive, so the sorted
paths stand in it (`sort_pairwise`).
-/

set_option autoImplicit false

namespace TokenDesk.Path

theorem precedes_cons_iff {i j : Nat} {a b : String} {as bs : List (Nat × String)} :
    precedes ((i, a) :: as) ((j, b) :: bs) = true ↔
      i < j ∨ i = j ∧ a < b ∨ i = j ∧ a = b ∧ precedes as bs = true := by
  rw [precedes]
  by_cases rank : i = j
  · by_cases same : a = b
    · simp [rank, same]
    · simp [rank, same]
  · simp [rank]

theorem precedes_total (as bs : List (Nat × String)) :
    (precedes as bs || precedes bs as) = true := by
  induction as generalizing bs with
  | nil => rfl
  | cons first as ih =>
    cases bs with
    | nil => rfl
    | cons second bs =>
      obtain ⟨i, a⟩ := first
      obtain ⟨j, b⟩ := second
      rw [Bool.or_eq_true, precedes_cons_iff, precedes_cons_iff]
      have rest := Bool.or_eq_true _ _ ▸ ih bs
      rcases Nat.lt_trichotomy i j with less | rfl | more
      · exact .inl (.inl less)
      · by_cases same : a = b
        · subst same
          rcases rest with left | right
          · exact .inl (.inr (.inr ⟨rfl, rfl, left⟩))
          · exact .inr (.inr (.inr ⟨rfl, rfl, right⟩))
        · by_cases less : a < b
          · exact .inl (.inr (.inl ⟨rfl, less⟩))
          · have below : b < a := by
              by_cases more : b < a
              · exact more
              · exact absurd (String.le_antisymm (String.not_lt.mp more) (String.not_lt.mp less)) same
            exact .inr (.inr (.inl ⟨rfl, below⟩))
      · exact .inr (.inl more)

theorem precedes_trans {as bs cs : List (Nat × String)} (first : precedes as bs = true)
    (second : precedes bs cs = true) : precedes as cs = true := by
  induction as generalizing bs cs with
  | nil => rfl
  | cons a as ih =>
    cases bs with
    | nil => cases first
    | cons b bs =>
      cases cs with
      | nil => cases second
      | cons c cs =>
        obtain ⟨i, a⟩ := a
        obtain ⟨j, b⟩ := b
        obtain ⟨k, c⟩ := c
        rw [precedes_cons_iff] at first second ⊢
        rcases first with less | ⟨rfl, less⟩ | ⟨rfl, rfl, rest⟩
        · rcases second with more | ⟨rfl, -⟩ | ⟨rfl, -⟩
          · exact .inl (Nat.lt_trans less more)
          · exact .inl less
          · exact .inl less
        · rcases second with more | ⟨rfl, more⟩ | ⟨rfl, rfl, -⟩
          · exact .inl more
          · exact .inr (.inl ⟨rfl, String.lt_trans less more⟩)
          · exact .inr (.inl ⟨rfl, less⟩)
        · rcases second with more | ⟨rfl, more⟩ | ⟨rfl, rfl, later⟩
          · exact .inl more
          · exact .inr (.inl ⟨rfl, more⟩)
          · exact .inr (.inr ⟨rfl, rfl, ih rest later⟩)

/-- Sorted paths stand in the order of their components. -/
theorem sort_pairwise (paths : List String) :
    (sort paths).Pairwise fun a b => precedes (components a) (components b) := by
  apply List.pairwise_mergeSort
  · intro a b c
    exact precedes_trans
  · intro a b
    exact precedes_total _ _

end TokenDesk.Path
