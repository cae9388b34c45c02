import Mathlib.Data.List.Nodup
import Mathlib.Data.List.Sort
import TokenDesk.Proofs.Assistant.Editing

/-!
# Insertions at offsets

Pieces are put in from the last offset to the first, so that each offset is still the one it was in the text
before. What comes out is that text with each piece at its offset (`Inserted.insertEach`).
-/

set_option autoImplicit false

namespace TokenDesk.Assistant

open TokenDesk.Text

variable {passed before cs new : List Char} {pieces insertions : List (Nat × String)}

/-- What becomes of `cs`, which `passed` is before, where each piece is put in at its offset and nothing else
is changed. -/
inductive Inserted : List Char → List (Nat × String) → List Char → List Char → Prop
  | done {passed cs : List Char} : Inserted passed [] cs cs
  | next {passed before cs new : List Char} {piece : String} {pieces : List (Nat × String)}
      (later : Inserted (passed ++ before) pieces cs new) :
      Inserted passed ((byteLength (passed ++ before), piece) :: pieces) (before ++ cs)
        (before ++ (piece.toList ++ new))

/-- Text before the first piece may be counted to what is passed. -/
theorem Inserted.behind (inserted : Inserted (passed ++ before) pieces cs new) :
    Inserted passed pieces (before ++ cs) (before ++ new) := by
  cases inserted with
  | done => exact .done
  | @next _ more cs new piece pieces later =>
    rw [List.append_assoc] at later ⊢
    rw [← List.append_assoc before, ← List.append_assoc before]
    exact .next later

theorem insertEach_append {others : List (Nat × String)} (whole : insertEach pieces cs = (new, true)) :
    insertEach (pieces ++ others) cs = insertEach others new := by
  induction pieces generalizing cs with
  | nil =>
    cases whole
    rfl
  | cons first pieces ih =>
    obtain ⟨offset, piece⟩ := first
    rw [insertEach] at whole
    rw [List.cons_append, insertEach]
    split at whole
    case h_1 put => exact ih whole
    case h_2 => cases whole

/-- From the last to the first, all pieces fit. -/
theorem Inserted.insertEach (inserted : Inserted passed pieces cs new) :
    Assistant.insertEach pieces.reverse (passed ++ cs) = (passed ++ new, true) := by
  induction inserted with
  | done => rfl
  | @next passed before cs new piece pieces later ih =>
    rw [List.append_assoc, List.append_assoc] at ih
    rw [List.reverse_cons, insertEach_append ih, Assistant.insertEach, ← List.append_assoc passed,
      insertAt_byteLength]
    simp [Assistant.insertEach]

/-! ## The order of the insertions -/

theorem byFallingOffset_pairwise (insertions : List (Nat × String)) :
    (byFallingOffset insertions).Pairwise fun a b => b.1 ≤ a.1 := by
  have sorted : (byFallingOffset insertions).Pairwise fun a b => decide (b.1 ≤ a.1) = true :=
    List.pairwise_mergeSort (fun a b c => by simp only [decide_eq_true_eq]; omega)
      (fun a b => by simp only [Bool.or_eq_true, decide_eq_true_eq]; omega) insertions
  simpa only [decide_eq_true_eq] using sorted

/-- Rising offsets are taken in the reverse order. -/
theorem byFallingOffset_eq_reverse (ascending : (insertions.map Prod.fst).Pairwise (· < ·)) :
    byFallingOffset insertions = insertions.reverse := by
  have reversed : insertions.reverse.Pairwise fun a b => b.1 ≤ a.1 := by
    rw [List.pairwise_reverse]
    exact (List.pairwise_map.mp ascending).imp Nat.le_of_lt
  have distinct : (insertions.map Prod.fst).Nodup := ascending.imp Nat.ne_of_lt
  have perm : (byFallingOffset insertions).Perm insertions := List.mergeSort_perm _ _
  refine (perm.trans insertions.reverse_perm.symm).eq_of_pairwise (fun a b one two le ge => ?_)
    (byFallingOffset_pairwise insertions) reversed
  exact List.inj_on_of_nodup_map distinct (perm.subset one) (List.mem_reverse.mp two)
    (Nat.le_antisymm ge le)

theorem insertAtOffsets_of_inserted {text : String} (ascending : (pieces.map Prod.fst).Pairwise (· < ·))
    (inserted : Inserted [] pieces text.toList new) :
    insertAtOffsets text pieces = (String.ofList new, true) := by
  unfold insertAtOffsets
  rw [byFallingOffset_eq_reverse ascending, ← List.nil_append text.toList, inserted.insertEach]
  rfl

end TokenDesk.Assistant
