import TokenDesk.Proofs.Json.Order

/-!
# Values of keys

Putting the keys of objects in order moves no value away from its key: what a key has in a sorted value is
the sorted form of what it had before, and of equal keys the last one counts in both (`get?_sorted`).
-/

set_option autoImplicit false

namespace TokenDesk.Json

variable {key : String} {value : Json} {entries : List (String × Json)}

theorem lookup_eq_none (absent : ∀ entry ∈ entries, entry.1 ≠ key) : lookup key entries = none := by
  induction entries with
  | nil => rfl
  | cons entry entries ih =>
    obtain ⟨other, value⟩ := entry
    obtain ⟨different, others⟩ := List.forall_mem_cons.mp absent
    rw [lookup, ih others]
    exact if_neg different

/-- The first of several entries is met only where the others lack its key. -/
theorem lookup_cons (key other : String) (value : Json) (entries : List (String × Json)) :
    lookup key ((other, value) :: entries) =
      (lookup key entries).or (if other = key then some value else none) := by
  rw [lookup]
  cases lookup key entries <;> rfl

theorem lookup_append_singleton (key : String) (entries : List (String × Json))
    (entry : String × Json) :
    lookup key (entries ++ [entry]) =
      if entry.1 = key then some entry.2 else lookup key entries := by
  induction entries with
  | nil =>
    simp [lookup]
  | cons first entries ih =>
    obtain ⟨other, value⟩ := first
    rw [List.cons_append, lookup_cons, ih, lookup_cons]
    split <;> simp

/-- Insertion changes what its key has, and nothing else. -/
theorem lookup_insertSorted (key : String) (value : Json) (ascending : Ascending entries)
    (other : String) :
    lookup other (insertSorted key value entries) =
      if key = other then some value else lookup other entries := by
  induction entries with
  | nil => simp [insertSorted, lookup]
  | cons first entries ih =>
    obtain ⟨k, v⟩ := first
    obtain ⟨below, rest⟩ := List.pairwise_cons.mp ascending
    rw [insertSorted]
    split
    case isTrue less =>
      rw [lookup_cons]
      split
      case isTrue same =>
        subst same
        have absent : ∀ entry ∈ (k, v) :: entries, entry.1 ≠ key := by
          refine List.forall_mem_cons.mpr ⟨ne_of_gt less, fun entry member => ?_⟩
          exact ne_of_gt (lt_trans less (below entry member))
        simp [lookup_eq_none absent]
      case isFalse => simp
    case isFalse =>
      split
      case isTrue equal =>
        subst equal
        rw [lookup_cons, lookup_cons]
        split
        case isTrue same =>
          subst same
          simp [lookup_eq_none fun entry member => ne_of_gt (below entry member)]
        case isFalse => rfl
      case isFalse different =>
        rw [lookup_cons, ih rest, lookup_cons]
        split
        case isTrue same =>
          subst same
          simp
        case isFalse => rfl

theorem lookup_sortEntries (key : String) (entries : List (String × Json)) :
    lookup key (sortEntries entries) = lookup key entries := by
  induction entries using List.reverseRecOn with
  | nil => rfl
  | append_singleton entries last ih =>
    rw [sortEntries_append_singleton, lookup_insertSorted _ _ (sortEntries_ascending entries), ih,
      lookup_append_singleton]

theorem lookup_sortedEntries (key : String) (entries : List (String × Json)) :
    lookup key (sortedEntries entries) = (lookup key entries).map sorted := by
  induction entries with
  | nil => rfl
  | cons entry entries ih =>
    obtain ⟨other, value⟩ := entry
    rw [sortedEntries, lookup_cons, ih, lookup_cons, Option.map_or]
    split <;> rfl

/-- What a key has in a sorted value. -/
theorem get?_sorted (key : String) (v : Json) : v.sorted.get? key = (v.get? key).map sorted := by
  cases v with
  | object entries =>
    rw [sorted, get?, lookup_sortEntries, lookup_sortedEntries]
    rfl
  | null | bool | whole | double | string | array => simp [sorted, get?]

end TokenDesk.Json
