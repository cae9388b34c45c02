import Mathlib.Data.List.Induction
import Mathlib.Data.String.Basic
import TokenDesk.Proofs.Json.Scan

/-!
# Values with ascending keys

The form of files is stable: sorting a value that is sorted changes nothing (`sorted_sorted`), and what
is said of all numbers in a value, or of its nesting, sorting keeps.
-/

set_option autoImplicit false

namespace TokenDesk.Json

/-! ## Entries under ascending keys -/

/-- Entries under strictly ascending keys. -/
abbrev Ascending (entries : List (String × Json)) : Prop :=
  entries.Pairwise fun a b => a.1 < b.1

theorem mem_insertSorted {key : String} {value : Json} {entries : List (String × Json)}
    {entry : String × Json} (member : entry ∈ insertSorted key value entries) :
    entry = (key, value) ∨ entry ∈ entries := by
  induction entries with
  | nil => simpa [insertSorted] using member
  | cons first entries ih =>
    obtain ⟨k, v⟩ := first
    rw [insertSorted] at member
    split at member
    · simpa using member
    · split at member
      · rcases List.mem_cons.mp member with equal | behind
        · exact .inl equal
        · exact .inr (List.mem_cons_of_mem _ behind)
      · rcases List.mem_cons.mp member with equal | behind
        · exact .inr (by simp [equal])
        · rcases ih behind with equal | old
          · exact .inl equal
          · exact .inr (List.mem_cons_of_mem _ old)

theorem insertSorted_ascending (key : String) (value : Json) {entries : List (String × Json)}
    (ascending : Ascending entries) : Ascending (insertSorted key value entries) := by
  induction entries with
  | nil => simp [insertSorted]
  | cons first entries ih =>
    obtain ⟨k, v⟩ := first
    obtain ⟨below, rest⟩ := List.pairwise_cons.mp ascending
    rw [insertSorted]
    split
    case isTrue less =>
      refine List.pairwise_cons.mpr ⟨?_, ascending⟩
      intro other member
      rcases List.mem_cons.mp member with rfl | behind
      · exact less
      · exact lt_trans less (below other behind)
    case isFalse notLess =>
      split
      case isTrue equal =>
        subst equal
        exact List.pairwise_cons.mpr ⟨below, rest⟩
      case isFalse different =>
        have greater : k < key := lt_of_le_of_ne (not_lt.mp notLess) (Ne.symm different)
        refine List.pairwise_cons.mpr ⟨?_, ih rest⟩
        intro other member
        rcases mem_insertSorted member with rfl | old
        · exact greater
        · exact below other old

/-- A key above all others goes to the end. -/
theorem insertSorted_last {key : String} {entries : List (String × Json)}
    (above : ∀ entry ∈ entries, entry.1 < key) (value : Json) :
    insertSorted key value entries = entries ++ [(key, value)] := by
  induction entries with
  | nil => rfl
  | cons first entries ih =>
    have less : first.1 < key := above first (by simp)
    rw [insertSorted, if_neg (not_lt_of_gt less), if_neg (ne_of_gt less),
      ih fun entry member => above entry (by simp [member]), List.cons_append]

theorem sortEntries_append_singleton (entries : List (String × Json)) (entry : String × Json) :
    sortEntries (entries ++ [entry]) = insertSorted entry.1 entry.2 (sortEntries entries) := by
  simp [sortEntries, List.foldl_append]

theorem mem_of_mem_sortEntries {entries : List (String × Json)} {entry : String × Json}
    (member : entry ∈ sortEntries entries) : entry ∈ entries := by
  induction entries using List.reverseRecOn with
  | nil => simp [sortEntries] at member
  | append_singleton entries last ih =>
    rw [sortEntries_append_singleton] at member
    rcases mem_insertSorted member with equal | old
    · simp [equal]
    · simp [ih old]

theorem mem_insertSorted_self (key : String) (value : Json) (entries : List (String × Json)) :
    (key, value) ∈ insertSorted key value entries := by
  induction entries with
  | nil => simp [insertSorted]
  | cons first entries ih =>
    rw [insertSorted]
    split
    · simp
    · split
      · simp
      · simp [ih]

theorem mem_insertSorted_of_ne {key : String} {value : Json} {entries : List (String × Json)}
    {entry : String × Json} (different : entry.1 ≠ key) (member : entry ∈ entries) :
    entry ∈ insertSorted key value entries := by
  induction entries with
  | nil => cases member
  | cons first entries ih =>
    obtain ⟨k, v⟩ := first
    rw [insertSorted]
    split
    · exact List.mem_cons_of_mem _ member
    · split
      case isTrue same =>
        rcases List.mem_cons.mp member with rfl | behind
        · exact absurd same.symm different
        · exact List.mem_cons_of_mem _ behind
      case isFalse =>
        rcases List.mem_cons.mp member with rfl | behind
        · exact List.mem_cons_self ..
        · exact List.mem_cons_of_mem _ (ih behind)

/-- Where no key is repeated, no entry is lost. -/
theorem mem_sortEntries {entries : List (String × Json)} (distinct : (entries.map Prod.fst).Nodup)
    {entry : String × Json} (member : entry ∈ entries) : entry ∈ sortEntries entries := by
  induction entries using List.reverseRecOn with
  | nil => cases member
  | append_singleton entries last ih =>
    rw [List.map_append, List.map_singleton, List.nodup_append] at distinct
    obtain ⟨before, -, apart⟩ := distinct
    rw [sortEntries_append_singleton]
    rcases List.mem_append.mp member with earlier | here
    · have different := apart entry.1 (List.mem_map_of_mem earlier) last.1 (by simp)
      exact mem_insertSorted_of_ne different (ih before earlier)
    · rw [List.mem_singleton.mp here]
      exact mem_insertSorted_self ..

theorem sortEntries_ascending (entries : List (String × Json)) :
    Ascending (sortEntries entries) := by
  induction entries using List.reverseRecOn with
  | nil => simp [sortEntries]
  | append_singleton entries last ih =>
    rw [sortEntries_append_singleton]
    exact insertSorted_ascending _ _ ih

/-- Entries that ascend already stay as they are. -/
theorem sortEntries_of_ascending {entries : List (String × Json)} (ascending : Ascending entries) :
    sortEntries entries = entries := by
  induction entries using List.reverseRecOn with
  | nil => rfl
  | append_singleton entries last ih =>
    obtain ⟨before, -, below⟩ := List.pairwise_append.mp ascending
    rw [sortEntries_append_singleton, ih before, insertSorted_last]
    exact fun entry member => below entry member last (by simp)

/-! ## Sorted values -/

theorem sortedItems_eq_map (items : List Json) : sortedItems items = items.map sorted := by
  induction items with
  | nil => rfl
  | cons item items ih => rw [sortedItems, ih, List.map_cons]

theorem sortedEntries_eq_map (entries : List (String × Json)) :
    sortedEntries entries = entries.map fun entry => (entry.1, entry.2.sorted) := by
  induction entries with
  | nil => rfl
  | cons entry entries ih => rw [sortedEntries, ih, List.map_cons]

theorem keys_sortedEntries (entries : List (String × Json)) :
    (sortedEntries entries).map Prod.fst = entries.map Prod.fst := by
  rw [sortedEntries_eq_map, List.map_map]
  rfl

theorem sortedEntries_of_fixed {entries : List (String × Json)}
    (fixed : ∀ entry ∈ entries, entry.2.sorted = entry.2) : sortedEntries entries = entries := by
  rw [sortedEntries_eq_map]
  calc
    _ = entries.map id := List.map_congr_left fun entry member => by
      rw [fixed entry member, id]
    _ = entries := List.map_id entries

mutual

/-- Sorting is done once and for all. -/
@[simp] theorem sorted_sorted (v : Json) : v.sorted.sorted = v.sorted := by
  match v with
  | .null | .bool _ | .whole _ | .double _ | .string _ => simp only [sorted]
  | .array items =>
    simp only [sorted, sortedItems_sortedItems]
  | .object entries =>
    have fixed := sorted_of_mem_sortedEntries entries
    simp only [sorted]
    rw [sortedEntries_of_fixed fun entry member => fixed entry (mem_of_mem_sortEntries member),
      sortEntries_of_ascending (sortEntries_ascending _)]

theorem sortedItems_sortedItems (items : List Json) :
    sortedItems (sortedItems items) = sortedItems items := by
  match items with
  | [] => rfl
  | item :: items => simp only [sortedItems, sorted_sorted item, sortedItems_sortedItems items]

theorem sorted_of_mem_sortedEntries (entries : List (String × Json)) :
    ∀ entry ∈ sortedEntries entries, entry.2.sorted = entry.2 := by
  match entries with
  | [] => simp [sortedEntries]
  | (key, value) :: entries =>
    intro entry member
    rw [sortedEntries] at member
    rcases List.mem_cons.mp member with rfl | behind
    · exact sorted_sorted value
    · exact sorted_of_mem_sortedEntries entries entry behind

end

/-! ## What sorting keeps -/

section Numbers

variable {whole : Int → Prop} {double : Double → Prop}

theorem numbersItems_iff {items : List Json} :
    NumbersItems whole double items ↔ ∀ item ∈ items, Numbers whole double item := by
  induction items with
  | nil => simp [NumbersItems]
  | cons item items ih => simp [NumbersItems, ih]

theorem numbersEntries_iff {entries : List (String × Json)} :
    NumbersEntries whole double entries ↔ ∀ entry ∈ entries, Numbers whole double entry.2 := by
  induction entries with
  | nil => simp [NumbersEntries]
  | cons entry entries ih => simp [NumbersEntries, ih]

mutual

theorem Numbers.sorted {v : Json} (all : Numbers whole double v) :
    Numbers whole double v.sorted := by
  match v with
  | .null | .bool _ | .whole _ | .double _ | .string _ => exact all
  | .array items => exact NumbersItems.sorted all
  | .object entries =>
    have kept := numbersEntries_iff.mp (NumbersEntries.sorted all)
    exact numbersEntries_iff.mpr fun entry member => kept entry (mem_of_mem_sortEntries member)

theorem NumbersItems.sorted {items : List Json} (all : NumbersItems whole double items) :
    NumbersItems whole double (sortedItems items) := by
  match items with
  | [] => exact all
  | item :: items => exact ⟨all.1.sorted, NumbersItems.sorted all.2⟩

theorem NumbersEntries.sorted {entries : List (String × Json)}
    (all : NumbersEntries whole double entries) :
    NumbersEntries whole double (sortedEntries entries) := by
  match entries with
  | [] => exact all
  | (key, value) :: entries => exact ⟨all.1.sorted, NumbersEntries.sorted all.2⟩

end

mutual

theorem Numbers.mono {whole' : Int → Prop} {double' : Double → Prop} {v : Json}
    (all : Numbers whole double v) (wholes : ∀ n, whole n → whole' n)
    (doubles : ∀ d, double d → double' d) : Numbers whole' double' v := by
  match v with
  | .null | .bool _ | .string _ => trivial
  | .whole n => exact wholes n all
  | .double d => exact doubles d all
  | .array items => exact NumbersItems.mono all wholes doubles
  | .object entries => exact NumbersEntries.mono all wholes doubles

theorem NumbersItems.mono {whole' : Int → Prop} {double' : Double → Prop} {items : List Json}
    (all : NumbersItems whole double items) (wholes : ∀ n, whole n → whole' n)
    (doubles : ∀ d, double d → double' d) : NumbersItems whole' double' items := by
  match items with
  | [] => trivial
  | item :: items => exact ⟨all.1.mono wholes doubles, NumbersItems.mono all.2 wholes doubles⟩

theorem NumbersEntries.mono {whole' : Int → Prop} {double' : Double → Prop}
    {entries : List (String × Json)} (all : NumbersEntries whole double entries)
    (wholes : ∀ n, whole n → whole' n) (doubles : ∀ d, double d → double' d) :
    NumbersEntries whole' double' entries := by
  match entries with
  | [] => trivial
  | (key, value) :: entries =>
    exact ⟨all.1.mono wholes doubles, NumbersEntries.mono all.2 wholes doubles⟩

end

end Numbers

mutual

/-- How deep arrays and objects nest. -/
def depth : Json → Nat
  | .array items => depthItems items + 1
  | .object entries => depthEntries entries + 1
  | _ => 0

def depthItems : List Json → Nat
  | [] => 0
  | item :: items => max (depth item) (depthItems items)

def depthEntries : List (String × Json) → Nat
  | [] => 0
  | (_, value) :: entries => max (depth value) (depthEntries entries)

end

theorem depthItems_le {items : List Json} {n : Nat} :
    depthItems items ≤ n ↔ ∀ item ∈ items, item.depth ≤ n := by
  induction items with
  | nil => simp [depthItems]
  | cons item items ih => simp [depthItems, ih]

theorem depthEntries_le {entries : List (String × Json)} {n : Nat} :
    depthEntries entries ≤ n ↔ ∀ entry ∈ entries, entry.2.depth ≤ n := by
  induction entries with
  | nil => simp [depthEntries]
  | cons entry entries ih => simp [depthEntries, ih]

mutual

theorem depth_sorted_le (v : Json) : v.sorted.depth ≤ v.depth := by
  match v with
  | .null | .bool _ | .whole _ | .double _ | .string _ => exact Nat.le_refl _
  | .array items => exact Nat.succ_le_succ (depthItems_sorted_le items)
  | .object entries =>
    have kept := depthEntries_le.mp (depthEntries_sorted_le entries)
    exact Nat.succ_le_succ (depthEntries_le.mpr fun entry member =>
      kept entry (mem_of_mem_sortEntries member))

theorem depthItems_sorted_le (items : List Json) :
    depthItems (sortedItems items) ≤ depthItems items := by
  match items with
  | [] => exact Nat.le_refl _
  | item :: items =>
    have head := depth_sorted_le item
    have tail := depthItems_sorted_le items
    simp only [sortedItems, depthItems]
    omega

theorem depthEntries_sorted_le (entries : List (String × Json)) :
    depthEntries (sortedEntries entries) ≤ depthEntries entries := by
  match entries with
  | [] => exact Nat.le_refl _
  | (key, value) :: entries =>
    have head := depth_sorted_le value
    have tail := depthEntries_sorted_le entries
    simp only [sortedEntries, depthEntries]
    omega

end

mutual

/-- No object has a key twice. -/
def Distinct : Json → Prop
  | .array items => DistinctItems items
  | .object entries => (entries.map Prod.fst).Nodup ∧ DistinctEntries entries
  | _ => True

def DistinctItems : List Json → Prop
  | [] => True
  | item :: items => Distinct item ∧ DistinctItems items

def DistinctEntries : List (String × Json) → Prop
  | [] => True
  | (_, value) :: entries => Distinct value ∧ DistinctEntries entries

end

mutual

/-- Sorting takes no nesting away where no key is repeated. -/
theorem Distinct.depth_le_sorted {v : Json} (distinct : v.Distinct) : v.depth ≤ v.sorted.depth := by
  match v with
  | .null | .bool _ | .whole _ | .double _ | .string _ => exact Nat.le_refl _
  | .array items => exact Nat.succ_le_succ (DistinctItems.depth_le_sorted distinct)
  | .object entries =>
    have keys : ((sortedEntries entries).map Prod.fst).Nodup := keys_sortedEntries entries ▸ distinct.1
    have kept : depthEntries (sortedEntries entries) ≤
        depthEntries (sortEntries (sortedEntries entries)) :=
      depthEntries_le.mpr fun entry member =>
        depthEntries_le.mp (Nat.le_refl _) entry (mem_sortEntries keys member)
    exact Nat.succ_le_succ (Nat.le_trans (DistinctEntries.depth_le_sorted distinct.2) kept)

theorem DistinctItems.depth_le_sorted {items : List Json} (distinct : DistinctItems items) :
    depthItems items ≤ depthItems (sortedItems items) := by
  match items with
  | [] => exact Nat.le_refl _
  | item :: items =>
    have head := distinct.1.depth_le_sorted
    have tail := DistinctItems.depth_le_sorted distinct.2
    simp only [sortedItems, depthItems]
    omega

theorem DistinctEntries.depth_le_sorted {entries : List (String × Json)}
    (distinct : DistinctEntries entries) :
    depthEntries entries ≤ depthEntries (sortedEntries entries) := by
  match entries with
  | [] => exact Nat.le_refl _
  | (key, value) :: entries =>
    have head := distinct.1.depth_le_sorted
    have tail := DistinctEntries.depth_le_sorted distinct.2
    simp only [sortedEntries, depthEntries]
    omega

end

theorem distinctEntries_iff {entries : List (String × Json)} :
    DistinctEntries entries ↔ ∀ entry ∈ entries, entry.2.Distinct := by
  induction entries with
  | nil => simp [DistinctEntries]
  | cons entry entries ih => simp [DistinctEntries, ih]

theorem distinctItems_iff {items : List Json} :
    DistinctItems items ↔ ∀ item ∈ items, item.Distinct := by
  induction items with
  | nil => simp [DistinctItems]
  | cons item items ih => simp [DistinctItems, ih]

end TokenDesk.Json
