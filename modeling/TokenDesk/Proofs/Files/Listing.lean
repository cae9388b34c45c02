import Mathlib.Data.List.Nodup
import TokenDesk.Proofs.Files.Glob

/-!
# What stands below a directory

Listing a directory at any depth meets everything that stands below it once: each entry whose directory
has a path that can be looked at (`mem_below_iff`, `nodup_below`). As deep as a tree has entries is deep
enough (`WellFormed.length_le`).
-/

set_option autoImplicit false

namespace TokenDesk

open TokenDesk.Text
open TokenDesk.Path (isIdle IsPiece IsName)

/-! ## Names in a directory -/

namespace FileTree

variable {t : FileTree} {at_ : Location} {name : String}

theorem nodup_eraseDups {α : Type} [BEq α] [LawfulBEq α] (items : List α) : items.eraseDups.Nodup := by
  generalize size : items.length = n
  induction n using Nat.strongRecOn generalizing items with
  | ind n ih =>
    cases items with
    | nil => simp
    | cons a items =>
      rw [List.eraseDups_cons, List.nodup_cons]
      constructor
      · simp
      · have shorter := List.length_filter_le (fun b => !b == a) items
        rw [List.length_cons] at size
        exact ih _ (by omega) _ rfl

theorem nodup_names (t : FileTree) (at_ : Location) : (t.names at_).Nodup :=
  (List.mergeSort_perm _ _).nodup_iff.mpr (nodup_eraseDups _)

/-- A name is listed just if something stands there. -/
theorem mem_names_iff : name ∈ t.names at_ ↔ (t.get? (at_ ++ [name])).isSome := by
  constructor
  · intro member
    obtain ⟨e, among, place⟩ := exists_of_mem_names member
    rw [← place]
    exact isSome_of_mem among
  · intro there
    obtain ⟨entry, among⟩ := exists_entry (by simp) there
    rw [FileTree.names, List.mem_mergeSort, List.mem_eraseDups, List.mem_filterMap]
    exact ⟨(at_ ++ [name], entry), among, by simp [nameBelow?]⟩

/-- Everything on the way to a place is an entry of its own, so no place is deeper than the entries are
many. -/
theorem WellFormed.length_le (sound : t.WellFormed) (there : (t.get? at_).isSome) :
    at_.length ≤ t.entries.length := by
  let ways := (List.range at_.length).map fun n => at_.take (n + 1)
  have distinct : ways.Nodup := by
    apply List.Nodup.map_on
    · intro m small n less same
      have lengths := congrArg List.length same
      rw [List.mem_range] at small less
      simp only [List.length_take] at lengths
      omega
    · exact List.nodup_range
  have entries : ways ⊆ t.entries.map Prod.fst := by
    intro way member
    obtain ⟨n, small, rfl⟩ := List.mem_map.mp member
    rw [List.mem_range] at small
    have standing : (t.get? (at_.take (n + 1))).isSome := by
      by_cases last : at_.drop (n + 1) = []
      · rwa [List.take_of_length_le (List.drop_eq_nil_iff.mp last)]
      · rw [← List.take_append_drop (n + 1) at_] at there
        simp [sound.directory_above last there]
    have some : at_.take (n + 1) ≠ [] := by
      apply List.ne_nil_of_length_pos
      rw [List.length_take]
      omega
    obtain ⟨entry, among⟩ := exists_entry some standing
    exact List.mem_map.mpr ⟨_, among, rfl⟩
  simpa [ways] using distinct.length_le_of_subset entries

end FileTree

namespace Files

variable {f : Files} {path p name : String} {at_ place : Location} {names : List String}

/-! ## Paths that can be looked at -/

theorem locate_of_resolve (found : f.resolve path = .ok at_) :
    f.locate path = if pathLimit ≤ path.utf8ByteSize then .error .nameTooLong else .ok at_ := by
  obtain ⟨some, clean, -⟩ := resolve_eq_ok_iff.mp found
  unfold locate refusal?
  by_cases long : pathLimit ≤ path.utf8ByteSize <;> simp [some, clean, long, found]

theorem isDirectory_of_resolve (found : f.resolve path = .ok at_) : f.isDirectory path = true ↔
    path.utf8ByteSize < pathLimit ∧ f.tree.get? at_ = some .directory := by
  unfold isDirectory entry?
  rw [locate_of_resolve found, ← Nat.not_le]
  by_cases long : pathLimit ≤ path.utf8ByteSize <;> simp [long]

theorem exists_of_resolve (found : f.resolve path = .ok at_) : f.exists? path = true ↔
    path.utf8ByteSize < pathLimit ∧ (f.tree.get? at_).isSome := by
  unfold exists? entry?
  rw [locate_of_resolve found, ← Nat.not_le]
  by_cases long : pathLimit ≤ path.utf8ByteSize <;> simp [long]

theorem mem_list_iff (found : f.resolve path = .ok at_) : name ∈ f.list path ↔
    path.utf8ByteSize < pathLimit ∧ f.tree.get? at_ = some .directory ∧
      (f.tree.get? (at_ ++ [name])).isSome := by
  unfold list
  rw [locate_of_resolve found, ← Nat.not_le, ← FileTree.mem_names_iff]
  by_cases long : pathLimit ≤ path.utf8ByteSize
  · simp [long]
  · by_cases standing : f.tree.get? at_ = some .directory <;>
      simp [long, FileTree.isDirectoryAt, standing]

/-- How the path of an entry is written, from the names on the way to it. -/
def spelled (path : String) (names : List String) : String :=
  names.foldl entryPath path

theorem spelled_cons (path name : String) (names : List String) :
    spelled path (name :: names) = spelled (entryPath path name) names := rfl

theorem size_le_entryPath (named : IsName name) :
    path.utf8ByteSize ≤ (entryPath path name).utf8ByteSize := by
  have some : name.utf8ByteSize ≠ 0 := by
    rw [Ne, String.utf8ByteSize_eq_zero_iff]
    exact named.ne_blank
  have here : ".".utf8ByteSize = 1 := by decide
  unfold entryPath Path.join
  split
  case isTrue same =>
    rw [eq_of_beq same, here]
    omega
  case isFalse =>
    rw [named.piece.notAbsolute, Bool.false_or]
    split
    case isTrue blank =>
      rw [eq_of_beq blank]
      exact Nat.zero_le _
    case isFalse => split <;> simp only [String.utf8ByteSize_append] <;> omega

theorem size_le_spelled (each : ∀ name ∈ names, IsName name) :
    path.utf8ByteSize ≤ (spelled path names).utf8ByteSize := by
  induction names generalizing path with
  | nil => exact Nat.le_refl _
  | cons name names ih =>
    rw [spelled_cons]
    exact Nat.le_trans (size_le_entryPath (each name (by simp)))
      (ih fun other member => each other (by simp [member]))

/-! ## Entries below a directory -/

/-- The path of an entry leads to it. -/
theorem resolve_spelled (named : f.tree.Named) (sound : f.tree.WellFormed)
    (from_ : f.resolve path = .ok at_) (there : (f.tree.get? (at_ ++ names)).isSome) :
    f.resolve (spelled path names) = .ok (at_ ++ names) ∧ Extends path (spelled path names) names := by
  induction names generalizing path at_ with
  | nil => exact ⟨by simpa [spelled] using from_, .refl⟩
  | cons name names ih =>
    have directory := sound.directory_above (by simp) there
    rw [List.append_cons] at there ⊢
    have standing : (f.tree.get? (at_ ++ [name])).isSome := by
      by_cases last : names = []
      · simpa [last] using there
      · simp [sound.directory_above last there]
    obtain ⟨-, first, onward, -⟩ := resolve_entry named from_ directory standing
    obtain ⟨found, rest⟩ := ih onward there
    exact ⟨found, first.trans rest⟩

theorem nameOf_spelled (named : f.tree.Named) (sound : f.tree.WellFormed) {upper : List String}
    (from_ : f.resolve path = .ok at_) (there : (f.tree.get? (at_ ++ (upper ++ [name]))).isSome) :
    nameOf (spelled path (upper ++ [name])) = name.toList := by
  obtain ⟨blank, -, -⟩ := resolve_eq_ok_iff.mp from_
  obtain ⟨before, split⟩ := (resolve_spelled named sound from_ there).2.pieces_eq blank
  exact nameOf_of_pieces (named.of_isSome there name (by simp)) split

/-- Something below a directory is met just if it is not too deep and its own directory can be read. -/
theorem mem_below_iff (named : f.tree.Named) (sound : f.tree.WellFormed) {depth : Nat}
    (from_ : f.resolve path = .ok at_) : p ∈ f.below depth path ↔
      ∃ upper name, p = spelled path (upper ++ [name]) ∧ upper.length < depth ∧
        (f.tree.get? (at_ ++ (upper ++ [name]))).isSome ∧
        (spelled path upper).utf8ByteSize < pathLimit := by
  induction depth generalizing path at_ with
  | zero => simp [below]
  | succ depth ih =>
    rw [below, List.mem_flatMap]
    constructor
    · rintro ⟨first, listed, among⟩
      obtain ⟨short, directory, there⟩ := (mem_list_iff from_).mp listed
      obtain ⟨-, -, onward, -⟩ := resolve_entry named from_ directory there
      rcases List.mem_cons.mp among with rfl | deeper
      · exact ⟨[], first, rfl, Nat.succ_pos _, there, short⟩
      · split at deeper
        case isFalse => cases deeper
        case isTrue =>
          obtain ⟨upper, name, rfl, small, standing, readable⟩ := (ih onward).mp deeper
          refine ⟨first :: upper, name, rfl, Nat.succ_lt_succ small, ?_, readable⟩
          simpa using standing
    · rintro ⟨upper, name, rfl, small, there, readable⟩
      have each : ∀ other ∈ at_ ++ (upper ++ [name]), IsName other := named.of_isSome there
      have short : path.utf8ByteSize < pathLimit :=
        Nat.lt_of_le_of_lt (size_le_spelled fun other member => each other (by simp [member])) readable
      have directory := sound.directory_above (by simp) there
      cases upper with
      | nil => exact ⟨name, (mem_list_iff from_).mpr ⟨short, directory, there⟩, List.mem_cons_self⟩
      | cons first upper =>
        have split : at_ ++ (first :: upper ++ [name]) = at_ ++ [first] ++ (upper ++ [name]) := by simp
        rw [split] at there
        have standing := sound.directory_above (by simp) there
        have exists_ : (f.tree.get? (at_ ++ [first])).isSome := by simp [standing]
        obtain ⟨-, -, onward, -⟩ := resolve_entry named from_ directory exists_
        refine ⟨first, (mem_list_iff from_).mpr ⟨short, directory, exists_⟩, List.mem_cons_of_mem _ ?_⟩
        have within : (entryPath path first).utf8ByteSize < pathLimit :=
          Nat.lt_of_le_of_lt (size_le_spelled fun other member => each other (by simp [member])) readable
        rw [if_pos ((isDirectory_of_resolve onward).mpr ⟨within, standing⟩)]
        exact (ih onward).mpr ⟨upper, name, rfl, Nat.lt_of_succ_lt_succ small, there, readable⟩

/-- Nothing is met twice: other names lead to other places. -/
theorem nodup_below (named : f.tree.Named) {depth : Nat} (from_ : f.resolve path = .ok at_) :
    (f.below depth path).Nodup := by
  induction depth generalizing path at_ with
  | zero => exact List.nodup_nil
  | succ depth ih =>
    have first {name : String} (listed : name ∈ f.list path) :
        f.resolve (entryPath path name) = .ok (at_ ++ [name]) :=
      (resolve_listed named from_ listed).2.2.1
    have later {name p : String} (listed : name ∈ f.list path)
        (member : p ∈ if f.isDirectory (entryPath path name) then
          f.below depth (entryPath path name) else []) :
        ∃ rest, rest ≠ [] ∧ f.resolve p = .ok (at_ ++ name :: rest) := by
      obtain ⟨-, among⟩ := List.mem_ite_nil_right.mp member
      obtain ⟨upper, last, -, -, found, -⟩ := mem_below named (first listed) among
      exact ⟨upper ++ [last], by simp, by simpa using found⟩
    have names : (f.list path).Nodup := by
      unfold list
      split
      · split
        · exact FileTree.nodup_names _ _
        · exact List.nodup_nil
      · exact List.nodup_nil
    rw [below, List.nodup_flatMap]
    constructor
    · intro name listed
      refine List.nodup_cons.mpr ⟨?_, ?_⟩
      · intro again
        obtain ⟨rest, more, found⟩ := later listed again
        rw [first listed] at found
        simp [Ne.symm more] at found
      · split
        · exact ih (first listed)
        · exact List.nodup_nil
    · apply List.Pairwise.imp_of_mem _ names
      intro name other listed among different p member within
      have leads {name p : String} (listed : name ∈ f.list path)
          (member : p ∈ entryPath path name :: if f.isDirectory (entryPath path name) then
            f.below depth (entryPath path name) else []) :
          ∃ rest, f.resolve p = .ok (at_ ++ name :: rest) := by
        rcases List.mem_cons.mp member with rfl | deeper
        · exact ⟨[], first listed⟩
        · obtain ⟨rest, -, found⟩ := later listed deeper
          exact ⟨rest, found⟩
      obtain ⟨rest, left⟩ := leads listed member
      obtain ⟨more, right⟩ := leads among within
      rw [left] at right
      simp [different] at right

end Files

end TokenDesk
