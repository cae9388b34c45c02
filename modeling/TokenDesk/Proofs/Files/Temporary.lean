import Mathlib.Data.List.Nodup
import TokenDesk.Proofs.Files.Leading
import TokenDesk.Proofs.Text.Written

/-!
# Temporary files

A temporary file stands where nothing stood, so it closes and opens no way but the one to itself. When a
write stops, the temporary file is gone: either nothing but directories has been made, or the file is at its
path, and which of the two does not depend on the bytes (`writeOn_staged`). A disk that refuses nothing
lets every write succeed that the files themselves allow (`writeOn_of_willing`).
-/

set_option autoImplicit false

namespace TokenDesk

open TokenDesk.Text

/-! ## Entries that come and go -/

namespace FileTree

variable {t : FileTree} {at_ place target directory : Location} {name : String} {bytes : Octets}
  {pieces : List String}

theorem put_put (t : FileTree) (at_ : Location) (first second : Entry) :
    (t.put at_ first).put at_ second = t.put at_ second := by
  simp [put, List.filter_filter]

theorem erase_put (t : FileTree) (at_ : Location) (entry : Entry) :
    (t.put at_ entry).erase at_ = t.erase at_ := by
  simp [put, erase, List.filter_filter]

theorem erase_of_free (named : at_ ≠ []) (free : t.get? at_ = none) : t.erase at_ = t := by
  obtain ⟨first, names, rfl⟩ := List.exists_cons_of_ne_nil named
  rw [get?, List.lookup_eq_none_iff] at free
  have away : t.entries.filter (fun other => other.1 != first :: names) = t.entries := by
    rw [List.filter_eq_self]
    intro other member
    have different := free other member
    rw [bne_iff_ne] at different ⊢
    exact different.symm
  rw [erase, away]

/-- A name that no entry holds is free in every directory. -/
theorem get?_of_unused (unused : name ∉ t.entries.flatMap Prod.fst) (directory : Location) :
    t.get? (directory ++ [name]) = none := by
  obtain ⟨first, names, split⟩ := List.exists_cons_of_ne_nil (by simp : directory ++ [name] ≠ [])
  rw [split, get?, List.lookup_eq_none_iff]
  intro entry member
  rw [bne_iff_ne]
  intro same
  exact unused (List.mem_flatMap.mpr ⟨entry, member, by rw [← same, ← split]; simp⟩)

/-! ## Ways past an entry that is put -/

theorem get?_of_put_file (standing : (t.put target (.file bytes)).get? at_ = some .directory) :
    t.get? at_ = some .directory := by
  by_cases root : at_ = []
  · rw [root]
    rfl
  · by_cases same : at_ = target
    · subst same
      rw [get?_put_self t root] at standing
      cases standing
    · rwa [get?_put_of_ne t same] at standing

/-- No way goes on behind a file, so a way to a directory was open before a file was put. -/
theorem follow_of_put_file (found : (t.put target (.file bytes)).follow at_ pieces = .ok place)
    (ends : (t.put target (.file bytes)).get? place = some .directory) :
    t.follow at_ pieces = .ok place := by
  induction pieces generalizing at_ with
  | nil => exact found
  | cons piece pieces ih =>
    obtain ⟨directory, next, step, rest⟩ := follow_cons_eq_ok.mp found
    have standing : (t.put target (.file bytes)).get? next = some .directory := by
      by_cases last : pieces = []
      · subst last
        cases rest
        exact ends
      · exact directory_of_follow last rest
    have kept : t.Steps at_ piece next := step.kept fun _ => by simp [get?_of_put_file standing]
    exact follow_cons_eq_ok.mpr ⟨get?_of_put_file directory, next, kept, ih rest⟩

/-- Where a way leads depends on what kind of entry stands at each place only. -/
theorem follow_congr {u : FileTree}
    (directories : ∀ at_, t.get? at_ = some .directory ↔ u.get? at_ = some .directory)
    (entries : ∀ at_, (t.get? at_).isSome = (u.get? at_).isSome) (at_ : Location)
    (pieces : List String) : t.follow at_ pieces = u.follow at_ pieces := by
  induction pieces generalizing at_ with
  | nil => rfl
  | cons piece pieces ih =>
    have kind := directories at_
    have there := entries at_
    rw [follow, follow, entries (at_ ++ [piece]), ih at_, ih at_.dropLast, ih (at_ ++ [piece])]
    generalize t.get? at_ = first at kind there ⊢
    generalize u.get? at_ = second at kind there ⊢
    rcases first with _ | _ | _ <;> rcases second with _ | _ | _ <;> simp at kind there ⊢

/-- What a file holds does not matter for what kind of entry stands anywhere. -/
theorem directory_put_file_iff (named : target ≠ []) : (t.put target (.file bytes)).get? at_ =
    some .directory ↔ at_ ≠ target ∧ t.get? at_ = some .directory := by
  by_cases same : at_ = target
  · subst same
    simp [get?_put_self t named]
  · simp [get?_put_of_ne t same, same]

theorem isSome_put_file (named : target ≠ []) : ((t.put target (.file bytes)).get? at_).isSome =
    (decide (at_ = target) || (t.get? at_).isSome) := by
  by_cases same : at_ = target
  · subst same
    simp [get?_put_self t named]
  · simp [get?_put_of_ne t same, same]

end FileTree

namespace Files

variable {f g : Files} {path name : String} {temporary place directory : Location}
  {bytes any : Octets}

/-! ## Where a file can be moved to -/

theorem destination_eq_ok_iff : f.destination path = .ok place ↔
    ∃ directory name, place = directory ++ [name] ∧ f.Names path directory name ∧
      f.tree.get? place ≠ some .directory := by
  constructor
  · intro found
    unfold destination at found
    split at found
    case h_5 directory name target =>
      split at found
      · cases found
      case isFalse free =>
        cases found
        exact ⟨directory, name, rfl, names_of_target target, by
          simpa [FileTree.isDirectoryAt] using free⟩
    all_goals cases found
  · rintro ⟨directory, name, rfl, names, free⟩
    unfold destination
    rw [names.target]
    simp [FileTree.isDirectoryAt, free]

theorem Names.fill (names : f.Names path directory name) (named : temporary ≠ [])
    (free : f.tree.get? temporary ≠ some .directory) (bytes : Octets) :
    (f.fill temporary bytes).Names path directory name := by
  refine names.kept rfl ?_ (FileTree.follow_put_file named free bytes)
  have different : directory ≠ temporary := by
    rintro rfl
    exact free names.above
  rw [Files.fill, FileTree.get?_put_of_ne _ different, names.above]

/-- A new file does not get in the way of a move. -/
theorem destination_fill (named : temporary ≠ []) (free : f.tree.get? temporary = none)
    (found : f.destination path = .ok place) : (f.fill temporary bytes).destination path = .ok place := by
  obtain ⟨directory, name, rfl, names, notDirectory⟩ := destination_eq_ok_iff.mp found
  refine destination_eq_ok_iff.mpr ⟨directory, name, rfl, names.fill named (by simp [free]) bytes, ?_⟩
  exact fun standing => notDirectory (FileTree.get?_of_put_file standing)

/-- A new file does not open the way of a move. -/
theorem destination_of_fill (free : f.tree.get? temporary = none)
    (found : (f.fill temporary bytes).destination path = .ok place) : f.destination path = .ok place := by
  obtain ⟨directory, name, rfl, names, notDirectory⟩ := destination_eq_ok_iff.mp found
  obtain ⟨before, split, reached⟩ := names.way
  have way : f.Names path directory name :=
    ⟨names.allowed, ⟨before, split, FileTree.follow_of_put_file reached names.above⟩,
      FileTree.get?_of_put_file names.above, names.proper, names.short⟩
  refine destination_eq_ok_iff.mpr ⟨directory, name, rfl, way, fun standing => notDirectory ?_⟩
  have different : directory ++ [name] ≠ temporary := by
    rintro rfl
    simp [free] at standing
  rw [Files.fill, FileTree.get?_put_of_ne _ different, standing]

/-- What a file holds does not matter for where another one can be moved to. -/
theorem destination_fill_other (named : temporary ≠ []) (path : String) (first second : Octets) :
    (f.fill temporary first).destination path = (f.fill temporary second).destination path := by
  have directories (at_ : Location) : (f.fill temporary first).tree.get? at_ = some .directory ↔
      (f.fill temporary second).tree.get? at_ = some .directory := by
    rw [fill, fill, FileTree.directory_put_file_iff named, FileTree.directory_put_file_iff named]
  have entries (at_ : Location) : ((f.fill temporary first).tree.get? at_).isSome =
      ((f.fill temporary second).tree.get? at_).isSome := by
    rw [fill, fill, FileTree.isSome_put_file named, FileTree.isSome_put_file named]
  have way := FileTree.follow_congr directories entries
  have aims : (f.fill temporary first).target path = (f.fill temporary second).target path := by
    unfold Files.target
    split
    · rfl
    · dsimp only
      split
      · rfl
      case h_2 last before _ =>
        have origin : (f.fill temporary first).origin path = (f.fill temporary second).origin path := rfl
        rw [way, origin]
        cases (f.fill temporary second).tree.follow ((f.fill temporary second).origin path)
            before.reverse with
        | error e => rfl
        | ok directory =>
          have kind := directories directory
          have there := entries directory
          dsimp only
          generalize (f.fill temporary first).tree.get? directory = one at kind there ⊢
          generalize (f.fill temporary second).tree.get? directory = two at kind there ⊢
          rcases one with _ | _ | _ <;> rcases two with _ | _ | _ <;> simp at kind there ⊢
  have taken (at_ : Location) : (f.fill temporary first).tree.isDirectoryAt at_ =
      (f.fill temporary second).tree.isDirectoryAt at_ := by
    rw [Bool.eq_iff_iff]
    simpa [FileTree.isDirectoryAt] using directories at_
  unfold destination
  rw [aims]
  simp only [taken]

/-! ## The course of a write -/

/-- The directories above a file are made as far as the disk allows. -/
theorem prepare_cases (disk : Disk) (f : Files) (path : String) :
    (∃ e levels, f.prepare disk path = (.error e, (f.makeDirectories (directoryAbove levels path)).2)) ∨
      ∃ g, f.makeDirectories (directoryOf path) = (.ok (), g) ∧ f.prepare disk path = (.ok (), g) := by
  unfold prepare
  cases disk.unbuilt? with
  | some refusal => exact .inl ⟨refusal.1, refusal.2 + 1, rfl⟩
  | none =>
    dsimp only
    cases made : f.makeDirectories (directoryOf path) with
    | mk result g => cases result with
      | error e => exact .inl ⟨e, 0, by rw [directoryAbove, made]⟩
      | ok made' => exact .inr ⟨g, rfl, rfl⟩

/-- A temporary file is made where nothing stood, or nothing changes. -/
theorem makeTemporary_cases (disk : Disk) (f : Files) (path : String) :
    (∃ e, f.makeTemporary disk path = (.error e, f)) ∨
      ∃ directory name, f.tree.get? (directory ++ [name]) = none ∧
        f.makeTemporary disk path = (.ok (directory ++ [name]), f.fill (directory ++ [name]) []) := by
  unfold makeTemporary
  split
  case h_1 e _ => exact .inl ⟨e, rfl⟩
  case h_2 directory _ =>
    split
    · exact .inl ⟨_, rfl⟩
    · split
      case h_1 e _ => exact .inl ⟨e, rfl⟩
      case h_2 =>
        split
        · exact .inl ⟨_, rfl⟩
        case h_2 name found =>
          refine .inr ⟨directory, name, ?_, rfl⟩
          simpa using List.find?_some found

theorem fill_fill (f : Files) (at_ : Location) (first second : Octets) :
    (f.fill at_ first).fill at_ second = f.fill at_ second := by
  rw [fill, fill, FileTree.put_put, fill]

/-- A file that has been made is removed without a trace. -/
theorem erase_fill (named : temporary ≠ []) (free : f.tree.get? temporary = none) (bytes : Octets) :
    { f.fill temporary bytes with tree := (f.fill temporary bytes).tree.erase temporary } = f := by
  rw [fill, FileTree.erase_put, FileTree.erase_of_free named free]

/-- A finished file is taken from its temporary place. -/
theorem rename_fill (named : temporary ≠ []) (free : f.tree.get? temporary = none)
    (found : (f.fill temporary bytes).destination path = .ok place) :
    (f.fill temporary bytes).rename temporary path = (.ok (), f.fill place bytes) := by
  have standing : (f.fill temporary bytes).tree.get? temporary = some (.file bytes) :=
    FileTree.get?_put_self f.tree named _
  have gone : (f.fill temporary bytes).tree.erase temporary = f.tree := by
    rw [fill, FileTree.erase_put, FileTree.erase_of_free named free]
  rw [rename, found]
  dsimp only
  rw [standing]
  dsimp only
  rw [gone]
  rfl

/-- Until it is at its path, the file stays where it is being written, whatever bytes these are. -/
theorem finish_cases (disk : Disk) (named : temporary ≠ []) (free : f.tree.get? temporary = none)
    (path : String) :
    (∃ e, ∀ bytes, ∃ part,
        (f.fill temporary []).finish disk temporary path bytes = (.error e, f.fill temporary part)) ∨
      ∃ place, f.destination path = .ok place ∧ ∀ bytes,
        (f.fill temporary []).finish disk temporary path bytes = (.ok (), f.fill place bytes) := by
  unfold finish
  simp only [fill_fill]
  cases disk.unstored? with
  | some refusal => exact .inl ⟨refusal.1, fun bytes => ⟨bytes.take refusal.2, rfl⟩⟩
  | none => cases disk.unkept? with
    | some e => exact .inl ⟨e, fun bytes => ⟨bytes, rfl⟩⟩
    | none =>
      dsimp only
      cases found : (f.fill temporary []).destination path with
      | error e =>
        refine .inl ⟨e, fun bytes => ⟨bytes, ?_⟩⟩
        rw [rename, destination_fill_other named path bytes [], found]
      | ok place =>
        have before := destination_of_fill free found
        exact .inr ⟨place, before, fun bytes => rename_fill named free (destination_fill named free before)⟩

/-- Behind directories that are made, a write moves the file to its path or leaves them as they are. -/
theorem writeOn_prepared {disk : Disk} (prepared : f.prepare disk path = (.ok (), g)) :
    (∃ e, f.writeOn disk path = fun _ => (.error e, g)) ∨
      ∃ place, g.destination path = .ok place ∧
        f.writeOn disk path = fun bytes => (.ok (), g.fill place bytes) := by
  rcases makeTemporary_cases disk g path with ⟨e, refused⟩ | ⟨directory, name, free, temporary⟩
  · refine .inl ⟨e, ?_⟩
    funext bytes
    simp only [writeOn, prepared, refused]
  · have named : directory ++ [name] ≠ [] := by simp
    rcases finish_cases disk named free path with ⟨e, stopped⟩ | ⟨place, found, finished⟩
    · refine .inl ⟨e, ?_⟩
      funext bytes
      obtain ⟨part, stopped⟩ := stopped bytes
      simp only [writeOn, prepared, temporary, stopped]
      exact congrArg (Prod.mk _) (erase_fill named free part)
    · refine .inr ⟨place, found, ?_⟩
      funext bytes
      simp only [writeOn, prepared, temporary, finished]

/-- What is left when a write stops, told for all bytes that may be written. -/
inductive Staged (f : Files) (path : String) : (Octets → Effect Unit) → Prop
  /-- The directories could not all be made. -/
  | barred (e : OsError) (levels : Nat) :
      Staged f path fun _ => (.error e, (f.makeDirectories (directoryAbove levels path)).2)
  /-- A later step failed, after which there is no temporary file. -/
  | dropped {g : Files} (e : OsError) (made : f.makeDirectories (directoryOf path) = (.ok (), g)) :
      Staged f path fun _ => (.error e, g)
  | moved {g : Files} {place : Location}
      (made : f.makeDirectories (directoryOf path) = (.ok (), g))
      (found : g.destination path = .ok place) : Staged f path fun bytes => (.ok (), g.fill place bytes)

theorem writeOn_staged (disk : Disk) (f : Files) (path : String) :
    Staged f path (f.writeOn disk path) := by
  rcases prepare_cases disk f path with ⟨e, levels, refused⟩ | ⟨g, made, prepared⟩
  · have stops : f.writeOn disk path =
        fun _ => (.error e, (f.makeDirectories (directoryAbove levels path)).2) := by
      funext bytes
      rw [writeOn, refused]
    rw [stops]
    exact .barred e levels
  · rcases writeOn_prepared prepared with ⟨e, stops⟩ | ⟨place, found, moves⟩
    · rw [stops]
      exact .dropped e made
    · rw [moves]
      exact .moved made found

/-! ## Disks that refuse nothing -/

/-- A disk on which every write succeeds that the files themselves allow. -/
structure Disk.Willing (disk : Disk) : Prop where
  built : disk.unbuilt? = none
  made : disk.unmade? = none
  stored : disk.unstored? = none
  kept : disk.unkept? = none
  named : ∀ path f directory, ∃ name ∈ disk.names path f, f.tree.get? (directory ++ [name]) = none

theorem temporaryNames_injective : Function.Injective fun n => ".tmp" ++ decimal n := by
  intro m n same
  have chars := congrArg String.toList same
  simp only [String.toList_append, List.append_cancel_left_eq, decimal, String.toList_ofList] at chars
  rw [← natOfDigits_digits m, chars, natOfDigits_digits]

theorem mem_temporaryNames_iff : name ∈ temporaryNames path f ↔
    (∃ n < (takenNames path f).length + 1, ".tmp" ++ decimal n = name) ∧ name ∉ takenNames path f := by
  simp [temporaryNames]

/-- One name more is tried than are taken. -/
theorem exists_mem_temporaryNames (path : String) (f : Files) :
    ∃ name, name ∈ temporaryNames path f := by
  have distinct := (List.nodup_range (n := (takenNames path f).length + 1)).map temporaryNames_injective
  by_contra none
  have within : (List.range ((takenNames path f).length + 1)).map (fun n => ".tmp" ++ decimal n) ⊆
      takenNames path f := by
    intro name member
    by_contra absent
    exact none ⟨name, mem_temporaryNames_iff.mpr ⟨by simpa using member, absent⟩⟩
  have fewer := distinct.length_le_of_subset within
  rw [List.length_map, List.length_range] at fewer
  omega

theorem steady_willing : Disk.steady.Willing := by
  refine ⟨rfl, rfl, rfl, rfl, fun path f directory => ?_⟩
  obtain ⟨name, member⟩ := exists_mem_temporaryNames path f
  have untaken := (mem_temporaryNames_iff.mp member).2
  have unused : name ∉ f.tree.entries.flatMap Prod.fst := fun used =>
    untaken (List.mem_append_right _ used)
  exact ⟨name, member, FileTree.get?_of_unused unused directory⟩

theorem makeTemporary_of_willing {disk : Disk} (willing : disk.Willing)
    (there : f.isDirectory (directoryOf path)) :
    ∃ directory name, f.tree.get? (directory ++ [name]) = none ∧
      f.makeTemporary disk path = (.ok (directory ++ [name]), f.fill (directory ++ [name]) []) := by
  obtain ⟨directory, found, standing⟩ := isDirectory_iff.mp there
  obtain ⟨free, among, untaken⟩ := willing.named path f directory
  have tried : ∃ name, (disk.names path f).find?
      (fun name => (f.tree.get? (directory ++ [name])).isNone) = some name := by
    rw [← Option.isSome_iff_exists, List.find?_isSome]
    exact ⟨free, among, by simp [untaken]⟩
  obtain ⟨name, first⟩ := tried
  refine ⟨directory, name, by simpa using List.find?_some first, ?_⟩
  unfold makeTemporary
  rw [found]
  simp [FileTree.isDirectoryAt, standing, willing.made, first]

theorem isDirectory_directoryOf_made (made : f.makeDirectories (directoryOf path) = (.ok (), g)) :
    g.isDirectory (directoryOf path) :=
  isDirectory_of_makeDirectoriesTo (directoryOf_ne_blank path) made

/-- On a willing disk a write moves the file where it can be moved. -/
theorem writeOn_of_willing {disk : Disk} (willing : disk.Willing)
    (made : f.makeDirectories (directoryOf path) = (.ok (), g)) (found : g.destination path = .ok place)
    (bytes : Octets) : f.writeOn disk path bytes = (.ok (), g.fill place bytes) := by
  obtain ⟨directory, name, free, temporary⟩ :=
    makeTemporary_of_willing willing (isDirectory_directoryOf_made made)
  have named : directory ++ [name] ≠ [] := by simp
  unfold writeOn
  rw [prepare, willing.built]
  dsimp only
  rw [made]
  dsimp only
  rw [temporary]
  dsimp only
  rw [finish, willing.stored, willing.kept]
  dsimp only
  rw [fill_fill, rename_fill named free (destination_fill named free found)]

end Files

end TokenDesk
