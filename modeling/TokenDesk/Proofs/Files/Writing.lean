import TokenDesk.Proofs.Files.Temporary

/-!
# What a write leaves

A write that succeeds leaves exactly the new content at its path and otherwise new directories at most;
a write that fails leaves new directories at most (`writeOn_written`), whatever the disk refuses. Whether
it fails, and how, does not depend on what is written (`writeOn_other`).

A failing write leaves what can be read at its path (`content?_of_writeOn_error`), with one exception: a
path that goes up again behind a directory that is missing leads nowhere before and perhaps to a file when
a disk has made that directory and refuses the rest. So such a path asks for a willing disk (`Harmless`).
-/

set_option autoImplicit false

namespace TokenDesk.Files

open TokenDesk.Text
open TokenDesk.Path (isIdle Above)

variable {f g : Files} {path : String} {at_ : Location} {bytes : Octets} {disk : Disk}

/-! ## Writing -/

/-- What a write may leave. -/
inductive Written (f : Files) (path : String) (bytes : Octets) : Effect Unit → Prop
  | failed {g : Files} (e : OsError) (grown : f.Grown g) : Written f path bytes (.error e, g)
  | stored {g : Files} {directory : Location} {name : String} (grown : f.Grown g)
      (names : g.Names path directory name)
      (free : g.tree.get? (directory ++ [name]) ≠ some .directory) :
      Written f path bytes
        (.ok (), { g with tree := g.tree.put (directory ++ [name]) (.file bytes) })

/-- Every write stores the content or fails without a trace in any file. -/
theorem writeOn_written (disk : Disk) (f : Files) (path : String) (bytes : Octets) :
    Written f path bytes (f.writeOn disk path bytes) := by
  have staged := writeOn_staged disk f path
  generalize f.writeOn disk path = outcome at staged
  cases staged with
  | barred e levels => exact .failed e (makeDirectories_grown rfl)
  | dropped e made => exact .failed e (makeDirectories_grown made)
  | moved made found =>
    obtain ⟨directory, name, rfl, names, free⟩ := destination_eq_ok_iff.mp found
    exact .stored (makeDirectories_grown made) names free

theorem grown_of_writeOn_error {e : OsError} (failed : f.writeOn disk path bytes = (.error e, g)) :
    f.Grown g := by
  have written := writeOn_written disk f path bytes
  rw [failed] at written
  cases written
  assumption

/-- What is written does not matter for whether a write fails, and how. -/
theorem writeOn_other (disk : Disk) (f : Files) (path : String) (bytes other : Octets) :
    (f.writeOn disk path other).1 = (f.writeOn disk path bytes).1 ∧
      (∀ e, (f.writeOn disk path bytes).1 = .error e →
        f.writeOn disk path other = f.writeOn disk path bytes) := by
  have staged := writeOn_staged disk f path
  generalize f.writeOn disk path = outcome at staged
  cases staged with
  | barred e levels => exact ⟨rfl, fun _ _ => rfl⟩
  | dropped e made => exact ⟨rfl, fun _ _ => rfl⟩
  | moved made found => exact ⟨rfl, fun _ failed => by cases failed⟩

/-- A successful write has made the directories and put the file. -/
theorem stored_of_writeOn (stored : f.writeOn disk path bytes = (.ok (), g)) : ∃ h directory name,
    f.makeDirectories (directoryOf path) = (.ok (), h) ∧ h.Names path directory name ∧
      g = { h with tree := h.tree.put (directory ++ [name]) (.file bytes) } := by
  have staged := writeOn_staged disk f path
  generalize f.writeOn disk path = outcome at staged stored
  cases staged with
  | barred e levels => cases stored
  | dropped e made => cases stored
  | moved made found =>
    cases stored
    obtain ⟨directory, name, rfl, names, -⟩ := destination_eq_ok_iff.mp found
    exact ⟨_, directory, name, made, names, rfl⟩

/-! ## What cannot be read -/

theorem unreadable_of_directory
    (directory : ∀ at_, f.locate path = .ok at_ → f.tree.get? at_ = some .directory)
    (any : Octets) : f.readBytes path ≠ .ok any := by
  intro read
  obtain ⟨at_, found, standing⟩ := readBytes_eq_ok_iff.mp read
  rw [directory at_ found] at standing
  cases standing

/-- Where no file can be moved to, there is none. -/
theorem unreadable_of_destination_error {e : OsError} (sound : f.tree.WellFormed)
    (failed : f.destination path = .error e) (any : Octets) : f.readBytes path ≠ .ok any := by
  apply unreadable_of_directory
  intro at_ reached
  unfold destination at failed
  split at failed
  case h_1 missing => exact absurd reached (locate_of_target_error missing at_)
  case h_2 missing => exact absurd reached (locate_of_target_error missing at_)
  case h_3 place => exact directory_of_target_place sound place reached
  case h_4 slash => exact directory_of_target_slash slash reached
  case h_5 directory name found =>
    split at failed
    case isFalse => cases failed
    case isTrue taken =>
      have standing : f.tree.get? (directory ++ [name]) = some .directory := by
        simpa [FileTree.isDirectoryAt] using taken
      rw [(names_of_target found).locate, standing] at reached
      cases reached
      exact standing

/-- The directory that a file is written in is there if the file is. -/
theorem isDirectory_directoryOf (read : f.readBytes path = .ok bytes) :
    f.isDirectory (directoryOf path) := by
  obtain ⟨at_, found, standing⟩ := readBytes_eq_ok_iff.mp read
  obtain ⟨allowed, way⟩ := locate_eq_ok_iff.mp found
  have begins := FileTree.directory_of_follow (Path.pieces_ne_nil path) way
  have named : path ≠ "" := by
    rintro rfl
    simp [refusal?] at allowed
  -- A relative path without a directory in its text begins in the working directory.
  have here (relative : Path.isAbsolute path = false) : f.isDirectory "." := by
    rw [origin, relative] at begins
    have dot : f.tree.follow f.here ["."] = .ok f.here :=
      FileTree.follow_idle (by simp [isIdle]) begins
    exact isDirectory_iff.mpr ⟨f.here, locate_eq_ok_iff.mpr ⟨by decide, dot⟩, begins⟩
  unfold directoryOf
  cases upward : Path.parent? path with
  | none =>
    cases absolute : Path.isAbsolute path with
    | false => exact here absolute
    | true =>
      have idle : ∀ piece ∈ Path.pieces path, isIdle piece := by
        rw [Path.pieces_parts named, Path.lead_of_isAbsolute absolute]
        simpa [Path.Lead.pieces, isIdle] using Path.idle_of_parent?_eq_none upward
      rw [FileTree.follow_idle idle begins] at way
      cases way
      rw [begins] at standing
      cases standing
  | some parent =>
    by_cases blank : parent = ""
    · subst blank
      cases absolute : Path.isAbsolute path with
      | false => exact here absolute
      | true => exact absurd upward (Path.parent?_ne_blank absolute)
    · have above := Path.parent?_above upward blank
      simpa [blank] using isDirectory_of_above above blank found

/-- Where a write fails on a willing disk, there is no file at its path. -/
theorem unreadable_of_writeOn_error (willing : disk.Willing) (sound : f.tree.WellFormed) {e : OsError}
    (failed : f.writeOn disk path bytes = (.error e, g)) (any : Octets) : g.readBytes path ≠ .ok any := by
  cases made : f.makeDirectories (directoryOf path) with
  | mk result h => cases result with
    | error stop =>
      rw [writeOn, prepare, willing.built, made] at failed
      cases failed
      have absent : ¬g.isDirectory (directoryOf path) :=
        not_isDirectory_of_makeDirectoriesTo (Nat.lt_succ_self _) made
      exact fun read => absent (isDirectory_directoryOf read)
    | ok made' =>
      have prepared : f.prepare disk path = (.ok (), h) := by rw [prepare, willing.built, made]
      rcases writeOn_prepared prepared with ⟨stop, stops⟩ | ⟨place, -, moves⟩
      · rw [stops] at failed
        cases failed
        cases found : g.destination path with
        | error bar =>
          exact unreadable_of_destination_error ((makeDirectories_grown made).tree.sound sound) found any
        | ok place =>
          have moves := writeOn_of_willing willing made found bytes
          rw [stops] at moves
          cases moves
      · rw [moves] at failed
        cases failed

/-! ## Content -/

/-- The content of the file at a path, where there is one. -/
def content? (f : Files) (path : String) : Option Octets :=
  (f.readBytes path).toOption

theorem content?_eq_some_iff : f.content? path = some bytes ↔ f.readBytes path = .ok bytes := by
  unfold content?
  cases f.readBytes path <;> simp [Except.toOption]

theorem content?_eq_none_iff :
    f.content? path = none ↔ ∀ any, f.readBytes path ≠ .ok any := by
  unfold content?
  cases f.readBytes path <;> simp [Except.toOption]

theorem Grown.content?_eq (grown : f.Grown g) (unreadable : ∀ any, g.readBytes path ≠ .ok any) :
    g.content? path = f.content? path := by
  rw [content?_eq_none_iff.mpr unreadable]
  exact (content?_eq_none_iff.mpr fun any read => unreadable any (grown.readBytes read)).symm

/-- On this disk, a failing write to the path does not open a way to a file: the disk refuses nothing that
the files allow, or the path does not go up. -/
def Disk.Harmless (disk : Disk) (path : String) : Prop :=
  disk.Willing ∨ ".." ∉ Path.pieces path

/-- Growth opens no way to a file but one that goes up again. -/
theorem readBytes_of_grown (sound : f.tree.WellFormed) (grown : f.Grown g)
    (downward : ".." ∉ Path.pieces path) (read : g.readBytes path = .ok bytes) :
    f.readBytes path = .ok bytes := by
  obtain ⟨at_, found, standing⟩ := readBytes_eq_ok_iff.mp read
  obtain ⟨allowed, way⟩ := locate_eq_ok_iff.mp found
  have before : f.tree.get? at_ = some (.file bytes) := by
    cases there : f.tree.get? at_ with
    | none =>
      rcases grown.tree.new at_ there with missing | directory
      · rw [missing] at standing
        cases standing
      · rw [directory] at standing
        cases standing
    | some entry => rw [← standing, grown.tree.kept at_ entry there]
  rw [origin_eq grown.here] at way
  exact readBytes_eq_ok_iff.mpr ⟨at_, locate_eq_ok_iff.mpr
    ⟨allowed, FileTree.follow_downward sound downward standing before way⟩, before⟩

/-- A failing write leaves the content at its path. -/
theorem content?_of_writeOn_error {e : OsError} (harmless : disk.Harmless path)
    (sound : f.tree.WellFormed) (failed : f.writeOn disk path bytes = (.error e, g)) :
    g.content? path = f.content? path := by
  have grown := grown_of_writeOn_error failed
  rcases harmless with willing | downward
  · exact grown.content?_eq (unreadable_of_writeOn_error willing sound failed)
  · apply Option.ext
    intro any
    rw [content?_eq_some_iff, content?_eq_some_iff]
    exact ⟨readBytes_of_grown sound grown downward, grown.readBytes⟩

/-- A successful write leaves exactly the new content at its path. -/
theorem content?_of_writeOn_ok (stored : f.writeOn disk path bytes = (.ok (), g)) :
    g.content? path = some bytes := by
  have written := writeOn_written disk f path bytes
  rw [stored] at written
  cases written with
  | @stored h directory name grown names free =>
    have place : directory ++ [name] ≠ [] := by simp
    have above : (h.tree.put (directory ++ [name]) (.file bytes)).get? directory =
        some .directory := by
      rw [FileTree.get?_put_of_ne _ (by simp), names.above]
    have kept : Names { h with tree := h.tree.put (directory ++ [name]) (.file bytes) } path
        directory name :=
      names.kept rfl above (FileTree.follow_put_file place free bytes)
    have standing := FileTree.get?_put_self h.tree place (.file bytes)
    rw [content?_eq_some_iff, readBytes_eq_ok_iff]
    refine ⟨directory ++ [name], ?_, standing⟩
    rw [kept.locate]
    simp only [standing, Option.isSome_some, if_true]

theorem writeOn_wellFormed (sound : f.tree.WellFormed) (disk : Disk) (path : String) (bytes : Octets) :
    (f.writeOn disk path bytes).2.tree.WellFormed := by
  have written := writeOn_written disk f path bytes
  generalize f.writeOn disk path bytes = result at written
  cases written with
  | failed e grown => exact grown.tree.sound sound
  | stored grown names free => exact (grown.tree.sound sound).put names.above (.inr free)

end TokenDesk.Files
