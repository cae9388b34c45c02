import TokenDesk.Files.Tree

/-!
# Trees that grow

Two things happen to a tree: it grows by directories (`Grown`), and a file is put where no directory
stands. Neither closes a way through the tree (`follow_kept`), growth leaves every file as it is
(`Grown.file?_eq`), and both keep a directory above everything (`WellFormed`).
-/

set_option autoImplicit false

namespace TokenDesk.FileTree

open TokenDesk.Text

variable {t u v : FileTree} {at_ other : Location} {entry : Entry}

/-! ## Entries -/

@[simp] theorem get?_nil (t : FileTree) : t.get? [] = some .directory := rfl

private theorem lookup_filter_ne (entries : List (Location × Entry)) (different : other ≠ at_) :
    (entries.filter fun e => e.1 != at_).lookup other = entries.lookup other := by
  induction entries with
  | nil => rfl
  | cons first entries ih =>
    obtain ⟨place, entry⟩ := first
    by_cases same : place = at_
    · subst same
      have skipped : (other == place) = false := by simpa using different
      simp [List.lookup_cons, skipped, ih]
    · cases found : other == place <;> simp [List.lookup_cons, same, found, ih]

theorem get?_put_self (t : FileTree) (named : at_ ≠ []) (entry : Entry) :
    (t.put at_ entry).get? at_ = some entry := by
  obtain ⟨name, names, rfl⟩ := List.exists_cons_of_ne_nil named
  simp [get?, put]

theorem get?_put_of_ne (t : FileTree) (different : other ≠ at_) (entry : Entry) :
    (t.put at_ entry).get? other = t.get? other := by
  cases other with
  | nil => rfl
  | cons name names =>
    have skipped : ((name :: names : Location) == at_) = false := by simpa using different
    rw [get?, get?, put, List.lookup_cons, skipped]
    exact lookup_filter_ne t.entries different

/-- A directory stands above whatever stands in the tree. -/
def WellFormed (t : FileTree) : Prop :=
  ∀ at_ name, (t.get? (at_ ++ [name])).isSome → t.get? at_ = some .directory

/-- One level above a directory is a directory, at the root the root itself. -/
theorem WellFormed.directory_dropLast (sound : t.WellFormed)
    (standing : t.get? at_ = some .directory) : t.get? at_.dropLast = some .directory := by
  rcases List.eq_nil_or_concat at_ with rfl | ⟨above, name, rfl⟩
  · rfl
  · rw [List.concat_eq_append] at standing ⊢
    rw [List.dropLast_concat]
    exact sound above name (by simp [standing])

/-- A directory stands wherever a way to something goes on. -/
theorem WellFormed.directory_above (sound : t.WellFormed) {before after : Location}
    (more : after ≠ []) (there : (t.get? (before ++ after)).isSome) :
    t.get? before = some .directory := by
  induction after generalizing before with
  | nil => exact absurd rfl more
  | cons name after ih =>
    rw [List.append_cons] at there
    apply sound before name
    by_cases last : after = []
    · simpa [last] using there
    · simp [ih last there]

/-- It is enough that a directory stands above every entry. -/
theorem wellFormed_of_entries
    (each : ∀ e ∈ t.entries, t.get? e.1.dropLast = some .directory) : t.WellFormed := by
  intro at_ name found
  have named : at_ ++ [name] ≠ [] := by simp
  obtain ⟨first, names, split⟩ := List.exists_cons_of_ne_nil named
  rw [split, get?] at found
  obtain ⟨entry, standing⟩ := Option.isSome_iff_exists.mp found
  obtain ⟨before, after, whole, -⟩ := List.lookup_eq_some_iff.mp standing
  have above := each (first :: names, entry) (by simp [whole])
  rwa [← split, List.dropLast_concat] at above

theorem WellFormed.put (sound : t.WellFormed) {directory : Location} {name : String}
    (above : t.get? directory = some .directory)
    (free : entry = .directory ∨ t.get? (directory ++ [name]) ≠ some .directory) :
    (t.put (directory ++ [name]) entry).WellFormed := by
  have named : directory ++ [name] ≠ [] := by simp
  intro at_ below found
  by_cases upper : at_ = directory ++ [name]
  · -- Something stands below the place, so the place is a directory and stays one.
    subst upper
    have deeper : directory ++ [name] ++ [below] ≠ directory ++ [name] := by simp
    rw [get?_put_of_ne t deeper] at found
    have standing := sound _ _ found
    rcases free with rfl | absent
    · exact get?_put_self t named _
    · exact absurd standing absent
  · rw [get?_put_of_ne t upper]
    by_cases lower : at_ ++ [below] = directory ++ [name]
    · obtain ⟨rfl, -⟩ := List.append_inj' lower rfl
      exact above
    · rw [get?_put_of_ne t lower] at found
      exact sound _ _ found

/-! ## Growth -/

/-- What stood in a tree stands in the grown one; new in it are directories only. -/
structure Grown (t u : FileTree) : Prop where
  kept : ∀ at_ entry, t.get? at_ = some entry → u.get? at_ = some entry
  new : ∀ at_, t.get? at_ = none → u.get? at_ = none ∨ u.get? at_ = some .directory
  sound : t.WellFormed → u.WellFormed

theorem Grown.refl (t : FileTree) : t.Grown t :=
  ⟨fun _ _ found => found, fun _ absent => .inl absent, id⟩

theorem Grown.trans (first : t.Grown u) (second : u.Grown v) : t.Grown v := by
  refine ⟨fun at_ entry found => second.kept _ _ (first.kept _ _ found), fun at_ absent => ?_,
    fun sound => second.sound (first.sound sound)⟩
  rcases first.new at_ absent with missing | made
  · exact second.new at_ missing
  · exact .inr (second.kept _ _ made)

theorem grown_put {directory : Location} {name : String}
    (above : t.get? directory = some .directory) (free : t.get? (directory ++ [name]) = none) :
    t.Grown (t.put (directory ++ [name]) .directory) := by
  refine ⟨fun at_ entry found => ?_, fun at_ absent => ?_, fun sound => sound.put above (.inl rfl)⟩
  · have different : at_ ≠ directory ++ [name] := by
      rintro rfl
      simp [free] at found
    rw [get?_put_of_ne t different, found]
  · by_cases same : at_ = directory ++ [name]
    · subst same
      exact .inr (get?_put_self t (by simp) _)
    · exact .inl (by rw [get?_put_of_ne t same, absent])

/-- Growth touches no file. -/
theorem Grown.file?_eq (grown : t.Grown u) (at_ : Location) : u.file? at_ = t.file? at_ := by
  unfold file?
  cases found : t.get? at_ with
  | some entry => rw [grown.kept _ _ found]
  | none =>
    rcases grown.new _ found with missing | made
    · rw [missing]
    · rw [made]

theorem file?_put_of_ne (t : FileTree) (different : other ≠ at_) (entry : Entry) :
    (t.put at_ entry).file? other = t.file? other := by
  rw [file?, get?_put_of_ne t different, file?]

/-! ## Ways through a tree -/

/-- Where one piece of a path leads from a directory. -/
inductive Steps (t : FileTree) (at_ : Location) (piece : String) : Location → Prop
  | stay (idle : Path.isIdle piece = true) : Steps t at_ piece at_
  | up (dots : piece = "..") : Steps t at_ piece at_.dropLast
  | down (named : Path.isIdle piece = false) (proper : piece ≠ "..") (short : piece.utf8ByteSize ≤ nameLimit)
    (there : (t.get? (at_ ++ [piece])).isSome) : Steps t at_ piece (at_ ++ [piece])

/-- A way goes on from a directory by one step after the other. -/
theorem follow_cons_eq_ok {piece : String} {pieces : List String} {place : Location} :
    t.follow at_ (piece :: pieces) = .ok place ↔ t.get? at_ = some .directory ∧
      ∃ next, t.Steps at_ piece next ∧ t.follow next pieces = .ok place := by
  rw [follow]
  constructor
  · intro found
    split at found
    case h_1 => cases found
    case h_2 => cases found
    case h_3 directory =>
      refine ⟨directory, ?_⟩
      split at found
      case isTrue idle => exact ⟨at_, .stay idle, found⟩
      case isFalse idle =>
        have named : Path.isIdle piece = false := by simpa using idle
        split at found
        case isTrue dots => exact ⟨at_.dropLast, .up (eq_of_beq dots), found⟩
        case isFalse proper =>
          split at found
          case isTrue => cases found
          case isFalse short =>
            split at found
            case isTrue there =>
              exact ⟨at_ ++ [piece], .down named (by simpa using proper) (Nat.not_lt.mp short) there, found⟩
            case isFalse => cases found
  · intro given
    obtain ⟨directory, next, step, rest⟩ := given
    rw [directory]
    cases step with
    | stay idle => simp [idle, rest]
    | up dots =>
      subst dots
      have named : Path.isIdle ".." = false := by decide
      simp [named, rest]
    | down named proper short there => simp [named, proper, Nat.not_lt.mpr short, there, rest]

theorem follow_append (t : FileTree) (at_ : Location) (before after : List String) :
    t.follow at_ (before ++ after) = (t.follow at_ before).bind (t.follow · after) := by
  induction before generalizing at_ with
  | nil => rfl
  | cons piece before ih =>
    rw [List.cons_append, follow, follow]
    split
    · rfl
    · rfl
    · split
      · exact ih _
      · split
        · exact ih _
        · split
          · rfl
          · split
            · exact ih _
            · rfl

theorem follow_append_eq_ok {before after : List String} {place : Location} :
    t.follow at_ (before ++ after) = .ok place ↔
      ∃ there, t.follow at_ before = .ok there ∧ t.follow there after = .ok place := by
  rw [follow_append]
  cases t.follow at_ before with
  | error e => simp [Except.bind]
  | ok there => simp [Except.bind]

/-- A way that goes on begins with a directory. -/
theorem directory_of_follow {pieces : List String} {place : Location} (some : pieces ≠ [])
    (found : t.follow at_ pieces = .ok place) : t.get? at_ = .some .directory := by
  obtain ⟨piece, pieces, rfl⟩ := List.exists_cons_of_ne_nil some
  exact (follow_cons_eq_ok.mp found).1

theorem follow_idle {idle : List String} (each : ∀ piece ∈ idle, Path.isIdle piece)
    (directory : t.get? at_ = some .directory) : t.follow at_ idle = .ok at_ := by
  induction idle with
  | nil => rfl
  | cons piece idle ih =>
    have rest := ih fun other member => each other (by simp [member])
    exact follow_cons_eq_ok.mpr ⟨directory, at_, .stay (each piece (by simp)), rest⟩

/-- A step leads on where the name that it goes down to is still there. -/
theorem Steps.kept {piece : String} {next : Location} (step : t.Steps at_ piece next)
    (entry : (t.get? next).isSome → (u.get? next).isSome) : u.Steps at_ piece next := by
  cases step with
  | stay idle => exact .stay idle
  | up dots => exact .up dots
  | down named proper short there => exact .down named proper short (entry there)

/-- A way stays open while directories stay and nothing disappears. -/
theorem follow_kept (directories : ∀ at_, t.get? at_ = some .directory → u.get? at_ = some .directory)
    (entries : ∀ at_, (t.get? at_).isSome → (u.get? at_).isSome) {pieces : List String}
    {place : Location} (found : t.follow at_ pieces = .ok place) :
    u.follow at_ pieces = .ok place := by
  induction pieces generalizing at_ with
  | nil => exact found
  | cons piece pieces ih =>
    obtain ⟨directory, next, step, rest⟩ := follow_cons_eq_ok.mp found
    exact follow_cons_eq_ok.mpr ⟨directories _ directory, next, step.kept (entries next), ih rest⟩

/-- A way that does not go up ends below its beginning. -/
theorem prefix_of_follow {pieces : List String} {place : Location} (downward : ".." ∉ pieces)
    (found : t.follow at_ pieces = .ok place) : at_ <+: place := by
  induction pieces generalizing at_ with
  | nil =>
    cases found
    exact List.prefix_rfl
  | cons piece pieces ih =>
    obtain ⟨-, next, step, rest⟩ := follow_cons_eq_ok.mp found
    have below := ih (fun member => downward (by simp [member])) rest
    cases step with
    | stay => exact below
    | up dots => exact absurd (by simp [dots]) downward
    | down => exact (List.prefix_append _ _).trans below

/-- What stands in two trees stands behind the same ways in both, as far as these do not go up. -/
theorem follow_downward (sound : u.WellFormed) {pieces : List String} {place : Location} {entry : Entry}
    (downward : ".." ∉ pieces) (standing : t.get? place = some entry)
    (there : u.get? place = some entry) (found : t.follow at_ pieces = .ok place) :
    u.follow at_ pieces = .ok place := by
  induction pieces generalizing at_ with
  | nil => exact found
  | cons piece pieces ih =>
    obtain ⟨directory, next, step, onward⟩ := follow_cons_eq_ok.mp found
    have further : ".." ∉ pieces := fun member => downward (by simp [member])
    -- Whatever the way passes stands above its end, so in the other tree a directory stands there too.
    have above : u.get? at_ = some .directory := by
      obtain ⟨rest, rfl⟩ := prefix_of_follow downward found
      by_cases last : rest = []
      · rw [last, List.append_nil] at standing there
        rw [there, ← standing, directory]
      · exact sound.directory_above last (by rw [there]; rfl)
    have passed : (u.get? next).isSome := by
      obtain ⟨rest, rfl⟩ := prefix_of_follow further onward
      by_cases last : rest = []
      · rw [last, List.append_nil] at there
        simp [there]
      · simp [sound.directory_above last (by rw [there]; rfl)]
    exact follow_cons_eq_ok.mpr ⟨above, next, step.kept fun _ => passed, ih further onward⟩

theorem Grown.follow (grown : t.Grown u) {pieces : List String} {place : Location}
    (found : t.follow at_ pieces = .ok place) : u.follow at_ pieces = .ok place := by
  refine follow_kept (fun at_ => grown.kept at_ _) (fun at_ there => ?_) found
  obtain ⟨entry, standing⟩ := Option.isSome_iff_exists.mp there
  simp [grown.kept _ _ standing]

/-- A file put where no directory stands closes no way. -/
theorem follow_put_file {target : Location} (named : target ≠ [])
    (free : t.get? target ≠ some .directory) (bytes : Octets) {pieces : List String}
    {place : Location} (found : t.follow at_ pieces = .ok place) :
    (t.put target (.file bytes)).follow at_ pieces = .ok place := by
  refine follow_kept (fun at_ directory => ?_) (fun at_ there => ?_) found
  · have different : at_ ≠ target := by
      rintro rfl
      exact free directory
    rw [get?_put_of_ne t different, directory]
  · by_cases same : at_ = target
    · subst same
      simp [get?_put_self t named]
    · rwa [get?_put_of_ne t same]

/-- Names lead from a directory through directories, or to where one of them is missing. -/
theorem follow_passable {names : List String} (begins : t.get? at_ = some .directory)
    (proper : ∀ name ∈ names, (Path.isIdle name = false ∧ name ≠ "..") ∧ name.utf8ByteSize ≤ nameLimit)
    (clear : ∀ upper, upper <+: names → t.file? (at_ ++ upper) = none) :
    t.follow at_ names = .ok (at_ ++ names) ∧ t.get? (at_ ++ names) = some .directory ∨
      t.follow at_ names = .error .notFound := by
  induction names generalizing at_ with
  | nil => simp [follow, begins]
  | cons name names ih =>
    obtain ⟨⟨idle, up⟩, short⟩ := proper name (by simp)
    have first := clear [name] (by simp)
    rw [follow, begins]
    dsimp only
    rw [if_neg (by simp [idle]), if_neg (by simp [up]), if_neg (Nat.not_lt.mpr short)]
    cases standing : t.get? (at_ ++ [name]) with
    | none => simp
    | some entry => cases entry with
      | file bytes => simp [file?, standing] at first
      | directory =>
        have rest := ih standing (fun other member => proper other (by simp [member])) fun upper within => by
          have further := clear (name :: upper) (by simpa using within)
          rwa [List.append_cons] at further
        simpa using rest

end TokenDesk.FileTree
