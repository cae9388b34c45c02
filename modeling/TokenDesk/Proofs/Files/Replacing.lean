import Mathlib.Data.List.Infix
import TokenDesk.Proofs.Files.Making

/-!
# Files replaced as a whole

Whatever the disk refuses, a write ends in one of two ways: the file at its path holds exactly the new
content, or every file is as it was. Beside that it has made directories above its path that were missing,
and nothing else (`writeOn_whole_or_undone`).

What a write makes is above its path (`isParent_of_made`), so every place but that of the file is spared
(`spared_of_made`). Which of the two ends it takes is settled by the file's destination behind the new
directories (`moved_or_undone`), and where no file is in the way there is one (`exists_makeDirectories`).
-/

set_option autoImplicit false

namespace TokenDesk.Files

open TokenDesk.Text
open TokenDesk.Path (Above IsName)

variable {f g h : Files} {path upper name : String} {at_ place start : Location} {bytes : Octets}
  {names : List String}

/-! ## Directories above a path -/

/-- A path above another one leads to the place. -/
def IsParent (f : Files) (path : String) (at_ : Location) : Prop :=
  ∃ upper, upper ≠ "" ∧ Above upper path ∧ f.locate upper = .ok at_

/-- What is new stands where a path or one above it leads. -/
def MadeOnWay (f g : Files) (path : String) : Prop :=
  ∀ at_, f.tree.get? at_ = none → (g.tree.get? at_).isSome → g.locate path = .ok at_ ∨ g.IsParent path at_

theorem MadeOnWay.refl (f : Files) (path : String) : f.MadeOnWay f path := by
  intro at_ absent there
  simp [absent] at there

theorem MadeOnWay.trans (first : f.MadeOnWay g path) (grown : g.Grown h) (second : g.MadeOnWay h path) :
    f.MadeOnWay h path := by
  intro at_ absent there
  by_cases between : (g.tree.get? at_).isSome
  · rcases first at_ absent between with found | ⟨upper, named, above, found⟩
    · exact .inl (grown.locate found)
    · exact .inr ⟨upper, named, above, grown.locate found⟩
  · exact second at_ (by simpa using between) there

/-- What stands on the way to the path above stands on the way to the path. -/
theorem MadeOnWay.below (made : f.MadeOnWay g upper) (named : upper ≠ "") (above : Above upper path) :
    f.MadeOnWay g path := by
  intro at_ absent there
  rcases made at_ absent there with found | ⟨outer, named', above', found⟩
  · exact .inr ⟨upper, named, above, found⟩
  · exact .inr ⟨outer, named', above'.trans above, found⟩

theorem makeDirectory_onWay (made : f.makeDirectory path = .ok g) : f.MadeOnWay g path := by
  obtain ⟨directory, name, -, rfl, found⟩ := locate_of_makeDirectory made
  intro at_ absent there
  by_cases same : at_ = directory ++ [name]
  · rw [same]
    exact .inl found
  · rw [FileTree.get?_put_of_ne _ same, absent] at there
    cases there

theorem ensureDirectory_onWay (f : Files) (path : String) :
    f.MadeOnWay (f.ensureDirectory path).2 path := by
  unfold ensureDirectory
  split
  case h_1 made => exact makeDirectory_onWay made
  case h_2 => exact .refl f path

theorem makeDirectoriesTo_onWay (depth : Nat) (f : Files) (path : String) :
    f.MadeOnWay (makeDirectoriesTo depth f path).2 path := by
  induction depth generalizing path with
  | zero => exact .refl f path
  | succ depth ih =>
    unfold makeDirectoriesTo
    split
    · exact .refl f path
    · split
      case h_1 made => exact makeDirectory_onWay made
      case h_2 =>
        split
        · exact .refl f path
        case h_2 parent upward =>
          have upper : f.MadeOnWay (makeDirectoriesTo depth f parent).2 path := by
            by_cases blank : parent = ""
            · -- The empty path stands for the working directory; nothing is made for it.
              have idle : (makeDirectoriesTo depth f parent).2 = f := by
                cases depth <;> simp [makeDirectoriesTo, blank]
              rw [idle]
              exact .refl f path
            · exact (ih parent).below blank (Path.parent?_above upward blank)
          split
          case h_1 made => rwa [made] at upper
          case h_2 g made =>
            rw [made] at upper
            exact upper.trans (ensureDirectory_grown g path) (ensureDirectory_onWay g path)
      case h_3 => exact .refl f path

theorem makeDirectory_here_ne_ok (f g : Files) : f.makeDirectory "." ≠ .ok g := by
  intro made
  unfold makeDirectory at made
  split at made
  · cases made
  · cases made
  case h_3 directory name slash found =>
    obtain ⟨-, -, proper, -, before, blanks, split, -⟩ := target_eq_name found
    have alone : Path.pieces "." = ["."] := by decide
    have member : name ∈ Path.pieces "." := by simp [split]
    rw [alone, List.mem_singleton] at member
    rw [member] at proper
    exact absurd proper.1 (by decide)

/-- The working directory is never made. -/
theorem makeDirectories_here (f : Files) : (f.makeDirectories ".").2 = f := by
  have upward : Path.parent? "." = some "" := by decide
  unfold makeDirectories makeDirectoriesTo
  rw [if_neg (by decide)]
  cases made : f.makeDirectory "." with
  | ok g => exact absurd made (makeDirectory_here_ne_ok f g)
  | error e =>
    have stays : (f.ensureDirectory ".").2 = f := by rw [ensureDirectory, made]
    have blank : makeDirectoriesTo ".".length f "" = (.ok (), f) := rfl
    cases e <;> simp [upward, blank, stays]

theorem above_directoryOf (further : directoryOf path ≠ ".") : Above (directoryOf path) path := by
  unfold directoryOf at further ⊢
  cases upward : Path.parent? path with
  | none => simp [upward] at further
  | some parent =>
    by_cases blank : parent = ""
    · simp [upward, blank] at further
    · simpa [blank] using Path.parent?_above upward blank

theorem above_directoryAbove {levels : Nat} (further : directoryAbove levels path ≠ ".") :
    Above (directoryAbove levels path) path := by
  induction levels with
  | zero => exact above_directoryOf further
  | succ levels ih =>
    have below : directoryAbove levels path ≠ "." := by
      intro here
      have stays : directoryOf "." = "." := by decide
      rw [directoryAbove, here] at further
      exact further stays
    exact (above_directoryOf further).trans (ih below)

theorem directoryAbove_ne_blank (levels : Nat) (path : String) : directoryAbove levels path ≠ "" := by
  cases levels <;> exact directoryOf_ne_blank _

/-- The directories that a write makes are above its path. -/
theorem isParent_of_made (levels : Nat) (absent : f.tree.get? at_ = none)
    (there : ((f.makeDirectories (directoryAbove levels path)).2.tree.get? at_).isSome) :
    (f.makeDirectories (directoryAbove levels path)).2.IsParent path at_ := by
  have named := directoryAbove_ne_blank levels path
  by_cases here : directoryAbove levels path = "."
  · rw [here, makeDirectories_here, absent] at there
    cases there
  · have above := above_directoryAbove here
    rcases makeDirectoriesTo_onWay _ f _ at_ absent there with found | ⟨upper, named', above', found⟩
    · exact ⟨_, named, above, found⟩
    · exact ⟨upper, named', above'.trans above, found⟩

/-! ## What is left elsewhere -/

/-- At a place, files are as they were, or a directory above a path has been made where nothing was. -/
structure Spared (f g : Files) (path : String) (at_ : Location) : Prop where
  kept : ∀ entry, f.tree.get? at_ = some entry → g.tree.get? at_ = some entry
  made : f.tree.get? at_ = none →
    g.tree.get? at_ = none ∨ g.tree.get? at_ = some .directory ∧ g.IsParent path at_

theorem spared_of_made (f : Files) (path : String) (levels : Nat) (at_ : Location) :
    f.Spared (f.makeDirectories (directoryAbove levels path)).2 path at_ := by
  have grown : f.Grown (f.makeDirectories (directoryAbove levels path)).2 := makeDirectories_grown rfl
  refine ⟨grown.tree.kept at_, fun absent => ?_⟩
  rcases grown.tree.new at_ absent with missing | directory
  · exact .inl missing
  · exact .inr ⟨directory, isParent_of_made levels absent (by rw [directory]; rfl)⟩

/-- Where nothing but directories is new, every file is as it was and none is added. -/
theorem Spared.file?_eq (spared : f.Spared g path at_) : g.tree.file? at_ = f.tree.file? at_ := by
  unfold FileTree.file?
  cases found : f.tree.get? at_ with
  | some entry => rw [spared.kept _ found]
  | none =>
    rcases spared.made found with missing | ⟨directory, -⟩
    · rw [missing]
    · rw [directory]

theorem locate_fill (named : place ≠ []) (free : f.tree.get? place ≠ some .directory)
    (found : f.locate path = .ok at_) (bytes : Octets) : (f.fill place bytes).locate path = .ok at_ := by
  obtain ⟨allowed, way⟩ := locate_eq_ok_iff.mp found
  exact locate_eq_ok_iff.mpr ⟨allowed, FileTree.follow_put_file named free bytes way⟩

theorem Spared.fill (spared : f.Spared g path at_) (named : place ≠ [])
    (free : g.tree.get? place ≠ some .directory) (away : at_ ≠ place) (bytes : Octets) :
    f.Spared (g.fill place bytes) path at_ := by
  have same : (g.fill place bytes).tree.get? at_ = g.tree.get? at_ := FileTree.get?_put_of_ne _ away _
  refine ⟨fun entry found => same.trans (spared.kept entry found), fun absent => ?_⟩
  rcases spared.made absent with missing | ⟨directory, upper, some, above, found⟩
  · exact .inl (same.trans missing)
  · exact .inr ⟨same.trans directory, upper, some, above, locate_fill named free found bytes⟩

/-- A moved file stands where its path leads. -/
theorem locate_moved (found : g.destination path = .ok place) (bytes : Octets) :
    (g.fill place bytes).locate path = .ok place ∧
      (g.fill place bytes).tree.get? place = some (.file bytes) := by
  obtain ⟨directory, name, rfl, names, free⟩ := destination_eq_ok_iff.mp found
  have named : directory ++ [name] ≠ [] := by simp
  have standing : (g.fill (directory ++ [name]) bytes).tree.get? (directory ++ [name]) =
      some (.file bytes) := FileTree.get?_put_self g.tree named _
  refine ⟨?_, standing⟩
  rw [(names.fill named free bytes).locate, if_pos (by simp [standing])]

/-! ## Where nothing is in the way -/

/-- Behind a way to a directory, a path goes on by names, and no file stands at one of them but the last. -/
structure Passable (f : Files) (path : String) (start : Location) (names : List String) : Prop where
  allowed : refusal? path = none
  way : ∃ before, Path.pieces path = before ++ names ∧
    f.tree.follow (f.origin path) before = .ok start
  begins : f.tree.get? start = some .directory
  proper : ∀ name ∈ names, (Path.isIdle name = false ∧ name ≠ "..") ∧ name.utf8ByteSize ≤ nameLimit
  clear : ∀ upper, upper <+: names → upper ≠ names → f.tree.file? (start ++ upper) = none

theorem Passable.ne_blank (passable : f.Passable path start names) : path ≠ "" := by
  rintro rfl
  have allowed := passable.allowed
  simp [refusal?] at allowed

theorem Passable.isDirectory (passable : f.Passable path start []) : f.isDirectory path := by
  obtain ⟨before, split, reached⟩ := passable.way
  rw [List.append_nil] at split
  rw [isDirectory_iff]
  exact ⟨start, locate_eq_ok_iff.mpr ⟨passable.allowed, by rwa [split]⟩, passable.begins⟩

theorem Passable.isName (passable : f.Passable path start names) {name : String}
    (member : name ∈ names) : IsName name := by
  obtain ⟨before, split, -⟩ := passable.way
  exact ⟨Path.isPiece_of_mem_pieces path (by simp [split, member]), (passable.proper name member).1⟩

/-- Before the last name, the way is open or something on it is missing. -/
theorem Passable.follow (passable : f.Passable path start (names ++ [name])) :
    f.tree.follow start names = .ok (start ++ names) ∧ f.tree.get? (start ++ names) = some .directory ∨
      f.tree.follow start names = .error .notFound := by
  refine FileTree.follow_passable passable.begins (fun other member => ?_) fun upper within => ?_
  · exact passable.proper other (by simp [member])
  · refine passable.clear upper (within.trans (List.prefix_append _ _)) ?_
    rintro rfl
    have shorter := within.length_le
    rw [List.length_append, List.length_singleton] at shorter
    omega

theorem Passable.toNames (passable : f.Passable path start (names ++ [name]))
    (reached : f.tree.follow start names = .ok (start ++ names))
    (above : f.tree.get? (start ++ names) = some .directory) :
    f.Names path (start ++ names) name := by
  obtain ⟨before, split, begins⟩ := passable.way
  obtain ⟨proper, short⟩ := passable.proper name (by simp)
  refine ⟨passable.allowed, ⟨before ++ names, by rw [split, List.append_assoc], ?_⟩, above, proper, short⟩
  exact FileTree.follow_append_eq_ok.mpr ⟨start, begins, reached⟩

theorem Passable.target (passable : f.Passable path start (names ++ [name]))
    (missing : f.tree.follow start names = .error .notFound) : f.target path = .error .notFound := by
  obtain ⟨before, split, begins⟩ := passable.way
  have notBlank : (name == "") = false := by
    simpa using (passable.isName (by simp : name ∈ names ++ [name])).ne_blank
  have stopped : f.tree.follow (f.origin path) (before ++ names) = .error .notFound := by
    rw [FileTree.follow_append, begins]
    exact missing
  unfold Files.target
  rw [passable.allowed, split, ← List.append_assoc, List.reverse_append]
  dsimp only
  rw [List.reverse_singleton, List.singleton_append, List.dropWhile_cons, notBlank]
  simp only [Bool.false_eq_true, if_false, List.reverse_reverse, stopped]

/-- The directory above goes on by one name less. -/
theorem Passable.above (passable : f.Passable path start (names ++ [upper, name])) :
    ∃ parent, Path.parent? path = some parent ∧ directoryOf path = parent ∧ Above parent path ∧
      f.Passable parent start (names ++ [upper]) := by
  obtain ⟨before, split, begins⟩ := passable.way
  have above := passable.isName (by simp : upper ∈ names ++ [upper, name])
  have named := passable.isName (by simp : name ∈ names ++ [upper, name])
  rw [← List.append_assoc] at split
  obtain ⟨same, pieces, some⟩ := directoryOf_of_names split above named
  have upward := Path.parent?_of_names split above named
  rw [same] at pieces some
  have below := Path.parent?_above upward some
  refine ⟨_, upward, same, below, ?_⟩
  refine ⟨refusal?_of_above below some passable.allowed, ⟨before, by rw [pieces, List.append_assoc], ?_⟩,
    passable.begins, fun other member => ?_, fun outer within different => ?_⟩
  · rwa [origin, ← below.isAbsolute_eq some, ← origin]
  · have among : other ∈ names ++ [upper, name] := by
      rw [List.append_cons]
      exact List.mem_append_left _ member
    exact passable.proper other among
  · have further : outer <+: names ++ [upper, name] := by
      rw [List.append_cons]
      exact within.trans (List.prefix_append _ _)
    refine passable.clear outer further ?_
    rintro rfl
    have shorter := within.length_le
    simp at shorter

/-- Nothing is made where a directory stands. -/
theorem makeDirectoriesTo_of_isDirectory (depth : Nat) (there : f.isDirectory path) :
    makeDirectoriesTo (depth + 1) f path = (.ok (), f) := by
  unfold makeDirectoriesTo
  split
  · rfl
  · split
    case h_1 g made =>
      obtain ⟨directory, name, free, rfl, found⟩ := locate_of_makeDirectory made
      obtain ⟨at_, before, standing⟩ := isDirectory_iff.mp there
      have grown := makeDirectory_grown made
      rw [grown.locate before] at found
      cases found
      rw [free] at standing
      cases standing
    case h_2 missing => exact absurd there (not_isDirectory_of_makeDirectory missing)
    case h_3 => rfl

/-- The names behind a way lead on from where it ends. -/
theorem follow_of_isDirectory (grown : f.Grown g) (passable : f.Passable path start names)
    (there : g.isDirectory path) : g.tree.follow start names = .ok (start ++ names) ∧
      g.tree.get? (start ++ names) = some .directory := by
  obtain ⟨before, split, begins⟩ := passable.way
  obtain ⟨place, found, standing⟩ := isDirectory_iff.mp there
  obtain ⟨-, way⟩ := locate_eq_ok_iff.mp found
  rw [split, origin_eq grown.here] at way
  obtain ⟨middle, first, onward⟩ := FileTree.follow_append_eq_ok.mp way
  rw [grown.tree.follow begins] at first
  cases first
  have same := FileTree.follow_names (fun name member => passable.isName member) onward
  rw [same] at onward standing
  exact ⟨onward, standing⟩

theorem Passable.grown (passable : f.Passable path start names) (grown : f.Grown g) :
    g.Passable path start names := by
  obtain ⟨before, split, begins⟩ := passable.way
  refine ⟨passable.allowed, ⟨before, split, ?_⟩, grown.tree.kept _ _ passable.begins, passable.proper,
    fun upper within different => ?_⟩
  · rw [origin_eq grown.here]
    exact grown.tree.follow begins
  · rw [grown.tree.file?_eq, passable.clear upper within different]

/-- Once the directory above has been made, the last name can be looked up in it. -/
theorem Passable.names_of_made {depth : Nat} (passable : f.Passable path start (names ++ [name]))
    (outer : f.Passable upper start names) (made : makeDirectoriesTo depth f upper = (.ok (), g)) :
    f.Grown g ∧ g.Names path (start ++ names) name := by
  have grown : f.Grown g := by
    have grown := makeDirectoriesTo_grown depth f upper
    rwa [made] at grown
  obtain ⟨reached, above⟩ :=
    follow_of_isDirectory grown outer (isDirectory_of_makeDirectoriesTo outer.ne_blank made)
  exact ⟨grown, (passable.grown grown).toNames reached above⟩

/-- What is new stands at a place on the way that the names lead from a place. -/
def NewAlong (f g : Files) (start : Location) (names : List String) : Prop :=
  ∀ at_, f.tree.get? at_ = none → (g.tree.get? at_).isSome → ∃ upper, upper <+: names ∧ at_ = start ++ upper

theorem NewAlong.refl (f : Files) (start : Location) (names : List String) :
    f.NewAlong f start names := by
  intro at_ absent there
  simp [absent] at there

theorem NewAlong.trans (first : f.NewAlong g start names) (second : g.NewAlong h start names) :
    f.NewAlong h start names := by
  intro at_ absent there
  by_cases between : (g.tree.get? at_).isSome
  · exact first at_ absent between
  · exact second at_ (by simpa using between) there

theorem NewAlong.longer (new : f.NewAlong g start names) (more : List String) :
    f.NewAlong g start (names ++ more) := by
  intro at_ absent there
  obtain ⟨upper, within, same⟩ := new at_ absent there
  exact ⟨upper, within.trans (List.prefix_append _ _), same⟩

/-- In a directory that stands, a directory is made where no file is in the way. -/
theorem exists_ensureDirectory (last : f.Names path (start ++ names) name)
    (nofile : f.tree.file? (start ++ (names ++ [name])) = none) :
    ∃ g, f.ensureDirectory path = (.ok (), g) ∧ f.NewAlong g start (names ++ [name]) := by
  rw [ensureDirectory_of_names last, List.append_assoc]
  cases standing : f.tree.get? (start ++ (names ++ [name])) with
  | none =>
    refine ⟨_, rfl, fun at_ absent there => ⟨_, List.prefix_rfl, ?_⟩⟩
    by_contra different
    simp [FileTree.get?_put_of_ne _ different, absent] at there
  | some entry => cases entry with
    | file bytes => simp [FileTree.file?, standing] at nofile
    | directory => exact ⟨f, rfl, .refl f start _⟩

/-- Where a directory above is missing, those above are made first. -/
theorem makeDirectoriesTo_of_missing {depth : Nat} {parent : String} (named : path ≠ "")
    (missing : f.target path = .error .notFound) (upward : Path.parent? path = some parent)
    (made : makeDirectoriesTo depth f parent = (.ok (), g)) :
    makeDirectoriesTo (depth + 1) f path = g.ensureDirectory path := by
  have failed : f.makeDirectory path = .error .notFound := by rw [makeDirectory, missing]
  rw [makeDirectoriesTo, if_neg (by simpa using named), failed]
  dsimp only
  rw [upward]
  dsimp only
  rw [made]

/-- Where no file is in the way, the missing directories are made, and none but those. -/
theorem exists_makeDirectoriesTo {depth : Nat} (passable : f.Passable path start names)
    (nofile : f.tree.file? (start ++ names) = none) (enough : path.length < depth) :
    ∃ g, makeDirectoriesTo depth f path = (.ok (), g) ∧ f.NewAlong g start names := by
  induction depth generalizing path names with
  | zero => omega
  | succ depth ih =>
    rcases List.eq_nil_or_concat names with rfl | ⟨names, name, rfl⟩
    · exact ⟨f, makeDirectoriesTo_of_isDirectory depth passable.isDirectory, .refl f start []⟩
    rw [List.concat_eq_append] at passable nofile ⊢
    rcases passable.follow with ⟨reached, above⟩ | missing
    · have last := passable.toNames reached above
      rw [makeDirectoriesTo_of_names depth last passable.ne_blank]
      exact exists_ensureDirectory last nofile
    · -- The way of no names is open, so there is a name above, where the directories are made first.
      rcases List.eq_nil_or_concat names with rfl | ⟨names, upper, rfl⟩
      · cases missing
      rw [List.concat_eq_append] at passable nofile missing ⊢
      have stopped := passable.target missing
      obtain ⟨parent, upward, -, below, outer⟩ := Passable.above (by simpa using passable)
      have clear : f.tree.file? (start ++ (names ++ [upper])) = none :=
        passable.clear _ (List.prefix_append _ _) (by simp)
      have shorter := below.length_lt
      obtain ⟨g, made, first⟩ := ih outer clear (by omega)
      obtain ⟨grown, last⟩ := passable.names_of_made outer made
      obtain ⟨h, final, second⟩ := exists_ensureDirectory last (by rw [grown.tree.file?_eq, nofile])
      rw [makeDirectoriesTo_of_missing passable.ne_blank stopped upward made]
      exact ⟨h, final, (first.longer [name]).trans second⟩

theorem isDirectory_of_fill (there : (f.fill at_ bytes).isDirectory path) : f.isDirectory path := by
  obtain ⟨place, found, standing⟩ := isDirectory_iff.mp there
  obtain ⟨allowed, way⟩ := locate_eq_ok_iff.mp found
  have before : f.locate path = .ok place :=
    locate_eq_ok_iff.mpr ⟨allowed, FileTree.follow_of_put_file way standing⟩
  exact isDirectory_iff.mpr ⟨place, before, FileTree.get?_of_put_file standing⟩

/-- A file that can stand at a path is written in a directory that is there. -/
theorem Names.isDirectory_directoryOf {directory : Location} (last : f.Names path directory name)
    (free : f.tree.get? (directory ++ [name]) ≠ some .directory) : f.isDirectory (directoryOf path) := by
  -- With a file at the path, the directory is there, and no file opens the way to a directory.
  have found := locate_moved (destination_eq_ok_iff.mpr ⟨directory, name, rfl, last, free⟩) []
  exact isDirectory_of_fill (Files.isDirectory_directoryOf (readBytes_eq_ok_iff.mpr ⟨_, found⟩))

/-- Where nothing is in the way, the directories above a file are made, and the file can be moved there. -/
theorem exists_makeDirectories (passable : f.Passable path start names)
    (free : f.tree.get? (start ++ names) ≠ some .directory) :
    ∃ g, f.makeDirectories (directoryOf path) = (.ok (), g) ∧
      g.destination path = .ok (start ++ names) := by
  rcases List.eq_nil_or_concat names with rfl | ⟨names, name, rfl⟩
  · rw [List.append_nil] at free
    exact absurd passable.begins free
  rw [List.concat_eq_append] at passable free ⊢
  rcases List.eq_nil_or_concat names with rfl | ⟨names, upper, rfl⟩
  · -- The path is a name in the directory that the way ends in.
    have last : f.Names path start name := by
      simpa using passable.toNames (by simp [FileTree.follow]) (by simpa using passable.begins)
    refine ⟨f, makeDirectoriesTo_of_isDirectory _ (last.isDirectory_directoryOf free), ?_⟩
    exact destination_eq_ok_iff.mpr ⟨start, name, rfl, last, free⟩
  · rw [List.concat_eq_append] at passable free ⊢
    obtain ⟨parent, -, same, -, outer⟩ := Passable.above (by simpa using passable)
    have clear : f.tree.file? (start ++ (names ++ [upper])) = none :=
      passable.clear _ (List.prefix_append _ _) (by simp)
    obtain ⟨g, made, new⟩ := exists_makeDirectoriesTo outer clear (Nat.lt_succ_self _)
    obtain ⟨grown, last⟩ := passable.names_of_made outer made
    refine ⟨g, by rw [same]; exact made, ?_⟩
    rw [← List.append_assoc] at free ⊢
    refine destination_eq_ok_iff.mpr ⟨_, name, rfl, last, fun standing => ?_⟩
    -- Only the directories above are new.
    cases before : f.tree.get? (start ++ (names ++ [upper]) ++ [name]) with
    | none =>
      obtain ⟨shorter, within, same⟩ := new _ before (by rw [standing]; rfl)
      rw [List.append_assoc, List.append_cancel_left_eq] at same
      have length := within.length_le
      simp [← same] at length
    | some entry =>
      rw [grown.tree.kept _ _ before] at standing
      exact free (before.trans standing)

/-! ## Whole or undone -/

/-- The write has stored the file at a place and made directories above it. -/
structure Replaced (f : Files) (path : String) (bytes : Octets) (place : Location)
    (outcome : Effect Unit) : Prop where
  done : outcome.1 = .ok ()
  here : outcome.2.here = f.here
  found : outcome.2.locate path = .ok place
  stored : outcome.2.tree.get? place = some (.file bytes)
  room : f.tree.get? place ≠ some .directory
  files : ∀ at_, at_ ≠ place → outcome.2.tree.file? at_ = f.tree.file? at_
  others : ∀ at_, at_ ≠ place → f.Spared outcome.2 path at_

/-- The write has failed and left nothing but directories above its path. -/
structure Undone (f : Files) (path : String) (outcome : Effect Unit) : Prop where
  failed : ∃ e, outcome.1 = .error e
  here : outcome.2.here = f.here
  files : ∀ at_, outcome.2.tree.file? at_ = f.tree.file? at_
  others : ∀ at_, f.Spared outcome.2 path at_

theorem replaced_of_moved (made : f.makeDirectories (directoryOf path) = (.ok (), g))
    (found : g.destination path = .ok place) (bytes : Octets) :
    f.Replaced path bytes place (.ok (), g.fill place bytes) := by
  obtain ⟨directory, name, same, -, free⟩ := destination_eq_ok_iff.mp found
  have named : place ≠ [] := by simp [same]
  have grown := makeDirectories_grown made
  obtain ⟨leads, stored⟩ := locate_moved found bytes
  have others (at_ : Location) (away : at_ ≠ place) : f.Spared (g.fill place bytes) path at_ := by
    have spared := spared_of_made f path 0 at_
    rw [directoryAbove, made] at spared
    exact spared.fill named free away bytes
  exact ⟨rfl, grown.here, leads, stored, fun standing => free (grown.tree.kept _ _ standing),
    fun at_ away => (others at_ away).file?_eq, others⟩

theorem undone_of_made (f : Files) (path : String) (levels : Nat) (e : OsError) :
    f.Undone path (.error e, (f.makeDirectories (directoryAbove levels path)).2) :=
  ⟨⟨e, rfl⟩, (makeDirectories_grown rfl).here, fun at_ => (spared_of_made f path levels at_).file?_eq,
    spared_of_made f path levels⟩

/-- A write moves the finished file to its path or is undone. -/
theorem moved_or_undone (disk : Disk) (f : Files) (path : String) (bytes : Octets) :
    (∃ g place, f.makeDirectories (directoryOf path) = (.ok (), g) ∧ g.destination path = .ok place ∧
        f.Replaced path bytes place (f.writeOn disk path bytes)) ∨
      f.Undone path (f.writeOn disk path bytes) := by
  have staged := writeOn_staged disk f path
  generalize f.writeOn disk path = outcome at staged
  cases staged with
  | barred e levels => exact .inr (undone_of_made f path levels e)
  | dropped e made =>
    have undone := undone_of_made f path 0 e
    rw [directoryAbove, made] at undone
    exact .inr undone
  | moved made found => exact .inl ⟨_, _, made, found, replaced_of_moved made found bytes⟩

/-- A write is undone where the file cannot be moved to its path. -/
theorem undone_of_immovable (disk : Disk) (bytes : Octets) (immovable : ∀ g place,
    f.Grown g → g.destination path ≠ .ok place) : f.Undone path (f.writeOn disk path bytes) := by
  rcases moved_or_undone disk f path bytes with ⟨g, place, made, found, -⟩ | undone
  · exact absurd found (immovable g place (makeDirectories_grown made))
  · exact undone

/-- No file is moved where a directory stands. -/
theorem not_isDirectory_of_destination (found : f.destination path = .ok place) : ¬f.isDirectory path := by
  intro there
  obtain ⟨directory, name, rfl, names, free⟩ := destination_eq_ok_iff.mp found
  obtain ⟨at_, leads, standing⟩ := isDirectory_iff.mp there
  rw [names.locate] at leads
  split at leads <;> cases leads
  exact free standing

/-- What is above a path that a file is moved to is a directory. -/
theorem isDirectory_above_destination (found : f.destination path = .ok place)
    (above : Above upper path) (named : upper ≠ "") : f.isDirectory upper :=
  isDirectory_of_fill (isDirectory_of_above above named (locate_moved found []).1)

theorem Grown.isDirectory (grown : f.Grown g) (there : f.isDirectory path) : g.isDirectory path := by
  obtain ⟨at_, found, standing⟩ := isDirectory_iff.mp there
  exact isDirectory_iff.mpr ⟨at_, grown.locate found, grown.tree.kept _ _ standing⟩

theorem not_isDirectory_of_readBytes (read : f.readBytes path = .ok bytes) : ¬f.isDirectory path := by
  intro there
  obtain ⟨at_, found, standing⟩ := readBytes_eq_ok_iff.mp read
  obtain ⟨other, leads, directory⟩ := isDirectory_iff.mp there
  rw [found] at leads
  cases leads
  rw [standing] at directory
  cases directory

/-- Whatever the disk refuses, a write replaces the file at its path as a whole or is undone. It is undone
where a directory stands and below a file. A disk that refuses nothing lets it succeed wherever no file is
on the way, however many of the directories above are missing, and also for a mere file name. -/
theorem writeOn_whole_or_undone (disk : Disk) (f : Files) (path : String) (bytes : Octets) :
    ((∃ place, f.Replaced path bytes place (f.writeOn disk path bytes)) ∨
        f.Undone path (f.writeOn disk path bytes)) ∧
      (f.isDirectory path → f.Undone path (f.writeOn disk path bytes)) ∧
      (∀ upper content, Above upper path → f.readBytes upper = .ok content →
        f.Undone path (f.writeOn disk path bytes)) ∧
      (∀ start names, disk.Willing → f.Passable path start names →
        f.tree.get? (start ++ names) ≠ some .directory →
        f.Replaced path bytes (start ++ names) (f.writeOn disk path bytes)) := by
  refine ⟨?_, fun there => ?_, fun upper content above read => ?_,
    fun start names willing passable free => ?_⟩
  · rcases moved_or_undone disk f path bytes with ⟨-, place, -, -, replaced⟩ | undone
    · exact .inl ⟨place, replaced⟩
    · exact .inr undone
  · refine undone_of_immovable disk bytes fun g place grown found => ?_
    exact not_isDirectory_of_destination found (grown.isDirectory there)
  · have named : upper ≠ "" := by
      rintro rfl
      cases read
    refine undone_of_immovable disk bytes fun g place grown found => ?_
    have there := isDirectory_above_destination found above named
    exact not_isDirectory_of_readBytes (grown.readBytes read) there
  · obtain ⟨g, made, found⟩ := exists_makeDirectories passable free
    rw [writeOn_of_willing willing made found]
    exact replaced_of_moved made found bytes

/-- A directory and a file. -/
def smallFiles : Files :=
  ⟨⟨[(["logs"], .directory), (["note"], .file [1])]⟩, []⟩

theorem writeOn_whole_or_undone_small :
    smallFiles.Undone "logs" (smallFiles.writeOn .steady "logs" [2]) ∧
      smallFiles.Undone "note/new" (smallFiles.writeOn .steady "note/new" [2]) ∧
      smallFiles.Replaced "logs/a/b/new" [2] ["logs", "a", "b", "new"]
        (smallFiles.writeOn .steady "logs/a/b/new" [2]) ∧
      smallFiles.Replaced "note" [2] ["note"] (smallFiles.writeOn .steady "note" [2]) := by
  have above : Above "note" "note/new" := ⟨⟨"/new", by decide, by decide⟩, ["note"], [], ["new"],
    by decide, by decide, by decide, by decide⟩
  have nested : smallFiles.Passable "logs/a/b/new" ["logs"] ["a", "b", "new"] := by
    have clear : ∀ upper ∈ ["a", "b", "new"].inits,
        smallFiles.tree.file? (["logs"] ++ upper) = none := by decide
    exact ⟨by decide, ⟨["logs"], by decide, by decide⟩, by decide, by decide,
      fun upper within _ => clear upper ((List.mem_inits _ _).mpr within)⟩
  have bare : smallFiles.Passable "note" [] ["note"] := by
    have clear : ∀ upper ∈ ["note"].inits, upper ≠ ["note"] →
        smallFiles.tree.file? ([] ++ upper) = none := by decide
    exact ⟨by decide, ⟨[], by decide, by decide⟩, by decide, by decide,
      fun upper within => clear upper ((List.mem_inits _ _).mpr within)⟩
  refine ⟨(writeOn_whole_or_undone .steady smallFiles "logs" [2]).2.1 (by decide),
    (writeOn_whole_or_undone .steady smallFiles "note/new" [2]).2.2.1 "note" [1] above (by decide),
    (writeOn_whole_or_undone .steady smallFiles "logs/a/b/new" [2]).2.2.2 ["logs"] ["a", "b", "new"]
      steady_willing nested (by decide),
    (writeOn_whole_or_undone .steady smallFiles "note" [2]).2.2.2 [] ["note"]
      steady_willing bare (by decide)⟩

end TokenDesk.Files
