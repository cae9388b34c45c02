import TokenDesk.Files.Writing
import TokenDesk.Proofs.Files.Path
import TokenDesk.Proofs.Files.Tree

/-!
# Where paths lead

What a path names is a name in an existing directory or a place that stands already (`names_of_target`,
`directory_of_target_place`). Directories are above whatever a path leads to (`isDirectory_of_above`), and
making them adds nothing else (`makeDirectoriesTo_grown`).
-/

set_option autoImplicit false

namespace TokenDesk.Files

open TokenDesk.Text
open TokenDesk.Path (isIdle Above)

variable {f g h : Files} {path : String} {at_ : Location} {bytes : Octets} {result : Except OsError Unit}

/-! ## Looking at a path -/

theorem resolve_eq_ok_iff : f.resolve path = .ok at_ ↔ path ≠ "" ∧ hasZero path = false ∧
    f.tree.follow (f.origin path) (Path.pieces path) = .ok at_ := by
  unfold resolve
  by_cases blank : path = ""
  · simp [blank]
  · cases zero : hasZero path <;> simp [blank]

theorem locate_eq_ok_iff : f.locate path = .ok at_ ↔
    refusal? path = none ∧ f.tree.follow (f.origin path) (Path.pieces path) = .ok at_ := by
  unfold locate
  cases refused : refusal? path with
  | some e => simp
  | none =>
    have named : ¬path == "" := by
      intro blank
      simp [refusal?, blank] at refused
    have legal : ¬hasZero path := by
      intro zero
      simp [refusal?, named, zero] at refused
    simp [resolve, named, legal]

theorem readBytes_eq_ok_iff : f.readBytes path = .ok bytes ↔
    ∃ at_, f.locate path = .ok at_ ∧ f.tree.get? at_ = some (.file bytes) := by
  unfold readBytes
  cases f.locate path with
  | error e => simp
  | ok at_ => cases found : f.tree.get? at_ with
    | none => simp [found]
    | some entry => cases entry <;> simp [found]

theorem isDirectory_iff : f.isDirectory path ↔
    ∃ at_, f.locate path = .ok at_ ∧ f.tree.get? at_ = some .directory := by
  unfold isDirectory entry?
  cases f.locate path with
  | error e => simp
  | ok at_ => simp

/-- The files with a tree that has grown. -/
structure Grown (f g : Files) : Prop where
  here : g.here = f.here
  tree : f.tree.Grown g.tree

theorem Grown.refl (f : Files) : f.Grown f :=
  ⟨rfl, .refl _⟩

theorem Grown.trans (first : f.Grown g) (second : g.Grown h) : f.Grown h :=
  ⟨second.here.trans first.here, first.tree.trans second.tree⟩

theorem origin_eq (same : g.here = f.here) (path : String) : g.origin path = f.origin path := by
  rw [origin, origin, same]

theorem Grown.locate (grown : f.Grown g) (found : f.locate path = .ok at_) :
    g.locate path = .ok at_ := by
  rw [locate_eq_ok_iff] at found ⊢
  rw [origin_eq grown.here]
  exact ⟨found.1, grown.tree.follow found.2⟩

theorem Grown.readBytes (grown : f.Grown g) (read : f.readBytes path = .ok bytes) :
    g.readBytes path = .ok bytes := by
  obtain ⟨at_, found, standing⟩ := readBytes_eq_ok_iff.mp read
  exact readBytes_eq_ok_iff.mpr ⟨at_, grown.locate found, grown.tree.kept _ _ standing⟩

/-! ## The directory above -/

theorem refusal?_of_above {parent : String} (above : Above parent path) (named : parent ≠ "")
    (allowed : refusal? path = none) : refusal? parent = none := by
  obtain ⟨rest, -, rfl⟩ := above.text
  unfold refusal? at allowed ⊢
  split at allowed
  · cases allowed
  · split at allowed
    · cases allowed
    · split at allowed
      · cases allowed
      case isFalse legal short =>
        have clean : hasZero parent = false := by
          simp only [hasZero, String.toList_append] at legal ⊢
          simp only [List.contains_eq_mem, List.mem_append, decide_eq_true_eq, not_or] at legal
          simpa using legal.1
        have shorter : ¬pathLimit ≤ parent.utf8ByteSize := by
          rw [String.utf8ByteSize_append] at short
          omega
        simp [named, clean, shorter]

/-- Above whatever a path leads to stands a directory. -/
theorem isDirectory_of_above {parent : String} (above : Above parent path) (named : parent ≠ "")
    (found : f.locate path = .ok at_) : f.isDirectory parent := by
  obtain ⟨allowed, way⟩ := locate_eq_ok_iff.mp found
  obtain ⟨before, idle, rest, upper, each, some, split⟩ := above.pieces
  have origin : f.origin path = f.origin parent := by
    rw [origin, Files.origin, above.isAbsolute_eq named]
  rw [split, origin] at way
  obtain ⟨there, half, onward⟩ := FileTree.follow_append_eq_ok.mp way
  have standing := FileTree.directory_of_follow some onward
  have reached : f.tree.follow (f.origin parent) (Path.pieces parent) = .ok there := by
    rw [upper]
    exact FileTree.follow_append_eq_ok.mpr ⟨there, half, FileTree.follow_idle each standing⟩
  exact isDirectory_iff.mpr
    ⟨there, locate_eq_ok_iff.mpr ⟨refusal?_of_above above named allowed, reached⟩, standing⟩

/-! ## Where a path leads to -/

/-- The last piece of a path is a name in an existing directory, with no slash behind it. -/
structure Names (f : Files) (path : String) (directory : Location) (name : String) : Prop where
  allowed : refusal? path = none
  way : ∃ before, Path.pieces path = before ++ [name] ∧
    f.tree.follow (f.origin path) before = .ok directory
  above : f.tree.get? directory = some .directory
  proper : isIdle name = false ∧ name ≠ ".."
  short : name.utf8ByteSize ≤ nameLimit

variable {directory : Location} {name : String}

theorem Names.locate (names : f.Names path directory name) : f.locate path =
    if (f.tree.get? (directory ++ [name])).isSome then .ok (directory ++ [name])
    else .error .notFound := by
  obtain ⟨before, split, reached⟩ := names.way
  have last : f.tree.follow directory [name] =
      if (f.tree.get? (directory ++ [name])).isSome then .ok (directory ++ [name])
      else .error .notFound := by
    have short : ¬nameLimit < name.utf8ByteSize := Nat.not_lt.mpr names.short
    simp [FileTree.follow, names.above, names.proper, short]
  have resolved : f.resolve path = f.tree.follow (f.origin path) (Path.pieces path) := by
    have allowed := names.allowed
    unfold refusal? at allowed
    split at allowed
    · cases allowed
    · split at allowed
      · cases allowed
      case isFalse named legal => simp [resolve, named, legal]
  rw [Files.locate, names.allowed]
  dsimp only
  rw [resolved, split, FileTree.follow_append, reached]
  exact last

/-- A name goes on leading to the same place while directories stay and nothing disappears. -/
theorem Names.kept (names : f.Names path directory name) (here : g.here = f.here)
    (above : g.tree.get? directory = some .directory)
    (follow : ∀ {at_ pieces place}, f.tree.follow at_ pieces = .ok place →
      g.tree.follow at_ pieces = .ok place) : g.Names path directory name := by
  obtain ⟨before, split, reached⟩ := names.way
  refine ⟨names.allowed, ⟨before, split, ?_⟩, above, names.proper, names.short⟩
  rw [origin_eq here]
  exact follow reached

theorem Names.grown (names : f.Names path directory name) (grown : f.Grown g) :
    g.Names path directory name :=
  names.kept grown.here (grown.tree.kept _ _ names.above) grown.tree.follow

/-- The pieces of a path up to its last one that is not blank. -/
theorem pieces_of_last {last : String} {before : List String}
    (found : (Path.pieces path).reverse.dropWhile (· == "") = last :: before) :
    ∃ blanks, Path.pieces path = before.reverse ++ last :: blanks ∧ (∀ piece ∈ blanks, piece = "") ∧
      last ≠ "" ∧ ((Path.pieces path).reverse.head? == some "") = !blanks.isEmpty := by
  have whole := List.takeWhile_append_dropWhile (p := (· == "")) (l := (Path.pieces path).reverse)
  have blank : ∀ piece ∈ (Path.pieces path).reverse.takeWhile (· == ""), piece = "" := by
    intro piece member
    simpa using List.all_eq_true.mp List.all_takeWhile piece member
  have notBlank : last ≠ "" := by
    have first := List.head?_dropWhile_not (· == "") (Path.pieces path).reverse
    simpa [found] using first
  rw [found] at whole
  generalize (Path.pieces path).reverse.takeWhile (· == "") = blanks at whole blank
  refine ⟨blanks.reverse, ?_, by simpa using blank, notBlank, ?_⟩
  · have turned := congrArg List.reverse whole.symm
    simpa using turned
  · rw [← whole]
    cases blanks with
    | nil => simpa using notBlank
    | cons piece blanks => simp [blank piece (by simp)]

/-- Beyond a name that is neither a dot nor two dots, the way goes on below the directory. -/
theorem follow_name_eq_ok {t : FileTree} {pieces : List String} (proper : isIdle name = false)
    (down : name ≠ "..") : t.follow directory (name :: pieces) = .ok at_ ↔
      t.get? directory = some .directory ∧ name.utf8ByteSize ≤ nameLimit ∧
        (t.get? (directory ++ [name])).isSome ∧ t.follow (directory ++ [name]) pieces = .ok at_ := by
  rw [FileTree.follow_cons_eq_ok, and_congr_right_iff]
  intro
  constructor
  · intro given
    obtain ⟨next, step, rest⟩ := given
    cases step with
    | stay idle => simp [proper] at idle
    | up dots => exact absurd dots down
    | down named _ short there => exact ⟨short, there, rest⟩
  · intro given
    obtain ⟨short, there, rest⟩ := given
    exact ⟨directory ++ [name], .down proper down short there, rest⟩

/-- Two ways to say that a name is neither a dot nor two dots. -/
theorem proper_of_last {last : String} (notBlank : last ≠ "")
    (dots : ¬(last == "." || last == "..") = true) : isIdle last = false ∧ last ≠ ".." := by
  simp only [Bool.or_eq_true, beq_iff_eq, not_or] at dots
  simp [isIdle, notBlank, dots]

/-- Where the system sees no target, it finds nothing either. -/
theorem locate_of_target_error {e : OsError} (failed : f.target path = .error e) (at_ : Location) :
    f.locate path ≠ .ok at_ := by
  intro found
  obtain ⟨allowed, way⟩ := locate_eq_ok_iff.mp found
  unfold target at failed
  rw [allowed] at failed
  dsimp only at failed
  split at failed
  · cases failed
  case h_2 last before apart =>
    obtain ⟨blanks, split, -, notBlank, -⟩ := pieces_of_last apart
    rw [split] at way
    obtain ⟨there, half, onward⟩ := FileTree.follow_append_eq_ok.mp way
    rw [half] at failed
    dsimp only at failed
    rw [FileTree.directory_of_follow (by simp) onward] at failed
    dsimp only at failed
    split at failed
    · cases failed
    case isFalse dots =>
      have proper := proper_of_last notBlank dots
      have short := ((follow_name_eq_ok proper.1 proper.2).mp onward).2.1
      rw [if_neg (Nat.not_lt.mpr short)] at failed
      cases failed

/-- A dot, two dots and the root lead to directories. -/
theorem directory_of_target_place (sound : f.tree.WellFormed) (place : f.target path = .ok .place)
    (found : f.locate path = .ok at_) : f.tree.get? at_ = some .directory := by
  obtain ⟨allowed, way⟩ := locate_eq_ok_iff.mp found
  unfold target at place
  rw [allowed] at place
  dsimp only at place
  split at place
  case h_1 apart =>
    have whole := List.takeWhile_append_dropWhile (p := (· == "")) (l := (Path.pieces path).reverse)
    rw [apart, List.append_nil] at whole
    have idle : ∀ piece ∈ Path.pieces path, isIdle piece := by
      intro piece member
      rw [← List.mem_reverse, ← whole] at member
      have blank := List.all_eq_true.mp List.all_takeWhile piece member
      simp [isIdle, eq_of_beq blank]
    have standing := FileTree.directory_of_follow (Path.pieces_ne_nil path) way
    rw [FileTree.follow_idle idle standing] at way
    cases way
    exact standing
  case h_2 last before apart =>
    obtain ⟨blanks, split, blank, notBlank, -⟩ := pieces_of_last apart
    have idle : ∀ piece ∈ blanks, isIdle piece := fun piece member => by
      simp [isIdle, blank piece member]
    rw [split] at way
    obtain ⟨there, half, onward⟩ := FileTree.follow_append_eq_ok.mp way
    have standing := FileTree.directory_of_follow (by simp) onward
    rw [half] at place
    dsimp only at place
    rw [standing] at place
    dsimp only at place
    split at place
    case isTrue dots =>
      rw [FileTree.follow, standing] at onward
      dsimp only at onward
      split at onward
      · rw [FileTree.follow_idle idle standing] at onward
        cases onward
        exact standing
      case isFalse notIdle =>
        have notDot : last ≠ "." := fun dot => notIdle (by simp [isIdle, dot])
        have up : last = ".." := by simpa [notDot] using dots
        rw [if_pos (by simp [up])] at onward
        have upper := sound.directory_dropLast standing
        rw [FileTree.follow_idle idle upper] at onward
        cases onward
        exact upper
    case isFalse =>
      split at place <;> cases place

theorem target_eq_name {slash : Bool} (found : f.target path = .ok (.name directory name slash)) :
    refusal? path = none ∧ f.tree.get? directory = some .directory ∧
      (isIdle name = false ∧ name ≠ "..") ∧ name.utf8ByteSize ≤ nameLimit ∧
      ∃ before blanks, Path.pieces path = before ++ name :: blanks ∧
        (∀ piece ∈ blanks, piece = "") ∧ slash = !blanks.isEmpty ∧
        f.tree.follow (f.origin path) before = .ok directory := by
  unfold target at found
  split at found
  · cases found
  case h_2 allowed =>
    dsimp only at found
    split at found
    · cases found
    case h_2 last before apart =>
      obtain ⟨blanks, split, blank, notBlank, behind⟩ := pieces_of_last apart
      split at found
      · cases found
      case h_2 there reached =>
        split at found
        · cases found
        · cases found
        case h_3 above =>
          split at found
          · cases found
          case isFalse dots =>
            split at found
            · cases found
            case isFalse short =>
              cases found
              exact ⟨allowed, above, proper_of_last notBlank dots, Nat.not_lt.mp short,
                _, blanks, split, blank, behind, reached⟩

theorem names_of_target (found : f.target path = .ok (.name directory name false)) :
    f.Names path directory name := by
  obtain ⟨allowed, above, proper, short, before, blanks, split, -, none, reached⟩ :=
    target_eq_name found
  have empty : blanks = [] := by simpa using none.symm
  subst empty
  exact ⟨allowed, ⟨before, split, reached⟩, above, proper, short⟩

theorem Names.target (names : f.Names path directory name) :
    f.target path = .ok (.name directory name false) := by
  obtain ⟨before, split, reached⟩ := names.way
  have proper := names.proper
  simp only [isIdle, Bool.or_eq_false_iff] at proper
  have notBlank : (name == "") = false := proper.1.1
  have notDots : ¬(name == "." || name == "..") = true := by simp [proper]
  have behind : ¬(name :: before.reverse).head? == some "" := by
    simpa using notBlank
  unfold Files.target
  rw [names.allowed, split, List.reverse_append]
  dsimp only
  rw [List.reverse_singleton, List.singleton_append, List.dropWhile_cons, notBlank]
  simp only [Bool.false_eq_true, if_false, List.reverse_reverse, reached, names.above]
  rw [if_neg notDots, if_neg (Nat.not_lt.mpr names.short)]
  simpa using notBlank

/-- A slash behind a name asks for a directory. -/
theorem directory_of_target_slash (name' : f.target path = .ok (.name directory name true))
    (found : f.locate path = .ok at_) : f.tree.get? at_ = some .directory := by
  obtain ⟨-, -, proper, -, before, blanks, split, blank, some, reached⟩ := target_eq_name name'
  obtain ⟨-, way⟩ := locate_eq_ok_iff.mp found
  rw [split] at way
  obtain ⟨there, half, onward⟩ := FileTree.follow_append_eq_ok.mp way
  obtain ⟨-, -, -, last⟩ := (follow_name_eq_ok proper.1 proper.2).mp onward
  have idle : ∀ piece ∈ blanks, isIdle piece := fun piece member => by
    simp [isIdle, blank piece member]
  have nonempty : blanks ≠ [] := by
    rintro rfl
    simp at some
  have standing := FileTree.directory_of_follow nonempty last
  rw [FileTree.follow_idle idle standing] at last
  cases last
  exact standing

/-! ## Making directories -/

theorem makeDirectory_grown (made : f.makeDirectory path = .ok g) : f.Grown g := by
  unfold makeDirectory at made
  split at made
  · cases made
  · cases made
  case h_3 directory name slash found =>
    split at made
    · cases made
    case isFalse free =>
      cases made
      have above := (target_eq_name found).2.1
      have absent : f.tree.get? (directory ++ [name]) = none := by simpa using free
      exact ⟨rfl, FileTree.grown_put above absent⟩

/-- A directory that has been made stands where its path leads. -/
theorem locate_of_makeDirectory (made : f.makeDirectory path = .ok g) : ∃ directory name,
    f.tree.get? (directory ++ [name]) = none ∧
      g = { f with tree := f.tree.put (directory ++ [name]) .directory } ∧
      g.locate path = .ok (directory ++ [name]) := by
  have grown := makeDirectory_grown made
  unfold makeDirectory at made
  split at made
  · cases made
  · cases made
  case h_3 directory name slash found =>
    split at made
    · cases made
    case isFalse free =>
      cases made
      obtain ⟨allowed, above, proper, short, before, blanks, split, blank, -, reached⟩ :=
        target_eq_name found
      have standing := FileTree.get?_put_self f.tree (by simp : directory ++ [name] ≠ []) .directory
      have idle : ∀ piece ∈ blanks, isIdle piece := fun piece member => by
        simp [isIdle, blank piece member]
      refine ⟨directory, name, by simpa using free, rfl, locate_eq_ok_iff.mpr ⟨allowed, ?_⟩⟩
      rw [split, FileTree.follow_append_eq_ok]
      refine ⟨directory, grown.tree.follow reached, ?_⟩
      rw [follow_name_eq_ok proper.1 proper.2]
      exact ⟨grown.tree.kept _ _ above, short, by simp [standing],
        FileTree.follow_idle idle standing⟩

theorem isDirectory_of_makeDirectory (made : f.makeDirectory path = .ok g) : g.isDirectory path := by
  obtain ⟨directory, name, -, rfl, found⟩ := locate_of_makeDirectory made
  exact isDirectory_iff.mpr ⟨_, found, FileTree.get?_put_self f.tree (by simp) .directory⟩

theorem not_isDirectory_of_makeDirectory (failed : f.makeDirectory path = .error .notFound) :
    ¬f.isDirectory path := by
  intro directory
  obtain ⟨place, found, -⟩ := isDirectory_iff.mp directory
  unfold makeDirectory at failed
  split at failed
  case h_1 missing => exact locate_of_target_error missing place found
  · cases failed
  · split at failed <;> cases failed

theorem ensureDirectory_grown (f : Files) (path : String) :
    f.Grown (f.ensureDirectory path).2 := by
  unfold ensureDirectory
  split
  case h_1 made => exact makeDirectory_grown made
  case h_2 => exact .refl f

theorem isDirectory_of_ensureDirectory (made : f.ensureDirectory path = (.ok (), g)) :
    g.isDirectory path := by
  unfold ensureDirectory at made
  split at made
  case h_1 directory =>
    cases made
    exact isDirectory_of_makeDirectory directory
  case h_2 =>
    split at made <;> cases made
    assumption

theorem isDirectory_of_makeDirectoriesTo {depth : Nat} (named : path ≠ "")
    (made : makeDirectoriesTo depth f path = (.ok (), g)) : g.isDirectory path := by
  cases depth with
  | zero => cases made
  | succ depth =>
    unfold makeDirectoriesTo at made
    rw [if_neg (by simpa using named)] at made
    split at made
    case h_1 directory =>
      cases made
      exact isDirectory_of_makeDirectory directory
    case h_2 =>
      split at made
      · cases made
      · split at made
        · cases made
        · exact isDirectory_of_ensureDirectory made
    case h_3 =>
      split at made <;> cases made
      assumption

theorem makeDirectoriesTo_grown (depth : Nat) (f : Files) (path : String) :
    f.Grown (makeDirectoriesTo depth f path).2 := by
  induction depth generalizing path with
  | zero => exact .refl f
  | succ depth ih =>
    unfold makeDirectoriesTo
    split
    · exact .refl f
    · split
      case h_1 made => exact makeDirectory_grown made
      case h_2 =>
        split
        · exact .refl f
        case h_2 parent _ =>
          have upper := ih parent
          split
          case h_1 made => rwa [made] at upper
          case h_2 made =>
            rw [made] at upper
            exact upper.trans (ensureDirectory_grown _ _)
      case h_3 => exact .refl f

/-- Where directories could not be made, there is no directory. -/
theorem not_isDirectory_of_makeDirectoriesTo {depth : Nat} {e : OsError}
    (enough : path.length < depth) (failed : makeDirectoriesTo depth f path = (.error e, g)) :
    ¬g.isDirectory path := by
  induction depth generalizing path e g with
  | zero => omega
  | succ depth ih =>
    unfold makeDirectoriesTo at failed
    split at failed
    · cases failed
    case isFalse notBlank =>
      have positive : path.length ≠ 0 := by simpa using notBlank
      split at failed
      · cases failed
      case h_2 missing =>
        have absent := not_isDirectory_of_makeDirectory missing
        split at failed
        · cases failed
          exact absent
        case h_2 parent upward =>
          split at failed
          case h_1 stopped =>
            cases failed
            by_cases named : parent = ""
            · -- The empty path stands for the working directory and never fails.
              obtain ⟨depth, rfl⟩ := Nat.exists_eq_succ_of_ne_zero (n := depth) (by omega)
              simp [makeDirectoriesTo, named] at stopped
            · have above := Path.parent?_above upward named
              have shorter := above.length_lt
              have upper := ih (by omega) stopped
              intro directory
              obtain ⟨place, found, -⟩ := isDirectory_iff.mp directory
              exact upper (isDirectory_of_above above named found)
          case h_2 made =>
            unfold ensureDirectory at failed
            split at failed
            · cases failed
            · split at failed <;> cases failed
              assumption
      · split at failed <;> cases failed
        assumption

theorem directoryOf_ne_blank (path : String) : directoryOf path ≠ "" := by
  unfold directoryOf
  split
  case h_1 parent _ =>
    by_cases blank : parent = ""
    · simp [blank]
    · simp [blank]
  case h_2 => decide

theorem makeDirectories_grown (made : f.makeDirectories path = (result, g)) : f.Grown g := by
  have grown := makeDirectoriesTo_grown (path.length + 1) f path
  rw [makeDirectories] at made
  rwa [made] at grown

end TokenDesk.Files
