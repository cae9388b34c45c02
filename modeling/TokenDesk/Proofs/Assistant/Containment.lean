import TokenDesk.Proofs.Assistant.Sources
import TokenDesk.Proofs.Files.Canonical

/-!
# What may be analyzed

A file is handed to the container just if it stands at or below the root of the workspace, however its path is
written; there it is named by the way from the root (`command_contained`). The system has to look at the absolute
path of every name on the way: a file so deep that this is too long is refused, even where its own path is short
enough to read it (`command_refuses_deep`).
-/

set_option autoImplicit false

namespace TokenDesk.Assistant.Analyzer

open TokenDesk.Path (IsName SamePath)

variable {f : Files} {w : Workspace} {root at_ : Location} {names : List String}
variable {image file other : String} {c d : Command}

/-- Where a path with an extension leads, something stands: its last piece is a name, behind the root, too. -/
theorem stands_of_extension {extension : String} (ending : Path.extension? file = some extension)
    (blank : w.root ≠ "") (found : f.resolve (Path.join w.root file) = .ok at_) :
    f.Stands (Path.join w.root file) at_ := by
  obtain ⟨name, last, -⟩ := Option.bind_eq_some_iff.mp ending
  obtain ⟨before, idle, split, skipped, proper, down⟩ := Path.exists_pieces_of_fileName? last
  cases absolute : Path.isAbsolute file with
  | true =>
    have alone : Path.join w.root file = file := by rw [Path.join, if_pos (by simp [absolute])]
    rw [alone] at found ⊢
    exact Files.stands_of_name split skipped proper down found
  | false =>
    obtain ⟨upper, joined, -⟩ := Path.pieces_join_relative blank absolute
    rw [split, ← List.append_assoc] at joined
    exact Files.stands_of_name joined skipped proper down found

/-- The text of a target: the names below the root, behind the mount point. -/
theorem mounted_eq_below (names : List String) : mounted names = mountPoint ++ Path.below names :=
  calc mounted names = Path.ofPieces (["", "src"] ++ names) := mounted_eq_ofPieces names
    _ = Path.ofPieces ["", "src"] ++ Path.below names := (Path.ofPieces_append_below (by simp) names).symm

/-- A command hands a place over: the root is mounted, and the target names the way from there. -/
structure Hands (f : Files) (w : Workspace) (file : String) (c : Command) (root at_ : Location)
    (names : List String) : Prop where
  opened : f.resolve w.root = .ok root
  stands : f.Stands (Path.join w.root file) at_
  inside : at_ = root ++ names
  mount : Files.absolute root ++ ":" ++ mountPoint ∈ c.arguments
  target : c.arguments.getLast? = some (mountPoint ++ Path.below names)

theorem hands_of_command (accepted : command image w file f = .ok c) :
    ∃ root at_ names, Hands f w file c root at_ names := by
  obtain ⟨solidity, root, at_, names, rootFound, canonical, inside, rfl⟩ := command_eq_ok_iff.mp accepted
  obtain ⟨opened, -⟩ := Files.canonicalize_eq_ok_iff.mp rootFound
  obtain ⟨found, -⟩ := Files.canonicalize_eq_ok_iff.mp canonical
  have blank : w.root ≠ "" := (Files.resolve_eq_ok_iff.mp opened).1
  exact ⟨root, at_, names, opened, stands_of_extension solidity blank found, inside, by simp,
    by simp [mounted_eq_below]⟩

theorem exists_command_iff : (∃ c, command image w file f = .ok c) ↔
    Path.extension? file = some "sol" ∧
      (∃ root at_, f.resolve w.root = .ok root ∧ f.Stands (Path.join w.root file) at_ ∧ root <+: at_) ∧
      f.InSight w.root ∧ f.InSight (Path.join w.root file) := by
  constructor
  · intro made
    obtain ⟨c, accepted⟩ := made
    obtain ⟨root, at_, names, hands⟩ := hands_of_command accepted
    obtain ⟨solidity, _, _, _, rootFound, canonical, -, -⟩ := command_eq_ok_iff.mp accepted
    exact ⟨solidity, ⟨root, at_, hands.opened, hands.stands, names, hands.inside.symm⟩,
      (Files.canonicalize_eq_ok_iff.mp rootFound).2, (Files.canonicalize_eq_ok_iff.mp canonical).2⟩
  · intro given
    obtain ⟨solidity, ⟨root, at_, opened, stands, names, inside⟩, rootSeen, seen⟩ := given
    have rootFound := Files.canonicalize_eq_ok_iff.mpr ⟨opened, rootSeen⟩
    have canonical := Files.canonicalize_eq_ok_iff.mpr ⟨stands.1, seen⟩
    exact ⟨_, command_eq_ok_iff.mpr ⟨solidity, root, at_, names, rootFound, canonical, inside.symm, rfl⟩⟩

theorem Hands.isName (named : f.tree.Named) (hands : Hands f w file c root at_ names) :
    ∀ name ∈ names, IsName name := fun name member =>
  named.resolve hands.stands.1 name (by simp [hands.inside, member])

theorem Hands.two_dots (named : f.tree.Named) (hands : Hands f w file c root at_ names) :
    ".." ∉ Path.pieces (mountPoint ++ Path.below names) := by
  have each := hands.isName named
  have down : ".." ∉ names := fun member => (each ".." member).proper.2 rfl
  rw [← mounted_eq_below, pieces_mounted each]
  simpa using down

/-- Targets in one workspace are the same just if the places are. -/
theorem Hands.target_eq_iff (named : f.tree.Named) {place : Location} {others : List String}
    (first : Hands f w file c root at_ names) (second : Hands f w other d root place others) :
    c.arguments.getLast? = d.arguments.getLast? ↔ at_ = place := by
  rw [first.target, second.target, Option.some_inj, ← mounted_eq_below, ← mounted_eq_below,
    first.inside, second.inside, List.append_cancel_left_eq]
  constructor
  · exact mounted_injective (first.isName named) (second.isName named)
  · intro same
    rw [same]

/-- A command is made just for what has the extension and stands at or below the root, wherever the path goes on
its way, where the system looks at every name on the ways to the root and to the file. The target is the mount point
with the names of the way from the root; none of them goes up, and behind the root they write the path of the place.
Two files have one target just if they are one. -/
theorem command_contained (named : f.tree.Named) (image : String) (w : Workspace) (file : String) :
    ((∃ c, command image w file f = .ok c) ↔ Path.extension? file = some "sol" ∧
      (∃ root at_, f.resolve w.root = .ok root ∧ f.Stands (Path.join w.root file) at_ ∧ root <+: at_) ∧
      f.InSight w.root ∧ f.InSight (Path.join w.root file)) ∧
    (∀ c, command image w file f = .ok c → ∃ root at_ names, Hands f w file c root at_ names ∧
      root = f.landing w.root ∧ at_ = f.landing (Path.join w.root file) ∧
      ".." ∉ Path.pieces (mountPoint ++ Path.below names) ∧
      SamePath (Files.absolute root ++ Path.below names) (Files.absolute at_)) ∧
    ∀ other c d, command image w file f = .ok c → command image w other f = .ok d →
      (c.arguments.getLast? = d.arguments.getLast? ↔
        ∃ at_, f.Stands (Path.join w.root file) at_ ∧ f.Stands (Path.join w.root other) at_) := by
  refine ⟨exists_command_iff, fun c accepted => ?_, fun other c d accepted again => ?_⟩
  · obtain ⟨root, at_, names, hands⟩ := hands_of_command accepted
    have back : SamePath (Files.absolute root ++ Path.below names) (Files.absolute at_) := by
      rw [hands.inside]
      exact Path.samePath_below root names
    exact ⟨root, at_, names, hands, Files.eq_landing_of_resolve hands.opened,
      Files.eq_landing_of_resolve hands.stands.1, hands.two_dots named, back⟩
  · obtain ⟨root, at_, names, first⟩ := hands_of_command accepted
    obtain ⟨same, place, others, second⟩ := hands_of_command again
    cases first.opened.symm.trans second.opened
    rw [first.target_eq_iff named second]
    constructor
    · intro one
      subst one
      exact ⟨at_, first.stands, second.stands⟩
    · intro shared
      obtain ⟨one, here, there⟩ := shared
      rw [first.stands.unique here, second.stands.unique there]

/-- A workspace beside another whose name begins with its name. -/
def besides : Files :=
  ⟨⟨[(["ws"], .directory), (["ws", "A.sol"], .file []), (["ws2"], .directory),
    (["ws2", "B.sol"], .file [])]⟩, []⟩

theorem besides_named : besides.tree.Named := by
  decide

theorem besides_inSight {path : String} (short : path.utf8ByteSize < 4000) : besides.InSight path := by
  have begins : Files.total (besides.origin path) = 0 := by
    unfold Files.origin
    split <;> rfl
  have limit : pathLimit = 4096 := rfl
  apply Files.inSight_of_short
  omega

/-- A path may leave the workspace and come back, to the same target as without the detour; what stands
beside the workspace is refused, even where its path begins as that of the workspace. -/
theorem command_contained_besides :
    (∃ c d, command defaultImage ⟨"/ws"⟩ "../ws2/.././ws/A.sol" besides = .ok c ∧
      command defaultImage ⟨"/ws"⟩ "/ws/A.sol" besides = .ok d ∧
      c.arguments.getLast? = some "/src/A.sol" ∧
      c.arguments.getLast? = d.arguments.getLast?) ∧
    ¬∃ c, command defaultImage ⟨"/ws"⟩ "/ws2/B.sol" besides = .ok c := by
  have top : besides.resolve "/ws" = .ok ["ws"] := by rfl
  have away : besides.Stands "/ws/../ws2/.././ws/A.sol" ["ws", "A.sol"] := ⟨by rfl, by rfl⟩
  have here : besides.Stands "/ws/A.sol" ["ws", "A.sol"] := ⟨by rfl, by rfl⟩
  obtain ⟨detour, handed, shared⟩ :=
    command_contained besides_named defaultImage ⟨"/ws"⟩ "../ws2/.././ws/A.sol"
  obtain ⟨direct, -, -⟩ := command_contained besides_named defaultImage ⟨"/ws"⟩ "/ws/A.sol"
  obtain ⟨beside, -, -⟩ := command_contained besides_named defaultImage ⟨"/ws"⟩ "/ws2/B.sol"
  constructor
  · obtain ⟨c, first⟩ := detour.mpr ⟨by rfl, ⟨["ws"], ["ws", "A.sol"], top, away, ["A.sol"], rfl⟩,
      besides_inSight (by decide), besides_inSight (by decide)⟩
    obtain ⟨d, second⟩ := direct.mpr ⟨by rfl, ⟨["ws"], ["ws", "A.sol"], top, here, ["A.sol"], rfl⟩,
      besides_inSight (by decide), besides_inSight (by decide)⟩
    obtain ⟨root, at_, names, hands, -⟩ := handed c first
    cases top.symm.trans hands.opened
    cases away.unique hands.stands
    have alone : names = ["A.sol"] := by simpa using hands.inside.symm
    subst alone
    exact ⟨c, d, first, second, hands.target,
      (shared _ c d first second).mpr ⟨_, away, here⟩⟩
  · intro made
    obtain ⟨-, ⟨root, at_, opened, stands, below⟩, -⟩ := beside.mp made
    have there : besides.Stands "/ws2/B.sol" ["ws2", "B.sol"] := ⟨by rfl, by rfl⟩
    cases top.symm.trans opened
    cases there.unique stands
    exact absurd below (by decide)

/-! ## Files that stand too deep -/

/-- Directories in one another below a workspace. -/
def stair (name : String) (steps : Nat) : Location :=
  ["desk", "ws"] ++ List.replicate steps name

def stairs (name : String) : Nat → FileTree
  | 0 => ⟨[(["desk"], .directory), (["desk", "ws"], .directory)]⟩
  | steps + 1 => (stairs name steps).put (stair name (steps + 1)) .directory

/-- The path to a file at the end of the stairs, from the workspace. -/
def stairPath (name last : String) : Nat → String
  | 0 => last
  | steps + 1 => name ++ "/" ++ stairPath name last steps

/-- The stairs with a file at their end, seen from beside the workspace. -/
def deepFiles (name last : String) (steps : Nat) : Files :=
  ⟨(stairs name steps).put (stair name steps ++ [last]) (.file []), ["desk"]⟩

section Stairs

variable {name last : String}

/-- A name that the system allows. -/
abbrev Allowed (name : String) : Prop :=
  IsName name ∧ name.utf8ByteSize ≤ nameLimit ∧ Files.hasZero name = false

theorem stair_succ (name : String) (steps : Nat) : stair name (steps + 1) = stair name steps ++ [name] := by
  rw [stair, stair, List.replicate_succ', List.append_assoc]

theorem total_stair (name : String) (steps : Nat) :
    Files.total (stair name steps) = 8 + steps * (name.utf8ByteSize + 1) := by
  induction steps with
  | zero =>
    have upper : Files.total ["desk", "ws"] = 8 := by decide
    simpa [stair] using upper
  | succ steps ih =>
    rw [stair_succ, Files.total_append, ih, Files.total_cons, Files.total, Nat.succ_mul]
    omega

theorem allowed_stair (allowed : Allowed name) (steps : Nat) : ∀ other ∈ stair name steps, Allowed other := by
  intro other member
  rcases List.mem_append.mp member with upper | lower
  · exact (by decide : ∀ other ∈ ["desk", "ws"], Allowed other) other upper
  · rwa [List.eq_of_mem_replicate lower]

theorem stairs_sound (name : String) (steps : Nat) :
    (stairs name steps).WellFormed ∧ (stairs name steps).get? (stair name steps) = some .directory := by
  induction steps with
  | zero =>
    have above : ∀ e ∈ (stairs "" 0).entries, (stairs "" 0).get? e.1.dropLast = some .directory := by decide
    exact ⟨FileTree.wellFormed_of_entries above, rfl⟩
  | succ steps ih =>
    rw [stairs, stair_succ]
    exact ⟨ih.1.put ih.2 (.inl rfl), FileTree.get?_put_self _ (by simp) _⟩

/-- Nothing stands below the end of the stairs. -/
theorem stairs_end {name : String} {steps : Nat} {place : Location} (deeper : steps + 2 < place.length) :
    (stairs name steps).get? place = none := by
  induction steps with
  | zero =>
    match place, deeper with
    | _ :: _ :: _ :: _, _ => simp [stairs, FileTree.get?, List.lookup_cons]
  | succ steps ih =>
    have other : place ≠ stair name (steps + 1) := by
      intro same
      rw [same, stair, List.length_append, List.length_replicate] at deeper
      exact absurd deeper (Nat.not_lt.mpr (Nat.le_of_eq (Nat.add_comm 2 _)))
    rw [stairs, FileTree.get?_put_of_ne _ other]
    exact ih (by omega)

theorem stairs_named (allowed : Allowed name) (steps : Nat) : (stairs name steps).Named := by
  induction steps with
  | zero => exact (by decide : (stairs "" 0).Named)
  | succ steps ih => exact ih.put (allowed_stair allowed (steps + 1)) _

theorem pieces_stairPath (allowed : Allowed name) (lastAllowed : Allowed last) (steps : Nat) :
    Path.pieces (stairPath name last steps) = List.replicate steps name ++ [last] := by
  induction steps with
  | zero => exact Path.pieces_of_isPiece lastAllowed.1.piece
  | succ steps ih =>
    rw [stairPath, Path.pieces_append_slash, Path.pieces_of_isPiece allowed.1.piece, ih]
    rfl

theorem hasZero_stairPath (allowed : Allowed name) (lastAllowed : Allowed last) (steps : Nat) :
    Files.hasZero (stairPath name last steps) = false := by
  induction steps with
  | zero => exact lastAllowed.2.2
  | succ steps ih =>
    have clean := allowed.2.2
    unfold Files.hasZero at clean ih ⊢
    rw [List.contains_eq_mem, decide_eq_false_iff_not] at clean ih ⊢
    simp [stairPath, clean, ih]

theorem isAbsolute_stairPath (allowed : Allowed name) (lastAllowed : Allowed last) (steps : Nat) :
    Path.isAbsolute (stairPath name last steps) = false := by
  cases steps with
  | zero => exact lastAllowed.1.piece.notAbsolute
  | succ steps =>
    rw [stairPath, String.append_assoc, Path.isAbsolute_append allowed.1.ne_blank]
    exact allowed.1.piece.notAbsolute

theorem deepFiles_named (allowed : Allowed name) (lastAllowed : Allowed last) (steps : Nat) :
    (deepFiles name last steps).tree.Named := by
  refine (stairs_named allowed steps).put (fun other member => ?_) _
  rcases List.mem_append.mp member with upper | lower
  · exact allowed_stair allowed steps other upper
  · rwa [List.mem_singleton.mp lower]

theorem pieces_join_stairPath (allowed : Allowed name) (lastAllowed : Allowed last) (steps : Nat) :
    Path.pieces (Path.join "ws" (stairPath name last steps)) =
      ["ws"] ++ (List.replicate steps name ++ [last]) := by
  obtain ⟨before, split, lead⟩ := Path.pieces_join_relative (by decide : "ws" ≠ "")
    (isAbsolute_stairPath allowed lastAllowed steps)
  have root : Path.pieces "ws" = ["ws"] := by decide
  rw [split, pieces_stairPath allowed lastAllowed]
  rcases lead with same | slash
  · rw [← same, root]
  · rw [root] at slash
    have last := congrArg List.getLast? slash
    simp at last

theorem stands_deepFiles (allowed : Allowed name) (lastAllowed : Allowed last) (steps : Nat) :
    (deepFiles name last steps).resolve "ws" = .ok ["desk", "ws"] ∧
      (deepFiles name last steps).Stands (Path.join "ws" (stairPath name last steps))
        (stair name steps ++ [last]) ∧ ["desk", "ws"] <+: stair name steps ++ [last] := by
  obtain ⟨sound, begins⟩ := stairs_sound name steps
  have free : (stairs name steps).get? (stair name steps ++ [last]) = none :=
    stairs_end (by simp [stair])
  have deepSound : (deepFiles name last steps).tree.WellFormed := sound.put begins (.inr (by simp [free]))
  have named := deepFiles_named allowed lastAllowed steps
  have there : ((deepFiles name last steps).tree.get?
      (["desk"] ++ (["ws"] ++ (List.replicate steps name ++ [last])))).isSome := by
    change ((deepFiles name last steps).tree.get? (stair name steps ++ [last])).isSome
    rw [deepFiles, FileTree.get?_put_self _ (by simp)]
    rfl
  have upper : (deepFiles name last steps).tree.get? (["desk"] ++ ["ws"]) = some .directory :=
    deepSound.directory_above (by simp : List.replicate steps name ++ [last] ≠ []) there
  have relative := isAbsolute_stairPath allowed lastAllowed steps
  have ahead : Path.isAbsolute (Path.join "ws" (stairPath name last steps)) = false :=
    (Path.isAbsolute_join (by decide) relative).trans (by decide)
  have way : (deepFiles name last steps).resolve (Path.join "ws" (stairPath name last steps)) =
      .ok (stair name steps ++ [last]) := by
    refine Files.resolve_eq_ok_iff.mpr ⟨Path.join_ne_blank (by decide) relative,
      Files.hasZero_join (by decide) (hasZero_stairPath allowed lastAllowed steps), ?_⟩
    rw [Files.origin, ahead, pieces_join_stairPath allowed lastAllowed]
    exact FileTree.follow_of_standing named deepSound there
  refine ⟨?_, ⟨way, there⟩, List.replicate steps name ++ [last], (List.append_assoc _ _ _).symm⟩
  · have standing : ((deepFiles name last steps).tree.get? (["desk"] ++ ["ws"])).isSome := by
      rw [upper]
      rfl
    exact Files.resolve_eq_ok_iff.mpr ⟨by decide, by decide,
      FileTree.follow_of_standing named deepSound standing⟩
/-- How long the path from beside the workspace is. -/
theorem size_stairPath (allowed : Allowed name) (lastAllowed : Allowed last) (steps : Nat) :
    (Path.join "ws" (stairPath name last steps)).utf8ByteSize =
      3 + steps * (name.utf8ByteSize + 1) + last.utf8ByteSize := by
  have whole := Files.total_pieces (Path.join "ws" (stairPath name last steps))
  have place : Files.total (["desk"] ++ (["ws"] ++ (List.replicate steps name ++ [last]))) =
      Files.total (stair name steps ++ [last]) := rfl
  have upper : Files.total ["desk"] = 5 := by decide
  rw [pieces_join_stairPath allowed lastAllowed] at whole
  rw [Files.total_append, whole, Files.total_append, total_stair, upper, Files.total_cons, Files.total] at place
  omega

/-- So a file whose absolute path is too long is refused. -/
theorem command_deepFiles (allowed : Allowed name) (lastAllowed : Allowed last) {steps : Nat}
    (solidity : Path.extension? (stairPath name last steps) = some "sol")
    (long : pathLimit ≤ 8 + steps * (name.utf8ByteSize + 1) + (last.utf8ByteSize + 1)) (image : String) :
    command image ⟨"ws"⟩ (stairPath name last steps) (deepFiles name last steps) =
      .error (.source (Path.join "ws" (stairPath name last steps)) .nameTooLong) := by
  obtain ⟨opened, stands, -⟩ := stands_deepFiles allowed lastAllowed steps
  have begins : (deepFiles name last steps).origin "ws" = ["desk"] := rfl
  have rootSeen : (deepFiles name last steps).InSight "ws" :=
    Files.inSight_of_short (by rw [begins]; decide)
  have hidden : ¬(deepFiles name last steps).InSight (Path.join "ws" (stairPath name last steps)) := by
    intro seen
    have split := pieces_join_stairPath allowed lastAllowed steps
    rw [← List.append_assoc] at split
    have looked := seen _ last [] split lastAllowed.1.proper.1 lastAllowed.1.proper.2
    rw [← split] at looked
    have ends := Files.eq_landing_of_resolve stands.1
    rw [Files.landing] at ends
    rw [← ends, Files.lookupSize, Files.size_absolute (by simp), Files.total_append, total_stair] at looked
    simp [Files.total, Files.asksDirectory] at looked
    omega
  unfold command
  rw [if_neg (by simp [solidity]), Files.canonicalize_eq_ok_iff.mpr ⟨opened, rootSeen⟩]
  dsimp only
  rw [Files.canonicalize_of_hidden stands.1 hidden]

end Stairs

/-- A text behind so many letters. -/
def padded (text : String) : Nat → String
  | 0 => text
  | letters + 1 => "d" ++ padded text letters

theorem toList_padded (text : String) (letters : Nat) :
    (padded text letters).toList = List.replicate letters 'd' ++ text.toList := by
  induction letters with
  | zero => rfl
  | succ letters ih => simp [padded, ih, List.replicate_succ]

theorem size_padded (text : String) (letters : Nat) :
    (padded text letters).utf8ByteSize = letters + text.utf8ByteSize := by
  have letter : "d".utf8ByteSize = 1 := by decide
  induction letters with
  | zero => exact (Nat.zero_add _).symm
  | succ letters ih =>
    rw [padded, String.utf8ByteSize_append, letter, ih]
    omega

theorem allowed_padded {text : String} {letters : Nat} (piece : Path.IsPiece text)
    (clean : Files.hasZero text = false) (some : 2 < letters)
    (short : letters + text.utf8ByteSize ≤ nameLimit) : Allowed (padded text letters) := by
  have other (dots : String) (few : dots.utf8ByteSize ≤ 2) : padded text letters ≠ dots := by
    intro same
    rw [← same, size_padded] at few
    omega
  refine ⟨⟨?_, ?_, other ".." (by decide)⟩, by rwa [size_padded], ?_⟩
  · unfold Path.IsPiece at piece ⊢
    simpa [toList_padded] using piece
  · simp [Path.isIdle, other "" (by decide), other "." (by decide)]
  · unfold Files.hasZero at clean ⊢
    simpa [toList_padded] using clean

/-- A source is there and stands below the workspace, and the system looks at its path, but not at its absolute
path, so it is refused. -/
theorem command_refuses_deep :
    let step := padded "" 255
    let last := padded ".sol" 246
    let f := deepFiles step last 15
    let file := stairPath step last 15
    f.tree.Named ∧ f.exists? (Path.join "ws" file) = true ∧
      command defaultImage ⟨"ws"⟩ file f = .error (.source (Path.join "ws" file) .nameTooLong) ∧
      ¬((∃ c, command defaultImage ⟨"ws"⟩ file f = .ok c) ↔ Path.extension? file = some "sol" ∧
        ∃ root at_, f.resolve "ws" = .ok root ∧ f.Stands (Path.join "ws" file) at_ ∧ root <+: at_) := by
  intro step last f file
  have size : step.utf8ByteSize = 255 := size_padded "" 255
  have lastSize : last.utf8ByteSize = 250 := size_padded ".sol" 246
  have allowed : Allowed step := allowed_padded (by decide) (by decide) (by decide) (by decide)
  have lastAllowed : Allowed last := allowed_padded (by decide) (by decide) (by decide) (by decide)
  have solidity : Path.extension? file = some "sol" := by
    have named := Path.fileName?_of_pieces lastAllowed.1 (pieces_stairPath allowed lastAllowed 15)
    refine (extension?_of_ending named (toList_padded ".sol" 246)).mpr fun same => ?_
    rw [same] at lastSize
    exact absurd lastSize (by decide)
  obtain ⟨opened, stands, below⟩ := stands_deepFiles allowed lastAllowed 15
  have there : f.exists? (Path.join "ws" file) = true := by
    refine (Files.exists_of_resolve stands.1).mpr ⟨?_, stands.2⟩
    rw [size_stairPath allowed lastAllowed, size, lastSize]
    decide
  have refused : command defaultImage ⟨"ws"⟩ file f = .error (.source (Path.join "ws" file) .nameTooLong) :=
    command_deepFiles allowed lastAllowed solidity (by rw [size, lastSize]; decide) defaultImage
  refine ⟨deepFiles_named allowed lastAllowed 15, there, refused, fun claimed => ?_⟩
  obtain ⟨c, made⟩ := claimed.mpr ⟨solidity, _, _, opened, stands, below⟩
  rw [refused] at made
  cases made

end TokenDesk.Assistant.Analyzer
