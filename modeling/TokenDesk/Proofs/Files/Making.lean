import TokenDesk.Proofs.Files.Plain
import TokenDesk.Proofs.Files.Writing

/-!
# What a write makes

Where all but the last directory above a file stand, a write makes that last one if it is missing, puts the
file there and does nothing else (`writeOn_below`). What a directory lists is there under its path, unless the
path is too long (`exists_join_iff`).
-/

set_option autoImplicit false

namespace TokenDesk

open TokenDesk.Text

/-! ## The path above -/

namespace Path

variable {path upper name : String} {before : List String}

/-- What a path begins with is no name, so it stands before the names. -/
theorem parts_of_names (split : pieces path = before ++ [upper, name]) (named : IsName upper) :
    ∃ body, (parts path).body = body ++ [upper, name] ∧ (parts path).lead.pieces ++ body = before := by
  have there : path ≠ "" := by
    rintro rfl
    have one := congrArg List.length split
    simp [pieces, splitAll] at one
  have whole := pieces_parts there
  rw [split] at whole
  have behind {lead : String} (whole : before ++ [upper, name] = [lead] ++ (parts path).body)
      (idle : isIdle lead = true) :
      ∃ body, (parts path).body = body ++ [upper, name] ∧ [lead] ++ body = before := by
    cases before with
    | nil =>
      obtain ⟨rfl, -⟩ := List.cons.inj whole
      rw [named.proper.1] at idle
      cases idle
    | cons first before =>
      obtain ⟨rfl, body⟩ := List.cons.inj whole
      exact ⟨before, body.symm, rfl⟩
  cases lead : (parts path).lead with
  | none =>
    rw [lead] at whole
    exact ⟨before, whole.symm, rfl⟩
  | root =>
    rw [lead] at whole
    exact behind whole rfl
  | here =>
    rw [lead] at whole
    exact behind whole rfl

theorem parent?_of_names (split : pieces path = before ++ [upper, name]) (above : IsName upper)
    (named : IsName name) : parent? path = some (ofPieces (before ++ [upper])) := by
  obtain ⟨body, inner, lead⟩ := parts_of_names split above
  have last : ((parts path).body.reverse).dropWhile isIdle = name :: upper :: body.reverse := by
    rw [inner, List.reverse_append]
    simp [named.proper.1]
  have next : (upper :: body.reverse).dropWhile isIdle = upper :: body.reverse := by
    simp [above.proper.1]
  unfold parent?
  dsimp only
  rw [last]
  dsimp only
  rw [next, List.reverse_cons, List.reverse_reverse, text_eq _ (by simp), ← List.append_assoc, lead]

/-- A directory stands above what is in it. -/
theorem above_join {base : String} (there : base ≠ "") (named : IsName name) :
    Above base (join base name) := by
  obtain ⟨before, split, begins⟩ := pieces_join there named.piece
  refine ⟨?_, ?_⟩
  · by_cases slash : base.toList.getLast? = some '/'
    · exact ⟨name, named.ne_blank, join_closed named.piece there slash⟩
    · exact ⟨"/" ++ name, by simp, by rw [join_open named.piece there slash, String.append_assoc]⟩
  · rcases begins with exact | blank
    · exact ⟨before, [], [name], by rw [exact, List.append_nil], by simp, by simp, split⟩
    · exact ⟨before, [""], [name], blank, by decide, by simp, split⟩

/-- At most a slash stands between a directory and a name in it. -/
theorem size_join {base : String} (there : base ≠ "") (piece : IsPiece name) :
    base.utf8ByteSize + name.utf8ByteSize ≤ (join base name).utf8ByteSize ∧
      (join base name).utf8ByteSize ≤ base.utf8ByteSize + 1 + name.utf8ByteSize := by
  have one : "/".utf8ByteSize = 1 := by decide
  by_cases slash : base.toList.getLast? = some '/'
  · rw [join_closed piece there slash, String.utf8ByteSize_append]
    omega
  · rw [join_open piece there slash, String.utf8ByteSize_append, String.utf8ByteSize_append]
    omega

end Path

namespace Files

open TokenDesk.Path (IsName)

variable {f g : Files} {path upper name : String} {before : List String} {directory : Location}
  {bytes : Octets}

theorem directoryOf_of_names (split : Path.pieces path = before ++ [upper, name]) (above : IsName upper)
    (named : IsName name) : directoryOf path = Path.ofPieces (before ++ [upper]) ∧
      Path.pieces (directoryOf path) = before ++ [upper] ∧ directoryOf path ≠ "" := by
  have each : ∀ piece ∈ before ++ [upper], Path.IsPiece piece := fun piece member =>
    Path.isPiece_of_mem_pieces path (by
      rw [split, List.append_cons]
      exact List.mem_append_left _ member)
  have pieces := Path.pieces_ofPieces (by simp) each
  have some_ : Path.ofPieces (before ++ [upper]) ≠ "" := by
    intro blank
    rw [blank] at pieces
    have last := congrArg List.getLast? pieces
    simp [Path.pieces, splitAll] at last
    exact above.ne_blank last
  have same : directoryOf path = Path.ofPieces (before ++ [upper]) := by
    rw [directoryOf, Path.parent?_of_names split above named]
    simp [some_]
  rw [same]
  exact ⟨rfl, pieces, some_⟩

/-! ## Directories and files -/

theorem size_of_allowed (allowed : refusal? path = none) : path.utf8ByteSize < pathLimit := by
  unfold refusal? at allowed
  split at allowed
  case isTrue => cases allowed
  case isFalse =>
    split at allowed
    case isTrue => cases allowed
    case isFalse =>
      split at allowed
      case isTrue => cases allowed
      case isFalse short => exact Nat.not_le.mp short

/-- A directory in an existing one is made, unless it is there or a file is in its place. -/
theorem ensureDirectory_of_names (names : f.Names path directory name) :
    f.ensureDirectory path =
      match f.tree.get? (directory ++ [name]) with
      | none => (.ok (), { f with tree := f.tree.put (directory ++ [name]) .directory })
      | some .directory => (.ok (), f)
      | some (.file _) => (.error .fileExists, f) := by
  have located := names.locate
  unfold ensureDirectory makeDirectory isDirectory entry?
  rw [names.target, located]
  cases standing : f.tree.get? (directory ++ [name]) with
  | none => simp [standing]
  | some entry => cases entry <;> simp [standing]

/-- Nothing above it is to be made. -/
theorem makeDirectoriesTo_of_names (depth : Nat) (names : f.Names path directory name)
    (some_ : path ≠ "") : makeDirectoriesTo (depth + 1) f path = f.ensureDirectory path := by
  have there : (path == "") = false := by simpa using some_
  unfold makeDirectoriesTo ensureDirectory makeDirectory
  rw [there, names.target]
  cases standing : f.tree.get? (directory ++ [name]) <;> simp [standing]

/-- A write below a directory that stands makes at most one directory and the file. -/
theorem writeOn_below {disk : Disk} {place : Location} (split : Path.pieces path = before ++ [upper, name])
    (above : IsName upper) (named : IsName name)
    (reached : f.tree.follow (f.origin path) before = .ok place)
    (standing : f.tree.get? place = some .directory)
    (stored : f.writeOn disk path bytes = (.ok (), g)) : refusal? path = none ∧ g.here = f.here ∧
      ∀ at_, g.tree.get? at_ =
        if at_ = place ++ [upper] ++ [name] then some (.file bytes)
        else if at_ = place ++ [upper] then some .directory else f.tree.get? at_ := by
  obtain ⟨h, directory, last, made, names, rfl⟩ := stored_of_writeOn stored
  have grown := makeDirectories_grown made
  obtain ⟨way, ends, led⟩ := names.way
  have same : way ++ [last] = (before ++ [upper]) ++ [name] := by
    rw [← ends, split]
    simp
  obtain ⟨rfl, one⟩ := List.append_inj' same rfl
  cases one
  rw [origin_eq grown.here] at led
  obtain ⟨there, first, onward⟩ := FileTree.follow_append_eq_ok.mp led
  rw [grown.tree.follow reached] at first
  cases first
  obtain ⟨-, short, -, inner⟩ := (follow_name_eq_ok above.proper.1 above.proper.2).mp onward
  cases inner
  obtain ⟨text, pieces, some_⟩ := directoryOf_of_names split above named
  have below : Path.Above (directoryOf path) path := by
    rw [text]
    exact Path.above_of_pieces (by simp) (List.cons_ne_nil name []) (by rw [split, List.append_cons])
  have outer : f.Names (directoryOf path) place upper := by
    refine ⟨refusal?_of_above below some_ names.allowed, ⟨before, pieces, ?_⟩, standing,
      above.proper, short⟩
    rwa [origin, ← below.isAbsolute_eq some_, ← origin]
  rw [makeDirectories, makeDirectoriesTo_of_names _ outer some_, ensureDirectory_of_names outer] at made
  refine ⟨names.allowed, grown.here, fun at_ => ?_⟩
  have file : place ++ [upper] ++ [name] ≠ [] := by simp
  by_cases target : at_ = place ++ [upper] ++ [name]
  · rw [if_pos target, target, FileTree.get?_put_self _ file]
  · rw [if_neg target, FileTree.get?_put_of_ne _ target]
    split at made
    case h_1 =>
      cases made
      by_cases directory : at_ = place ++ [upper]
      · rw [if_pos directory, directory, FileTree.get?_put_self _ (by simp)]
      · rw [if_neg directory, FileTree.get?_put_of_ne _ directory]
    case h_2 there =>
      cases made
      split
      case isTrue same => rw [same, there]
      case isFalse => rfl
    case h_3 => cases made

/-! ## What is there -/

/-- What a path leads to stands in a directory that the path above it leads to. -/
theorem mem_list_of_exists {base : String} (proper : base ≠ "" ∧ base ≠ ".") (named : IsName name)
    (there : f.exists? (Path.join base name) = true) :
    (Path.join base name).utf8ByteSize < pathLimit ∧ name ∈ f.list base := by
  obtain ⟨place, found⟩ : ∃ place, f.locate (Path.join base name) = .ok place := by
    unfold exists? entry? at there
    split at there
    case h_1 place found => exact ⟨place, found⟩
    case h_2 => cases there
  have resolved := resolve_of_locate found
  obtain ⟨short, -⟩ := (exists_of_resolve resolved).mp there
  obtain ⟨upper, located, standing⟩ := isDirectory_iff.mp
    (isDirectory_of_above (Path.above_join proper.1 named) proper.1 found)
  have from_ := resolve_of_locate located
  have clean : hasZero name = false := by
    obtain ⟨before, pieces, -⟩ := Path.pieces_join proper.1 named.piece
    refine hasZero_of_mem_pieces (resolve_eq_ok_iff.mp resolved).2.1 ?_
    rw [pieces]
    simp
  have leads := (resolve_join_iff from_ standing named.piece.notAbsolute clean).mp resolved
  rw [Path.pieces_of_isPiece named.piece, follow_name_eq_ok named.proper.1 named.proper.2] at leads
  have directory := isDirectory_iff.mpr ⟨upper, located, standing⟩
  exact ⟨short, (mem_list_iff from_).mpr
    ⟨((isDirectory_of_resolve from_).mp directory).1, standing, leads.2.2.1⟩⟩

theorem exists_join_iff {base : String} (sound : f.tree.Named) (proper : base ≠ "" ∧ base ≠ ".")
    (named : IsName name) : f.exists? (Path.join base name) = true ↔
      (Path.join base name).utf8ByteSize < pathLimit ∧ name ∈ f.list base := by
  refine ⟨mem_list_of_exists proper named, ?_⟩
  rintro ⟨short, listed⟩
  obtain ⟨upper, from_, -, -⟩ := mem_list listed
  obtain ⟨-, -, found, -⟩ := resolve_listed sound from_ listed
  rw [entryPath, if_neg (by simpa using proper.2)] at found
  exact (exists_of_resolve found).mpr ⟨short, ((mem_list_iff from_).mp listed).2.2⟩

end Files

end TokenDesk
