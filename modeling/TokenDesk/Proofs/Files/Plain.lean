import TokenDesk.Proofs.Files.Listing

/-!
# Following a path without wildcards

A pattern that begins with a path without wildcards goes on from the directory that the path names
(`expand_root`). It does not where the path begins with a single dot and two slashes: behind the dot a
blank name makes a blank path, behind which nothing is found (`expand_stranded`).
-/

set_option autoImplicit false

namespace TokenDesk.Files

open TokenDesk.Text
open TokenDesk.Path (isIdle IsPiece IsName)

variable {f : Files} {path name : String} {at_ place : Location} {names : List String}

/-! ## How long paths are -/

/-- How long a path is with the slash that a name goes on behind. -/
def extent (path : String) : Nat :=
  if path == "." then 0
  else if path.toList.getLast? = some '/' then path.utf8ByteSize
  else path.utf8ByteSize + 1

/-- How long names are with a slash behind each of them. -/
def total : List String → Nat
  | [] => 0
  | name :: names => name.utf8ByteSize + 1 + total names

theorem total_cons (name : String) (names : List String) :
    total (name :: names) = name.utf8ByteSize + 1 + total names := rfl

theorem extent_le (path : String) : extent path ≤ path.utf8ByteSize + 1 := by
  unfold extent
  split
  · exact Nat.zero_le _
  · split <;> omega

theorem size_entryPath_le (piece : IsPiece name) (there : path ≠ "") :
    (entryPath path name).utf8ByteSize ≤ extent path + name.utf8ByteSize := by
  have slash : "/".utf8ByteSize = 1 := by decide
  unfold entryPath Path.join extent
  split
  · omega
  · rw [piece.notAbsolute, Bool.false_or, if_neg (by simpa using there)]
    split <;> simp only [String.utf8ByteSize_append] <;> omega

/-- A path that goes on by names is no longer than they are with a slash between them. -/
theorem size_spelled_lt {start : String} (some : names ≠ [])
    (each : ∀ before after name, names = before ++ name :: after →
      IsPiece name ∧ spelled start before ≠ "") :
    (spelled start names).utf8ByteSize < extent start + total names := by
  induction names generalizing start with
  | nil => exact absurd rfl some
  | cons name names ih =>
    obtain ⟨piece, there⟩ := each [] names name rfl
    have first : (entryPath start name).utf8ByteSize ≤ extent start + name.utf8ByteSize :=
      size_entryPath_le piece there
    rw [spelled_cons, total_cons]
    by_cases last : names = []
    · subst last
      exact Nat.lt_of_le_of_lt first (by omega)
    · have rest : (spelled (entryPath start name) names).utf8ByteSize <
          extent (entryPath start name) + total names :=
        ih last fun before after other split =>
          each (name :: before) after other (by rw [split]; rfl)
      have reach := extent_le (entryPath start name)
      omega

theorem total_append (before after : List String) :
    total (before ++ after) = total before + total after := by
  induction before with
  | nil => exact (Nat.zero_add _).symm
  | cons name before ih => rw [List.cons_append, total_cons, total_cons, ih, ← Nat.add_assoc]

theorem total_le_of_sublist {before after : List String} (sub : before.Sublist after) :
    total before ≤ total after := by
  induction sub with
  | slnil => exact Nat.le_refl _
  | cons name _ ih =>
    rw [total_cons]
    omega
  | cons_cons name _ ih =>
    rw [total_cons, total_cons]
    omega

theorem total_of_ne_nil (some : names ≠ []) :
    total names = (Path.ofPieces names).utf8ByteSize + 1 := by
  have slash : "/".utf8ByteSize = 1 := by decide
  induction names with
  | nil => exact absurd rfl some
  | cons name names ih =>
    rw [total_cons]
    by_cases last : names = []
    · subst last
      rfl
    · rw [ih last, Path.ofPieces, Path.ofPieces, String.intercalate_cons_of_ne_nil last]
      simp only [String.utf8ByteSize_append, slash]
      omega

theorem total_pieces (path : String) : total (Path.pieces path) = path.utf8ByteSize + 1 := by
  rw [total_of_ne_nil (Path.pieces_ne_nil path), Path.ofPieces_pieces]

/-- What a pattern begins with and its pieces are no longer than it is. -/
theorem extent_add_total_le (there : path ≠ "") :
    extent (patternStart path) + total (patternPieces path) ≤ path.utf8ByteSize + 1 := by
  rw [← total_pieces, patternPieces_eq]
  have trims (pieces : List String) : total (trimmed pieces) ≤ total pieces :=
    total_le_of_sublist (trimmed_sublist pieces)
  unfold patternStart
  cases absolute : Path.isAbsolute path with
  | false =>
    have none : extent "." = 0 := by decide
    simpa [none] using trims (Path.pieces path)
  | true =>
    have one : extent "/" = 1 := by decide
    have split := Path.pieces_parts there
    rw [Path.lead_of_isAbsolute absolute] at split
    change _ = "" :: (Path.parts path).body at split
    generalize (Path.parts path).body = rest at split
    have drops := trims (Path.pieces path |>.dropWhile (· == ""))
    have fewer : total ((Path.pieces path).dropWhile (· == "")) ≤ total rest := by
      rw [split]
      simpa using total_le_of_sublist (List.dropWhile_sublist (l := rest) (p := (· == "")))
    simp only [if_true, one]
    rw [split, total_cons]
    rw [split] at drops fewer
    have zero : "".utf8ByteSize = 0 := rfl
    omega

/-! ## Blank paths -/

/-- A blank name behind the dots that a relative path begins with. -/
def Stranded (path : String) (names : List String) : Prop :=
  path = "." ∧ (names.dropWhile (· == ".")).head? = some ""

instance (path : String) (names : List String) : Decidable (Stranded path names) :=
  inferInstanceAs (Decidable (_ ∧ _))

theorem trimmed_pieces_ne_nil (there : path ≠ "") : trimmed (Path.pieces path) ≠ [] := by
  intro none
  obtain ⟨first, rest, split⟩ := List.exists_cons_of_ne_nil (Path.pieces_ne_nil path)
  unfold trimmed at none
  split at none
  case isFalse => exact Path.pieces_ne_nil path none
  case isTrue blank =>
    rw [split] at none blank
    have alone : rest = [] := by
      cases rest with
      | nil => rfl
      | cons second rest => cases none
    subst alone
    have written := Path.ofPieces_pieces path
    rw [split] at written
    have same : first = "" := by simpa using blank
    rw [same] at written
    exact there written.symm

theorem entryPath_proper (piece : IsPiece name) (some : path ≠ "") (away : path ≠ ".") :
    entryPath path name ≠ "" ∧ entryPath path name ≠ "." := by
  rcases written_cases (.inl rfl : entryPath path name = entryPath path name ∨ _) with ⟨here, -⟩ | same
  · exact absurd here away
  · rw [same]
    refine ⟨Path.join_ne_blank some piece.notAbsolute, ?_⟩
    intro dot
    have pieces := pieces_join_eq some piece
    rw [dot] at pieces
    have alone : Path.pieces "." = ["."] := by decide
    rw [alone] at pieces
    have lengths := congrArg List.length pieces
    have upper := List.length_pos_of_ne_nil (trimmed_pieces_ne_nil some)
    simp only [List.length_append, List.length_cons, List.length_nil] at lengths
    omega

/-- No path on the way is blank. -/
theorem spelled_ne_blank (each : ∀ name ∈ names, IsPiece name) (some : path ≠ "")
    (free : ¬Stranded path names) {before after : List String} (split : names = before ++ after) :
    spelled path before ≠ "" := by
  induction names generalizing path before with
  | nil =>
    obtain ⟨rfl, -⟩ := List.append_eq_nil_iff.mp split.symm
    exact some
  | cons name names ih =>
    cases before with
    | nil => exact some
    | cons first before =>
      obtain ⟨rfl, rest⟩ := List.cons.inj split
      have piece := each name (by simp)
      have later : ∀ other ∈ names, IsPiece other := fun other member => each other (by simp [member])
      rw [spelled_cons]
      by_cases here : path = "."
      · subst here
        have next : entryPath "." name = name := rfl
        rw [next]
        by_cases dot : name = "."
        · subst dot
          refine ih later (by decide) ?_ rest
          intro stranded
          exact free ⟨rfl, by simpa using stranded.2⟩
        · refine ih later ?_ (fun stranded => dot stranded.1) rest
          rintro rfl
          exact free ⟨rfl, rfl⟩
      · obtain ⟨next, away⟩ := entryPath_proper piece some here
        exact ih later next (fun stranded => away stranded.1) rest

/-! ## Roots without wildcards -/

/-- Names that can be written behind a path one after the other: with one that is blank a single dot
would become a blank path. -/
structure Writable (path : String) (names : List String) : Prop where
  piece : ∀ name ∈ names, IsPiece name ∧ hasZero name = false
  some : ∀ before after, names = before ++ after → spelled path before ≠ ""
  short : ∀ before after, names = before ++ after → (spelled path before).utf8ByteSize < pathLimit

theorem Writable.next (writable : Writable path (name :: names)) :
    Writable (entryPath path name) names := by
  refine ⟨fun other member => writable.piece other (by simp [member]), ?_, ?_⟩
  · intro before after split
    exact writable.some (name :: before) after (by rw [split]; rfl)
  · intro before after split
    exact writable.short (name :: before) after (by rw [split]; rfl)

/-- A component without wildcards is followed where it leads to something. -/
theorem expand_name {fuel : Nat} {steps : List Step} (writable : Writable path (name :: names))
    (from_ : f.resolve path = .ok at_) (leads : f.tree.follow at_ [name] = .ok place)
    (there : (f.tree.get? place).isSome) :
    f.expand (fuel + 1) path (name.toList.map .char :: steps) =
      f.expand fuel (entryPath path name) steps ∧ f.resolve (entryPath path name) = .ok place := by
  obtain ⟨piece, clean⟩ := writable.piece name (by simp)
  have directory := FileTree.directory_of_follow (by simp) leads
  obtain ⟨-, found⟩ := resolve_written from_ piece clean (.inl rfl)
    (writable.some [name] names rfl) leads
  refine ⟨?_, found⟩
  have looked : (if name == "." || name == ".." then f.isDirectory path
      else f.exists? (entryPath path name)) = true := by
    split
    · exact (isDirectory_of_resolve from_).mpr ⟨writable.short [] _ rfl, directory⟩
    · exact (exists_of_resolve found).mpr ⟨writable.short [name] names rfl, there⟩
  rw [expand, Pattern.literal?_chars]
  dsimp only
  rw [String.ofList_toList, if_pos looked]

/-- Components without wildcards are followed to the directory that they lead to. -/
theorem expand_names {fuel : Nat} {steps : List Step} (writable : Writable path names)
    (from_ : f.resolve path = .ok at_) (leads : f.tree.follow at_ names = .ok place)
    (standing : f.tree.get? place = some .directory) :
    f.expand (fuel + names.length) path (names.map (fun name => name.toList.map .char) ++ steps) =
      f.expand fuel (spelled path names) steps ∧ f.resolve (spelled path names) = .ok place := by
  induction names generalizing path at_ with
  | nil =>
    cases leads
    exact ⟨rfl, from_⟩
  | cons name names ih =>
    have whole : f.tree.follow at_ ([name] ++ names) = .ok place := leads
    obtain ⟨half, first, rest⟩ := FileTree.follow_append_eq_ok.mp whole
    have there : f.tree.get? half = some .directory := by
      by_cases last : names = []
      · subst last
        cases rest
        exact standing
      · exact FileTree.directory_of_follow last rest
    obtain ⟨step, onward⟩ := expand_name (f := f) writable from_ first (by simp [there])
    obtain ⟨later, ends⟩ := ih writable.next onward rest
    exact ⟨step.trans later, ends⟩

theorem hasZero_of_mem_pieces (clean : hasZero path = false) (member : name ∈ Path.pieces path) :
    hasZero name = false := by
  unfold hasZero at clean ⊢
  rw [List.contains_eq_mem, decide_eq_false_iff_not] at clean ⊢
  intro zero
  exact clean (Path.mem_of_mem_pieces member zero)

/-- The pieces of a path that can be looked at can be written one after the other. -/
theorem writable_patternPieces (found : f.locate path = .ok place)
    (free : ¬Stranded (patternStart path) (patternPieces path)) :
    Writable (patternStart path) (patternPieces path) := by
  obtain ⟨some, clean, -⟩ := resolve_eq_ok_iff.mp (resolve_of_locate found)
  have short : path.utf8ByteSize < pathLimit := by
    rw [locate_of_resolve (resolve_of_locate found)] at found
    split at found
    · cases found
    · omega
  have start : patternStart path ≠ "" ∧ (patternStart path).utf8ByteSize < pathLimit := by
    unfold patternStart
    split <;> decide
  have each : ∀ name ∈ patternPieces path, name ∈ Path.pieces path := fun name =>
    mem_pieces_of_mem_patternPieces
  have piece : ∀ name ∈ patternPieces path, IsPiece name := fun name member =>
    Path.isPiece_of_mem_pieces path (each name member)
  have named : ∀ before after, patternPieces path = before ++ after →
      spelled (patternStart path) before ≠ "" := fun before after =>
    spelled_ne_blank piece start.1 free
  refine ⟨fun name member => ⟨piece name member, hasZero_of_mem_pieces clean (each name member)⟩,
    named, ?_⟩
  intro before after split
  by_cases none : before = []
  · subst none
    exact start.2
  · have spelling : (spelled (patternStart path) before).utf8ByteSize <
        extent (patternStart path) + total before := by
      apply size_spelled_lt none
      intro upper lower name inner
      refine ⟨piece name (by simp [split, inner]), named upper (name :: lower ++ after) ?_⟩
      rw [split, inner, List.append_assoc]
    have whole := extent_add_total_le some
    rw [split, total_append] at whole
    omega

/-- A root without wildcards is followed to the directory that it leads to, unless it is stranded. -/
theorem expand_root {fuel : Nat} {root : String} {steps : List Step}
    (located : f.locate root = .ok place) (standing : f.tree.get? place = some .directory)
    (free : ¬Stranded (patternStart root) (patternPieces root)) :
    f.expand (fuel + (patternPieces root).length) (patternStart root)
        ((patternPieces root).map (fun name => name.toList.map .char) ++ steps) =
      f.expand fuel (spelled (patternStart root) (patternPieces root)) steps ∧
    f.resolve (spelled (patternStart root) (patternPieces root)) = .ok place := by
  have found := resolve_of_locate located
  obtain ⟨starts, begins⟩ := resolve_patternStart found
  obtain ⟨before, after, split, blank⟩ := pieces_patternPieces root
  obtain ⟨-, -, way⟩ := resolve_eq_ok_iff.mp found
  have idle : ∀ piece ∈ before ++ after, isIdle piece := by
    intro piece member
    rw [blank piece member]
    rfl
  rw [split, FileTree.follow_idle_around idle begins standing] at way
  exact expand_names (writable_patternPieces located free) starts way standing

/-- Behind a blank path nothing is found. -/
theorem expand_stranded {fuel : Nat} {steps : List Step} (stranded : Stranded path names) :
    f.expand fuel path (names.map (fun name => name.toList.map .char) ++ steps) = [] := by
  obtain ⟨rfl, blank⟩ := stranded
  induction names generalizing fuel with
  | nil => cases blank
  | cons name names ih =>
    cases fuel with
    | zero => rfl
    | succ fuel =>
      rw [List.map_cons, List.cons_append, expand, Pattern.literal?_chars]
      dsimp only
      rw [String.ofList_toList]
      by_cases dot : name = "."
      · subst dot
        have next : entryPath "." "." = "." := rfl
        have dots : ("." == "." || "." == "..") = true := rfl
        rw [if_pos dots, next, ih (by simpa using blank)]
        exact ite_self _
      · have same : name = "" := by simpa [List.dropWhile_cons, dot] using blank
        subst same
        rfl

end TokenDesk.Files
