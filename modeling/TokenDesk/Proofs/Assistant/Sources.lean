import TokenDesk.Assistant.Analyzer
import TokenDesk.Proofs.Files.Canonical

/-!
# Analyzing the sources that are found

The sources of a workspace are found as paths that begin where the root of the workspace is written. The
command for a file goes on from the root. So a source that is found is analyzed where it stands just if
its path leads from the root to the same place: where the root is absolute, or leads from itself to
itself as a single dot does (`analyzes_source_iff`). A file whose whole name is the extension is found but
not analyzed, and neither is one so deep that the system does not look at its absolute path.
-/

set_option autoImplicit false

namespace TokenDesk.Assistant.Analyzer

open TokenDesk.Text
open TokenDesk.Path (isIdle IsPiece IsName)
open TokenDesk.Files (Fits Extends)

variable {f : Files} {w : Workspace} {root at_ place : Location} {names : List String}

/-! ## Names in the container -/

theorem relative?_eq_some_iff : relative? root at_ = some names ↔ at_ = root ++ names := by
  induction root generalizing at_ with
  | nil => simp [relative?]
  | cons name root ih =>
    cases at_ with
    | nil => simp [relative?]
    | cons other at_ =>
      rw [relative?]
      by_cases same : name = other
      · simp [same, ih]
      · simp [same, Ne.symm same]

theorem foldl_names (start : String) (some : names ≠ []) :
    names.foldl (fun path name => path ++ "/" ++ name) start =
      start ++ "/" ++ Path.ofPieces names := by
  induction names generalizing start with
  | nil => exact absurd rfl some
  | cons name names ih =>
    rw [List.foldl_cons]
    by_cases last : names = []
    · simp [last, Path.ofPieces]
    · rw [ih _ last, Path.ofPieces, Path.ofPieces, String.intercalate_cons_of_ne_nil last]
      simp only [String.append_assoc]

/-- A place below the workspace is named by its path behind the mount point. -/
theorem mounted_eq (some : names ≠ []) : mounted names = "/src/" ++ Path.ofPieces names := by
  rw [mounted, foldl_names _ some]
  rfl

theorem mounted_eq_ofPieces (names : List String) :
    mounted names = Path.ofPieces ("" :: "src" :: names) := by
  by_cases none : names = []
  · subst none
    rfl
  · rw [mounted_eq none, Path.ofPieces, Path.ofPieces, String.intercalate_cons_cons,
      String.intercalate_cons_of_ne_nil none]
    simp only [String.append_assoc]
    rfl

theorem pieces_mounted (each : ∀ name ∈ names, IsName name) :
    Path.pieces (mounted names) = "" :: "src" :: names := by
  rw [mounted_eq_ofPieces]
  refine Path.pieces_ofPieces (by simp) fun piece member => ?_
  rcases List.mem_cons.mp member with rfl | rest
  · decide
  · rcases List.mem_cons.mp rest with rfl | deeper
    · decide
    · exact (each piece deeper).piece

/-- Different places have different names. -/
theorem mounted_injective {others : List String} (each : ∀ name ∈ names, IsName name)
    (every : ∀ name ∈ others, IsName name) (same : mounted names = mounted others) :
    names = others := by
  have whole := pieces_mounted each
  rw [same, pieces_mounted every] at whole
  simpa using whole.symm

/-! ## The command -/

/-- A name that ends like a Solidity source has that extension unless it is nothing else. -/
theorem extension?_of_ending {path name : String} {before : List Char}
    (found : Path.fileName? path = some name) (ending : name.toList = before ++ ".sol".toList) :
    Path.extension? path = some "sol" ↔ name ≠ ".sol" := by
  have whole : name = ".sol" ↔ before = [] := by
    rw [← String.toList_inj, ending]
    simp
  have behind : (name.toList.reverse.takeWhile (· != '.')).reverse = ['s', 'o', 'l'] := by
    rw [ending]
    simp
  have length : name.toList.length = before.length + 4 := by
    rw [ending]
    simp
  unfold Path.extension? Path.extensionOf
  rw [found, Option.bind_some, behind, length, Ne, whole]
  cases before with
  | nil => simp
  | cons c before => simp

/-- When a file is analyzed, and as what. -/
theorem command_eq_ok_iff {image file : String} {c : Command} :
    command image w file f = .ok c ↔ Path.extension? file = some "sol" ∧ ∃ root at_ names,
      f.canonicalize w.root = .ok root ∧ f.canonicalize (Path.join w.root file) = .ok at_ ∧
        at_ = root ++ names ∧ c = ⟨containerProgram, ["run", "--rm", "-v",
          Files.absolute root ++ ":" ++ mountPoint, image, "slither", mounted names]⟩ := by
  unfold command
  by_cases solidity : Path.extension? file = some "sol"
  · rw [if_neg (by simp [solidity])]
    cases rootFound : f.canonicalize w.root with
    | error e => simp
    | ok root =>
      dsimp only
      cases found : f.canonicalize (Path.join w.root file) with
      | error e => simp
      | ok at_ =>
        dsimp only
        cases below : relative? root at_ with
        | none =>
          have outside : ∀ names, at_ ≠ root ++ names := fun names inside => by
            rw [relative?_eq_some_iff.mpr inside] at below
            cases below
          simp [outside]
        | some names =>
          have inside := relative?_eq_some_iff.mp below
          subst inside
          simp [solidity, eq_comm]
  · rw [if_pos solidity]
    simp [solidity]

/-- The command for a file analyzes what stands at a place below the workspace. -/
def Analyzes (image : String) (w : Workspace) (file : String) (f : Files) (root place : Location) :
    Prop :=
  ∃ names c, names ≠ [] ∧ place = root ++ names ∧ command image w file f = .ok c ∧
    c.arguments.getLast? = some ("/src/" ++ Path.ofPieces names)

/-- A file is analyzed where it stands if it has the extension and its path leads there from the root, in
sight of the system. -/
theorem analyzes_iff (named : f.tree.Named) {image file : String}
    (rootFound : f.resolve w.root = .ok root) (proper : ∀ name ∈ place, IsName name) :
    Analyzes image w file f root place ↔ Path.extension? file = some "sol" ∧
      (∃ names, names ≠ [] ∧ place = root ++ names) ∧
      f.resolve (Path.join w.root file) = .ok place ∧
      f.InSight w.root ∧ f.InSight (Path.join w.root file) := by
  constructor
  · rintro ⟨names, c, some, below, accepted, last⟩
    obtain ⟨solidity, other, at_, others, opened, canonical, inside, rfl⟩ :=
      command_eq_ok_iff.mp accepted
    obtain ⟨found, rootSeen⟩ := Files.canonicalize_eq_ok_iff.mp opened
    obtain ⟨reached, seen⟩ := Files.canonicalize_eq_ok_iff.mp canonical
    cases rootFound.symm.trans found
    have each : ∀ name ∈ names, IsName name := fun name member =>
      proper name (by simp [below, member])
    have every : ∀ name ∈ others, IsName name := fun name member =>
      named.resolve reached name (by simp [inside, member])
    have same : mounted others = mounted names := by
      rw [mounted_eq some]
      simpa using last
    rw [mounted_injective every each same, ← below] at inside
    exact ⟨solidity, ⟨names, some, below⟩, inside ▸ reached, rootSeen, seen⟩
  · rintro ⟨solidity, ⟨names, some, below⟩, reached, rootSeen, seen⟩
    have opened := Files.canonicalize_eq_ok_iff.mpr ⟨rootFound, rootSeen⟩
    have canonical := Files.canonicalize_eq_ok_iff.mpr ⟨reached, seen⟩
    refine ⟨names, _, some, below,
      command_eq_ok_iff.mpr ⟨solidity, root, place, names, opened, canonical, below, rfl⟩, ?_⟩
    simp [mounted_eq some]

/-! ## The pattern -/

/-- What the pattern of the sources adds to the root. -/
def sourceNames : List String := ["contracts", "**", "*.sol"]

theorem sourceNames_each : ∀ name ∈ sourceNames, IsPiece name ∧ name ≠ "" := by
  decide

theorem sources_eq_ok_iff {paths : List String} : sources w f = .ok paths ↔
    f.glob (sourceNames.foldl Path.join w.root) = .ok paths := by
  change (f.glob (sourceNames.foldl Path.join w.root)).mapError _ = .ok paths ↔ _
  cases f.glob (sourceNames.foldl Path.join w.root) with
  | ok found => exact ⟨fun given => by cases given; rfl, fun given => by cases given; rfl⟩
  | error e => exact ⟨fun given => (by cases given), fun given => (by cases given)⟩

/-- The steps for any source below the contracts directory. -/
def sourceSteps : List Files.Step :=
  ["contracts".toList.map .char, [.anyDepth], .anyRun :: ".sol".toList.map .char]

theorem tokens_sourceNames : sourceNames.mapM Pattern.tokens = .ok sourceSteps := by
  rfl

theorem fits_sourceSteps (fits : Fits sourceSteps names) :
    ∃ directories name before, (∀ other ∈ directories, IsName other) ∧
      name.toList = before ++ ".sol".toList ∧ names = "contracts" :: directories ++ [name] := by
  unfold sourceSteps at fits
  cases fits with
  | wild several _ _ => cases several.1
  | name only rest =>
    rw [Pattern.literal?_chars] at only
    cases only
    cases rest with
    | name only _ => cases only
    | wild several _ _ => exact absurd rfl several.2
    | @depth _ directories _ each rest =>
      cases rest with
      | name only _ => cases only
      | @wild _ _ name _ _ accepted rest =>
        cases rest
        obtain ⟨before, ending⟩ := Pattern.accepts_ending.mp accepted
        exact ⟨directories, name, before, each, ending, rfl⟩

/-! ## How a source is found -/

/-- Where the pattern of the sources begins. -/
def start (w : Workspace) : String :=
  if Path.isAbsolute w.root then "/" else "."

theorem resolve_start (opened : f.resolve w.root = .ok root) :
    f.resolve (start w) = .ok (f.origin w.root) ∧
      f.tree.get? (f.origin w.root) = some .directory :=
  Files.resolve_patternStart opened

/-- How a source is found: by names that fit the pieces of the root and go on to a source. -/
structure Found (w : Workspace) (f : Files) (p : String) (place : Location)
    (way leading directories : List String) (name : String) : Prop where
  root : ∃ before after, Path.pieces w.root = before ++ way ++ after ∧
    ∀ piece ∈ before ++ after, isIdle piece
  fits : ∃ steps, way.mapM Pattern.tokens = .ok steps ∧ Fits steps leading
  proper : ∀ other ∈ "contracts" :: directories ++ [name], IsName other
  ending : ∃ before, name.toList = before ++ ".sol".toList
  goes : Extends (start w) p (leading ++ ("contracts" :: directories ++ [name]))
  there : f.resolve p = .ok place

theorem isName_of_ending {name : String} {before : List Char} (piece : IsPiece name)
    (ending : name.toList = before ++ ".sol".toList) : IsName name := by
  have other (text : String) (short : text.toList.getLast? ≠ some 'l') : name ≠ text := by
    rintro rfl
    rw [ending] at short
    simp at short
  refine ⟨piece, ?_, other ".." (by decide)⟩
  simp [isIdle, other "" (by decide), other "." (by decide)]

theorem found_of_mem_sources (named : f.tree.Named) {paths : List String} {p : String}
    (opened : f.resolve w.root = .ok root) (found : sources w f = .ok paths) (member : p ∈ paths) :
    ∃ place way leading directories name, Found w f p place way leading directories name := by
  have blank : w.root ≠ "" := (Files.resolve_eq_ok_iff.mp opened).1
  have begins : Files.patternStart (sourceNames.foldl Path.join w.root) = start w := by
    rw [Files.patternStart, start,
      Path.isAbsolute_join_all blank fun name among => (sourceNames_each name among).1]
  obtain ⟨steps, names, place, read, fits, goes, there⟩ := Files.mem_glob named
    (begins ▸ (resolve_start opened).1) (sources_eq_ok_iff.mp found) member
  obtain ⟨before, way, after, split, idle, behind⟩ :=
    Files.patternPieces_join_all blank sourceNames_each (by decide)
  rw [behind, List.mapM_append, tokens_sourceNames] at read
  cases first : way.mapM Pattern.tokens with
  | error e =>
    rw [first] at read
    cases read
  | ok upper =>
    rw [first] at read
    cases read
    obtain ⟨leading, rest, rfl, left, right⟩ := fits.append
    obtain ⟨directories, name, front, each, ending, rfl⟩ := fits_sourceSteps right
    have last := isName_of_ending (goes.isPiece name (by simp)) ending
    have proper : ∀ other ∈ "contracts" :: directories ++ [name], IsName other := by
      intro other among
      rcases List.mem_append.mp among with early | late
      · rcases List.mem_cons.mp early with rfl | below
        · exact ⟨by decide, by decide⟩
        · exact each other below
      · rwa [List.mem_singleton.mp late]
    exact ⟨place, way, leading, directories, name, ⟨before, after, split, idle⟩,
      ⟨upper, first, left⟩, proper, ⟨front, ending⟩, begins ▸ goes, there⟩

variable {p name : String} {way leading directories : List String}

theorem start_ne_blank (w : Workspace) : start w ≠ "" := by
  unfold start
  split <;> decide

theorem Found.fileName? (found : Found w f p place way leading directories name) :
    Path.fileName? p = some name := by
  have goes := found.goes
  rw [← List.append_assoc] at goes
  obtain ⟨before, split⟩ := goes.pieces_eq (start_ne_blank w)
  exact Path.fileName?_of_pieces (found.proper name (by simp)) split

theorem Found.isAbsolute_eq (found : Found w f p place way leading directories name) :
    Path.isAbsolute p = Path.isAbsolute w.root := by
  rw [found.goes.isAbsolute (start_ne_blank w), start]
  cases Path.isAbsolute w.root <;> decide

/-- The names lead to the source from where the root is followed from. -/
theorem Found.leads (found : Found w f p place way leading directories name)
    (opened : f.resolve w.root = .ok root) :
    f.tree.follow (f.origin w.root) (leading ++ ("contracts" :: directories ++ [name])) =
      .ok place :=
  found.goes.follow_of_resolve (resolve_start opened).1 found.there

/-- Without wildcards in the root the names are its pieces. -/
theorem Found.leading_eq (found : Found w f p place way leading directories name)
    (plain : Pattern.IsPlain w.root) : leading = way := by
  obtain ⟨before, after, split, -⟩ := found.root
  obtain ⟨steps, read, fits⟩ := found.fits
  have each : ∀ text ∈ way, Pattern.IsPlain text := fun text member c among =>
    plain c (Path.mem_of_mem_pieces (by simp [split, member]) among)
  rw [Pattern.mapM_tokens_of_isPlain each] at read
  cases read
  exact fits.eq_of_chars

/-- Then the source stands below the root, whose own way the names begin with. -/
theorem Found.place_eq (found : Found w f p place way leading directories name)
    (plain : Pattern.IsPlain w.root) (opened : f.resolve w.root = .ok root)
    (standing : f.tree.get? root = some .directory) :
    place = root ++ ("contracts" :: directories ++ [name]) ∧
      f.tree.follow root ("contracts" :: directories ++ [name]) = .ok place := by
  obtain ⟨before, after, split, idle⟩ := found.root
  obtain ⟨-, -, reached⟩ := Files.resolve_eq_ok_iff.mp opened
  rw [split, FileTree.follow_idle_around idle (resolve_start opened).2 standing] at reached
  have leads := found.leads opened
  rw [found.leading_eq plain, FileTree.follow_append_eq_ok] at leads
  obtain ⟨half, first, onward⟩ := leads
  rw [reached] at first
  cases first
  exact ⟨FileTree.follow_names found.proper onward, onward⟩

/-- The path behind the root leads to the same source just if the root leads from itself to itself. -/
theorem Found.resolve_join_iff (found : Found w f p place way leading directories name)
    (plain : Pattern.IsPlain w.root) (opened : f.resolve w.root = .ok root)
    (standing : f.tree.get? root = some .directory) (relative : Path.isAbsolute w.root = false) :
    f.resolve (Path.join w.root p) = .ok place ↔
      f.tree.follow root (Path.pieces w.root) = .ok root := by
  obtain ⟨below, onward⟩ := found.place_eq plain opened standing
  obtain ⟨-, clean, -⟩ := Files.resolve_eq_ok_iff.mp found.there
  obtain ⟨before, after, split, idle⟩ := found.root
  have here : Path.pieces (start w) = ["."] := by
    rw [start, if_neg (by simp [relative])]
    decide
  have written := found.goes.follow (start_ne_blank w) f.tree root
  rw [here, found.leading_eq plain, List.singleton_append,
    FileTree.follow_skip (by decide) (by simp)] at written
  -- Behind the root the path goes on by the way through the root once more.
  rw [Files.resolve_join_iff opened standing (found.isAbsolute_eq.trans relative) clean, written,
    split, FileTree.follow_idle_around idle standing standing, FileTree.follow_append_eq_ok]
  constructor
  · rintro ⟨half, first, rest⟩
    have again := FileTree.follow_names found.proper rest
    rw [below] at again
    rwa [← List.append_cancel_right again] at first
  · intro stays
    exact ⟨root, stays, onward⟩

/-! ## Sources that are analyzed -/

theorem isDirectory_of_open {path : String} (opened : Workspace.open path f = .ok w) :
    f.isDirectory w.root = true := by
  unfold Workspace.open at opened
  split at opened
  case isTrue directory =>
    cases opened
    exact directory
  case isFalse => cases opened

theorem resolve_of_open {path : String} (opened : Workspace.open path f = .ok w) :
    ∃ root, f.resolve w.root = .ok root ∧ f.tree.get? root = some .directory :=
  Files.resolve_of_isDirectory (isDirectory_of_open opened)

/-- A source that is found is analyzed where it stands just if it has a name before the extension, its
path leads there from the root and the system looks at every name on the way. Unless the root holds
wildcards, it leads there just where the root is absolute or leads from itself to itself. -/
theorem analyzes_source_iff (named : f.tree.Named) (image : String) {path : String}
    {paths : List String} (opened : Workspace.open path f = .ok w)
    (found : sources w f = .ok paths) (member : p ∈ paths) : ∃ root place name, f.resolve w.root = .ok root ∧
      f.resolve p = .ok place ∧ Path.fileName? p = some name ∧
      (Analyzes image w p f root place ↔ name ≠ ".sol" ∧
        (∃ names, names ≠ [] ∧ place = root ++ names) ∧
          f.resolve (Path.join w.root p) = .ok place ∧
          f.InSight w.root ∧ f.InSight (Path.join w.root p)) ∧
      (Pattern.IsPlain w.root → (Analyzes image w p f root place ↔ name ≠ ".sol" ∧
        (Path.isAbsolute w.root ∨ f.tree.follow root (Path.pieces w.root) = .ok root) ∧
          f.InSight w.root ∧ f.InSight (Path.join w.root p))) := by
  obtain ⟨root, begins, standing⟩ := resolve_of_open opened
  obtain ⟨place, way, leading, directories, name, source⟩ :=
    found_of_mem_sources named begins found member
  obtain ⟨before, ending⟩ := source.ending
  have analyzed : Analyzes image w p f root place ↔ _ :=
    analyzes_iff named begins (named.resolve source.there)
  rw [extension?_of_ending source.fileName? ending] at analyzed
  refine ⟨root, place, name, begins, source.there, source.fileName?, analyzed, fun plain => ?_⟩
  have below : ∃ names, names ≠ [] ∧ place = root ++ names :=
    ⟨_, by simp, (source.place_eq plain begins standing).1⟩
  rw [analyzed, and_iff_right below]
  cases absolute : Path.isAbsolute w.root with
  | true =>
    have alone : Path.join w.root p = p := by
      rw [Path.join, if_pos (by simp [source.isAbsolute_eq, absolute])]
    simp [alone, source.there]
  | false => simp [source.resolve_join_iff plain begins standing absolute]

/-- A workspace with one source; the working directory holds the workspace. -/
def oneSource : Files :=
  ⟨⟨[(["ws"], .directory), (["ws", "contracts"], .directory),
    (["ws", "contracts", "A.sol"], .file [])]⟩, []⟩

theorem oneSource_named : oneSource.tree.Named := by
  decide

theorem eq_ok_iff_toOption {found : Except Error (List String)} {paths : List String} :
    found = .ok paths ↔ found.toOption = some paths := by
  cases found <;> simp [Except.toOption]

theorem sources_oneSource : sources ⟨"ws"⟩ oneSource = .ok ["ws/contracts/A.sol"] ∧
    sources ⟨"/ws"⟩ oneSource = .ok ["/ws/contracts/A.sol"] := by
  rw [eq_ok_iff_toOption, eq_ok_iff_toOption]
  decide +kernel

/-- Opened by its absolute path, the workspace has a source that is analyzed. -/
theorem analyzes_source_absolute : ∃ place, oneSource.resolve "/ws/contracts/A.sol" = .ok place ∧
    Analyzes defaultImage ⟨"/ws"⟩ "/ws/contracts/A.sol" oneSource ["ws"] place := by
  have opened : Workspace.open "/ws" oneSource = .ok ⟨"/ws"⟩ := rfl
  obtain ⟨root, place, name, begins, there, named, -, plain⟩ :=
    analyzes_source_iff oneSource_named defaultImage opened sources_oneSource.2
      (List.mem_singleton_self _)
  have top : oneSource.resolve "/ws" = .ok ["ws"] := by rfl
  cases top.symm.trans begins
  have last : Path.fileName? "/ws/contracts/A.sol" = some "A.sol" := by rfl
  cases last.symm.trans named
  have rootSeen : oneSource.InSight "/ws" := Files.inSight_of_short (by decide)
  have seen : oneSource.InSight (Path.join "/ws" "/ws/contracts/A.sol") :=
    Files.inSight_of_short (by decide)
  exact ⟨place, there, (plain (by decide)).mpr ⟨by decide, .inl (by decide), rootSeen, seen⟩⟩

/-- Opened by its relative path, it has the same source under a path that is not found from the root. -/
theorem source_found_not_analyzed : Workspace.open "ws" oneSource = .ok ⟨"ws"⟩ ∧
    sources ⟨"ws"⟩ oneSource = .ok ["ws/contracts/A.sol"] ∧
    command defaultImage ⟨"ws"⟩ "ws/contracts/A.sol" oneSource =
      .error (.source "ws/ws/contracts/A.sol" .notFound) :=
  ⟨rfl, sources_oneSource.1, rfl⟩

end TokenDesk.Assistant.Analyzer
