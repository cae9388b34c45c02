import TokenDesk.Proofs.Assistant.Sources
import TokenDesk.Proofs.Files.Order
import TokenDesk.Proofs.Files.Plain

/-!
# Which sources are found

The root of the workspace is written into the pattern of the sources as it is. Where it holds no
wildcards, what is found is what stands below its contracts directory under the name of a source
(`sources_of_plain`). Where it does, the pattern may miss it; and what stands there may be a directory
(`source_lost_and_directory_found`).
-/

set_option autoImplicit false

namespace TokenDesk.Assistant.Analyzer

open TokenDesk.Text
open TokenDesk.Path (isIdle IsPiece IsName)
open TokenDesk.Files (Extends Stranded entryPath spelled patternStart patternPieces)

variable {f : Files} {w : Workspace} {root : Location} {base p name : String} {directories : List String}

/-! ## The pattern is one -/

/-- The pattern of the sources: the root, and behind a slash what it adds. -/
theorem foldl_sourceNames {root : String} (there : root ≠ "") :
    ∃ base, sourceNames.foldl Path.join root = base ++ "contracts/**/*.sol" ∧
      (base = root ∨ base = root ++ "/") := by
  have behind (base : String) : ["**", "*.sol"].foldl Path.join (base ++ "contracts") =
      base ++ "contracts/**/*.sol" := by
    have first : Path.join (base ++ "contracts") "**" = base ++ "contracts" ++ "/" ++ "**" :=
      Path.join_open (by decide) (by simp) (by simp)
    have second : Path.join (base ++ "contracts" ++ "/" ++ "**") "*.sol" =
        base ++ "contracts" ++ "/" ++ "**" ++ "/" ++ "*.sol" :=
      Path.join_open (by decide) (by simp) (by simp)
    rw [List.foldl_cons, List.foldl_cons, List.foldl_nil, first, second]
    simp only [String.append_assoc]
    rfl
  change ∃ base, ["**", "*.sol"].foldl Path.join (Path.join root "contracts") = _ ∧ _
  by_cases slash : root.toList.getLast? = some '/'
  · rw [Path.join_closed (by decide) there slash]
    exact ⟨root, behind root, .inl rfl⟩
  · rw [Path.join_open (by decide) there slash]
    exact ⟨root ++ "/", behind _, .inr rfl⟩

theorem exists_tokens_of_plain {root : String} (there : root ≠ "") (plain : Pattern.IsPlain root) :
    ∃ tokens, Pattern.tokens (sourceNames.foldl Path.join root) = .ok tokens := by
  obtain ⟨base, written, same⟩ := foldl_sourceNames there
  have each : ∀ c ∈ base.toList, c ≠ '?' ∧ c ≠ '*' ∧ c ≠ '[' := by
    intro c member
    rcases same with rfl | rfl
    · exact plain c member
    · rcases List.mem_append.mp (String.toList_append ▸ member) with early | late
      · exact plain c early
      · rw [List.mem_singleton.mp late]
        decide
  obtain ⟨later, read⟩ :=
    Pattern.exists_tokensFrom_append each "contracts/**/*.sol".toList 19 0 true
  have length : (base ++ "contracts/**/*.sol").length + 1 = 19 + base.toList.length := by
    rw [String.length_append, String.length_toList, show "contracts/**/*.sol".length = 18 from rfl]
    omega
  rw [written, Pattern.tokens, length, String.toList_append, read]
  exact ⟨_, rfl⟩

/-- Without wildcards in the root the pattern is followed along its pieces. -/
theorem sources_eq_sort (there : w.root ≠ "") (plain : Pattern.IsPlain w.root) :
    sources w f = .ok (Path.sort (f.expand (4 + (patternPieces w.root).length) (patternStart w.root)
      ((patternPieces w.root).map (fun name => name.toList.map .char) ++ sourceSteps))) := by
  obtain ⟨tokens, whole⟩ := exists_tokens_of_plain there plain
  have pieces := Files.patternPieces_join_all_eq there sourceNames_each (by decide)
  have each : ∀ text ∈ patternPieces w.root, Pattern.IsPlain text := by
    intro text member c among
    exact plain c (Path.mem_of_mem_pieces (Files.mem_pieces_of_mem_patternPieces member) among)
  have absolute : Path.isAbsolute (sourceNames.foldl Path.join w.root) = Path.isAbsolute w.root :=
    Path.isAbsolute_join_all there fun name member => (sourceNames_each name member).1
  rw [sources_eq_ok_iff, Files.glob, whole, pieces, List.mapM_append,
    Pattern.mapM_tokens_of_isPlain each, tokens_sourceNames, absolute]
  change Except.ok (Path.sort (f.expand (List.length _ + 1) (patternStart w.root) _)) = _
  have fuel : (List.map (fun name => List.map Pattern.Token.char name.toList)
      (patternPieces w.root) ++ sourceSteps).length + 1 = 4 + (patternPieces w.root).length := by
    rw [List.length_append, List.length_map, show sourceSteps.length = 3 from rfl]
    omega
  rw [fuel]

/-! ## The sources below a root -/

/-- The names on the way from the root to a source. -/
def sourceWay (directories : List String) (name : String) : List String :=
  "contracts" :: directories ++ [name]

/-- Something stands below the contracts directory of a root under a name that ends as a source does,
and the path of its directory can be looked at. -/
structure IsSource (f : Files) (root : Location) (base : String) (directories : List String)
    (name : String) : Prop where
  ending : ∃ before, name.toList = before ++ ".sol".toList
  there : (f.tree.get? (root ++ sourceWay directories name)).isSome
  readable : (spelled base ("contracts" :: directories)).utf8ByteSize < pathLimit

theorem expand_sourceSteps : f.expand 4 base sourceSteps =
    if f.isDirectory (entryPath base "contracts") then
      (f.below (f.tree.entries.length + 1) (entryPath base "contracts")).filter fun entry =>
        Pattern.accepts (.anyRun :: ".sol".toList.map .char) (Files.nameOf entry)
    else [] := by
  have dots : ("contracts" == "." || "contracts" == "..") = false := rfl
  have wild : Pattern.literal? [.anyDepth] = none := rfl
  have alone (entry : String) : f.expand 2 entry [] = [entry] := rfl
  unfold sourceSteps
  rw [Files.expand, Pattern.literal?_chars]
  dsimp only
  rw [String.ofList_toList, dots, if_neg Bool.false_ne_true]
  cases directory : f.isDirectory (entryPath base "contracts") with
  | false =>
    split
    · rw [Files.expand, wild]
      simp [directory]
    · rfl
  | true =>
    have exists_ : f.exists? (entryPath base "contracts") = true := by
      unfold Files.isDirectory at directory
      unfold Files.exists?
      rw [eq_of_beq directory]
      rfl
    rw [if_pos exists_, Files.expand, wild]
    dsimp only
    rw [directory, Bool.not_true, if_neg Bool.false_ne_true]
    change List.flatMap (fun entry => f.expand 2 entry []) _ = _
    simp only [alone, List.flatMap_singleton', if_true]

/-- Everything that ends as a source is found below the contracts directory, and nothing else. -/
theorem mem_expand_sourceSteps_iff (named : f.tree.Named) (sound : f.tree.WellFormed)
    (from_ : f.resolve base = .ok root) (standing : f.tree.get? root = some .directory) :
    p ∈ f.expand 4 base sourceSteps ↔ ∃ directories name,
      IsSource f root base directories name ∧ p = spelled base (sourceWay directories name) := by
  have way (directories : List String) (name : String) : root ++ sourceWay directories name =
      root ++ ["contracts"] ++ (directories ++ [name]) := by
    simp [sourceWay]
  have accepts {place : Location} {directories : List String} {name : String}
      (found : f.resolve (entryPath base "contracts") = .ok place)
      (there : (f.tree.get? (place ++ (directories ++ [name]))).isSome) :
      Pattern.accepts (.anyRun :: ".sol".toList.map .char)
          (Files.nameOf (spelled (entryPath base "contracts") (directories ++ [name]))) = true ↔
        ∃ before, name.toList = before ++ ".sol".toList := by
    rw [Files.nameOf_spelled named sound found there, Pattern.accepts_ending]
  rw [expand_sourceSteps, List.mem_ite_nil_right]
  constructor
  · rintro ⟨directory, member⟩
    obtain ⟨place, found, standing⟩ := Files.resolve_of_isDirectory directory
    have goes : Extends base (entryPath base "contracts") ([] ++ ["contracts"]) :=
      .step .refl (by decide) (.inl rfl) (Files.resolve_eq_ok_iff.mp found).1
    have same : place = root ++ ["contracts"] :=
      FileTree.follow_names (by decide) (goes.follow_of_resolve from_ found)
    obtain ⟨below, accepted⟩ := List.mem_filter.mp member
    obtain ⟨directories, name, rfl, -, there, readable⟩ :=
      (Files.mem_below_iff named sound found).mp below
    refine ⟨directories, name, ⟨(accepts found there).mp accepted, ?_, readable⟩, rfl⟩
    rwa [way, ← same]
  · rintro ⟨directories, name, ⟨ending, there, readable⟩, rfl⟩
    rw [way] at there
    have above := sound.directory_above (by simp) there
    have begins : (f.tree.get? (root ++ ["contracts"])).isSome := by simp [above]
    obtain ⟨-, -, found, -⟩ := Files.resolve_entry named from_ standing begins
    have each : ∀ other ∈ directories, IsName other := fun other member =>
      named.of_isSome there other (by simp [member])
    have short : (entryPath base "contracts").utf8ByteSize < pathLimit :=
      Nat.lt_of_le_of_lt (Files.size_le_spelled each) readable
    refine ⟨(Files.isDirectory_of_resolve found).mpr ⟨short, above⟩, List.mem_filter.mpr
      ⟨(Files.mem_below_iff named sound found).mpr ⟨directories, name, rfl, ?_, there, readable⟩,
        (accepts found there).mpr ending⟩⟩
    have deep := sound.length_le there
    simp only [List.length_append, List.length_cons] at deep
    omega

theorem nodup_expand_sourceSteps (named : f.tree.Named) :
    (f.expand 4 base sourceSteps).Nodup := by
  rw [expand_sourceSteps]
  split
  case isTrue directory =>
    obtain ⟨place, found, -⟩ := Files.resolve_of_isDirectory directory
    exact (Files.nodup_below named found).filter _
  case isFalse => exact List.nodup_nil

theorem IsSource.resolve (named : f.tree.Named) (sound : f.tree.WellFormed)
    (from_ : f.resolve base = .ok root) (source : IsSource f root base directories name) :
    f.resolve (spelled base (sourceWay directories name)) =
      .ok (root ++ sourceWay directories name) :=
  (Files.resolve_spelled named sound from_ source.there).1

/-- Where the root holds no wildcards, the sources are all entries of the contracts directory that end
as sources do, at any depth, each once and in the order of paths; each path leads where its entry
stands. They are regular files just if no directory is named like a source. Only behind a root that
begins with a dot and two slashes nothing is found. -/
theorem sources_of_plain (named : f.tree.Named) (sound : f.tree.WellFormed) {path : String}
    (opened : Workspace.open path f = .ok w) (plain : Pattern.IsPlain w.root) :
    ∃ root paths, f.resolve w.root = .ok root ∧ sources w f = .ok paths ∧ paths.Nodup ∧
      (paths.Pairwise fun a b => Path.precedes (Path.components a) (Path.components b)) ∧
      if Stranded (patternStart w.root) (patternPieces w.root) then paths = []
      else ∃ base, f.resolve base = .ok root ∧
        (∀ p, p ∈ paths ↔ ∃ directories name, IsSource f root base directories name ∧
          p = spelled base (sourceWay directories name)) ∧
        (∀ directories name, IsSource f root base directories name →
          f.resolve (spelled base (sourceWay directories name)) =
            .ok (root ++ sourceWay directories name)) ∧
        ((∀ p ∈ paths, ∃ place bytes, f.resolve p = .ok place ∧
            f.tree.get? place = some (.file bytes)) ↔
          ∀ directories name, IsSource f root base directories name →
            f.tree.get? (root ++ sourceWay directories name) ≠ some .directory) := by
  obtain ⟨root, located, standing⟩ := Files.isDirectory_iff.mp (isDirectory_of_open opened)
  have found := Files.resolve_of_locate located
  have sorted := sources_eq_sort (f := f) (Files.resolve_eq_ok_iff.mp found).1 plain
  by_cases stranded : Stranded (patternStart w.root) (patternPieces w.root)
  · rw [Files.expand_stranded stranded, Path.sort, List.mergeSort_nil] at sorted
    refine ⟨root, [], found, sorted, List.nodup_nil, List.Pairwise.nil, ?_⟩
    rw [if_pos stranded]
  · obtain ⟨same, from_⟩ := Files.expand_root located standing stranded
    rw [same] at sorted
    have all (p : String) : p ∈ Path.sort (f.expand 4 _ sourceSteps) ↔ _ :=
      List.mem_mergeSort.trans (mem_expand_sourceSteps_iff named sound from_ standing)
    refine ⟨root, _, found, sorted, ?_, Path.sort_pairwise _, ?_⟩
    · exact (List.mergeSort_perm _ _).nodup_iff.mpr (nodup_expand_sourceSteps named)
    · rw [if_neg stranded]
      refine ⟨_, from_, all, fun directories name => IsSource.resolve named sound from_, ?_⟩
      constructor
      · intro regular directories name source directory
        obtain ⟨place, bytes, leads, file⟩ := regular _ ((all _).mpr ⟨directories, name, source, rfl⟩)
        rw [source.resolve named sound from_] at leads
        cases leads
        rw [directory] at file
        cases file
      · intro files p member
        obtain ⟨directories, name, source, rfl⟩ := (all p).mp member
        obtain ⟨entry, there⟩ := Option.isSome_iff_exists.mp source.there
        cases entry with
        | file bytes => exact ⟨_, bytes, source.resolve named sound from_, there⟩
        | directory => exact absurd there (files directories name source)

/-- All that the workspace with one source has is found, and it is a regular file. -/
theorem sources_of_plain_one : ∃ base, oneSource.resolve base = .ok ["ws"] ∧
    (∀ p, p ∈ ["ws/contracts/A.sol"] ↔ ∃ directories name,
      IsSource oneSource ["ws"] base directories name ∧
        p = spelled base (sourceWay directories name)) := by
  have sound : oneSource.tree.WellFormed := FileTree.wellFormed_of_entries (by decide)
  have opened : Workspace.open "ws" oneSource = .ok ⟨"ws"⟩ := rfl
  obtain ⟨root, paths, leads, found, -, -, all⟩ :=
    sources_of_plain oneSource_named sound opened (by decide)
  have top : oneSource.resolve "ws" = .ok ["ws"] := rfl
  cases top.symm.trans leads
  cases sources_oneSource.1.symm.trans found
  rw [if_neg (by decide)] at all
  obtain ⟨base, from_, exact_, -, -⟩ := all
  exact ⟨base, from_, exact_⟩

/-- A workspace whose name is a pattern for another name. -/
def bracketed : Files :=
  ⟨⟨[(["ws[1]"], .directory), (["ws[1]", "contracts"], .directory),
    (["ws[1]", "contracts", "A.sol"], .file [])]⟩, []⟩

/-- A workspace with a directory that is named like a source. -/
def oneDirectory : Files :=
  ⟨⟨[(["ws"], .directory), (["ws", "contracts"], .directory),
    (["ws", "contracts", "A.sol"], .directory)]⟩, []⟩

/-- The source of a workspace with brackets in its name is not found, and a directory is found as one.
-/
theorem source_lost_and_directory_found : Workspace.open "ws[1]" bracketed = .ok ⟨"ws[1]"⟩ ∧
    bracketed.readBytes "ws[1]/contracts/A.sol" = .ok [] ∧ sources ⟨"ws[1]"⟩ bracketed = .ok [] ∧
    Workspace.open "ws" oneDirectory = .ok ⟨"ws"⟩ ∧
    oneDirectory.isDirectory "ws/contracts/A.sol" = true ∧
    sources ⟨"ws"⟩ oneDirectory = .ok ["ws/contracts/A.sol"] := by
  rw [eq_ok_iff_toOption, eq_ok_iff_toOption]
  exact ⟨rfl, rfl, by decide +kernel, rfl, rfl, by decide +kernel⟩

end TokenDesk.Assistant.Analyzer
