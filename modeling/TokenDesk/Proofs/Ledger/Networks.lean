import TokenDesk.Proofs.Files.Making
import TokenDesk.Proofs.Ledger.Workspace
import TokenDesk.Proofs.Text.Order
import TokenDesk.Proofs.Text.Runs

/-!
# The networks with a deployment log

The name of a log file names its network and no other (`networkOf?_eq_some_iff`), so the networks that are
listed are those whose log stands in the directory of the deployments. Such a log exists unless its path is
too long to be looked at (`mem_deployedNetworks_iff_exists`). Appends to logs add their networks and no others
(`Appended.mem_deployedNetworks`).
-/

set_option autoImplicit false

namespace TokenDesk.Workspace

open TokenDesk.Text

variable {w : Workspace} {f g : Files} {root : Location} {name network : String}

/-! ## Names of log files -/

theorem networkOf?_eq_some_iff :
    networkOf? name = some network ↔ network ≠ "" ∧ name = deploymentFile network := by
  have text : name = deploymentFile network ↔
      name.toList = deploymentMark.toList ++ network.toList ++ logMark.toList := by
    rw [← String.toList_inj, deploymentFile, String.toList_append, String.toList_append]
  rw [text]
  unfold networkOf?
  constructor
  · intro found
    split at found
    case h_1 => cases found
    case h_2 rest mark =>
      split at found
      case h_1 => cases found
      case h_2 reversed ends =>
        split at found
        case isTrue => cases found
        case isFalse some_ =>
          cases found
          have ends := congrArg List.reverse (after?_eq_some_iff.mp ends)
          rw [List.reverse_reverse, List.reverse_append, List.reverse_reverse] at ends
          rw [after?_eq_some_iff.mp mark, ends, String.toList_ofList, List.append_assoc]
          exact ⟨by simpa using some_, rfl⟩
  · rintro ⟨some_, split⟩
    rw [split, List.append_assoc, after?_append]
    dsimp only
    rw [List.reverse_append, after?_append]
    dsimp only
    rw [if_neg (by simpa using some_), List.reverse_reverse, String.ofList_toList]

theorem mem_deployedNetworks_iff : network ∈ w.deployedNetworks f ↔
    network ≠ "" ∧ deploymentFile network ∈ f.list w.deploymentsDirectory := by
  rw [deployedNetworks, List.mem_mergeSort, List.mem_filterMap]
  constructor
  · rintro ⟨name, listed, names⟩
    obtain ⟨some_, rfl⟩ := networkOf?_eq_some_iff.mp names
    exact ⟨some_, listed⟩
  · rintro ⟨some_, listed⟩
    exact ⟨_, listed, networkOf?_eq_some_iff.mpr ⟨some_, rfl⟩⟩

theorem nodup_list (f : Files) (path : String) : (f.list path).Nodup := by
  unfold Files.list
  split
  · split
    · exact FileTree.nodup_names _ _
    · exact List.nodup_nil
  · exact List.nodup_nil

/-- The networks are listed in the order of their bytes, each once. -/
theorem deployedNetworks_pairwise (w : Workspace) (f : Files) :
    (w.deployedNetworks f).Pairwise fun a b => octets a < octets b := by
  have distinct : (w.deployedNetworks f).Nodup := by
    refine (List.mergeSort_perm _ _).nodup_iff.mpr ((nodup_list f _).filterMap fun a b network one two => ?_)
    rw [(networkOf?_eq_some_iff.mp one).2, (networkOf?_eq_some_iff.mp two).2]
  have sorted : (w.deployedNetworks f).Pairwise fun a b => decide (a ≤ b) = true :=
    List.pairwise_mergeSort (fun a b c one two => by
      simp only [decide_eq_true_eq] at one two ⊢
      exact String.le_trans one two)
      (fun a b => by
        simp only [Bool.or_eq_true, decide_eq_true_eq]
        exact String.le_total a b) _
  refine (sorted.and distinct).imp fun {a b} ordered => octets_lt ?_
  obtain ⟨le, other⟩ := ordered
  rw [decide_eq_true_eq] at le
  by_cases less : a < b
  · exact less
  · exact absurd (String.le_antisymm le (String.not_lt.mp less)) other

/-! ## Logs that exist -/

theorem isName_deploymentFile (nameable : Nameable network) : Path.IsName (deploymentFile network) :=
  (deploymentSlot network nameable).fileNamed

theorem deploymentsDirectory_proper (w : Workspace) :
    w.deploymentsDirectory ≠ "" ∧ w.deploymentsDirectory ≠ "." := by
  have ends : ∃ before, w.deploymentsDirectory = before ++ "deployments" := by
    unfold deploymentsDirectory Path.join
    split
    · exact ⟨"", rfl⟩
    · split
      · exact ⟨w.root, rfl⟩
      · exact ⟨w.root ++ "/", rfl⟩
  obtain ⟨before, same⟩ := ends
  have long : "deployments".length ≤ w.deploymentsDirectory.length := by
    rw [same, String.length_append]
    exact Nat.le_add_left _ _
  refine ⟨?_, ?_⟩ <;>
  · intro short
    rw [short] at long
    exact absurd long (by decide)

theorem above_deploymentLog (nameable : Nameable network) :
    Path.Above w.deploymentsDirectory (w.deploymentLog network).path :=
  Path.above_join w.deploymentsDirectory_proper.1 (isName_deploymentFile nameable)

/-- A log exists just if it stands in the directory and its path is not too long. -/
theorem exists?_deploymentLog_iff (named : f.tree.Named) (nameable : Nameable network) :
    (w.deploymentLog network).exists? f = true ↔
      (w.deploymentLog network).path.utf8ByteSize < pathLimit ∧
        deploymentFile network ∈ f.list w.deploymentsDirectory :=
  Files.exists_join_iff named w.deploymentsDirectory_proper (isName_deploymentFile nameable)

theorem mem_deployedNetworks_iff_exists (named : f.tree.Named) : network ∈ w.deployedNetworks f ↔
    network ≠ "" ∧ Nameable network ∧ ((w.deploymentLog network).exists? f = true ∨
      pathLimit ≤ (w.deploymentLog network).path.utf8ByteSize ∧
        deploymentFile network ∈ f.list w.deploymentsDirectory) := by
  rw [mem_deployedNetworks_iff]
  constructor
  · rintro ⟨some_, listed⟩
    obtain ⟨at_, from_, -, -⟩ := Files.mem_list listed
    have file := (Files.resolve_listed named from_ listed).1.piece
    have nameable : Nameable network := fun slash => by
      refine file ?_
      rw [deploymentFile, String.toList_append, String.toList_append]
      simp [slash]
    refine ⟨some_, nameable, ?_⟩
    rw [exists?_deploymentLog_iff named nameable, ← Nat.not_le]
    by_cases long : pathLimit ≤ (w.deploymentLog network).path.utf8ByteSize
    · exact .inr ⟨long, listed⟩
    · exact .inl ⟨long, listed⟩
  · rintro ⟨some_, nameable, there | ⟨-, listed⟩⟩
    · exact ⟨some_, ((exists?_deploymentLog_iff named nameable).mp there).2⟩
    · exact ⟨some_, listed⟩

/-! ## Appends -/

/-- In a workspace that stands, the names in its directory of deployments are listed if the path of the
directory is not too long. -/
theorem Placed.mem_list_deployments (placed : w.Placed root f) :
    name ∈ f.list w.deploymentsDirectory ↔ w.deploymentsDirectory.utf8ByteSize < pathLimit ∧
      (f.tree.get? (root ++ ["deployments"] ++ [name])).isSome := by
  have proper := deploymentsNamed.proper
  have way (at_ : Location) : f.resolve w.deploymentsDirectory = .ok at_ ↔
      f.tree.follow root ["deployments"] = .ok at_ := by
    rw [deploymentsDirectory, Files.resolve_join_iff (Files.resolve_of_locate placed.found) placed.standing
      deploymentsNamed.piece.notAbsolute (by decide), Path.pieces_of_isPiece deploymentsNamed.piece]
  constructor
  · intro listed
    obtain ⟨at_, from_, -, -⟩ := Files.mem_list listed
    obtain ⟨short, -, there⟩ := (Files.mem_list_iff from_).mp listed
    obtain ⟨-, -, -, same⟩ := (Files.follow_name_eq_ok proper.1 proper.2).mp ((way at_).mp from_)
    cases same
    exact ⟨short, there⟩
  · rintro ⟨short, there⟩
    have standing := placed.sound _ _ there
    have from_ : f.resolve w.deploymentsDirectory = .ok (root ++ ["deployments"]) := by
      rw [way, Files.follow_name_eq_ok proper.1 proper.2]
      exact ⟨placed.standing, by decide, by simp [standing], rfl⟩
    exact (Files.mem_list_iff from_).mpr ⟨short, standing, there⟩

/-- The files after appends to the deployment logs of networks, one after the other. -/
inductive Appended (w : Workspace) (f : Files) : List String → Files → Prop
  | none : Appended w f [] f
  | next {networks : List String} {g h : Files} {network : String} {record : DeploymentRecord}
      {disk : Files.Disk} {count : Nat} (earlier : Appended w f networks g) (some_ : network ≠ "")
      (nameable : Nameable network)
      (appended : (w.deploymentLog network).append record disk g = (.ok count, h)) :
      Appended w f (networks ++ [network]) h

theorem exists_write_of_append {α : Type} {log : AppendLog α} {disk : Files.Disk} {entry : α}
    {count : Nat} (appended : log.append entry disk f = (.ok count, g)) :
    ∃ bytes, f.writeOn disk log.path bytes = (.ok (), g) := by
  unfold AppendLog.append at appended
  split at appended
  case h_1 => cases appended
  case h_2 entries _ =>
    refine ⟨octets (AppendLog.text (entries ++ [(log.format.toJson entry).sorted])), ?_⟩
    dsimp only at appended
    split at appended
    case h_1 => cases appended
    case h_2 stored =>
      cases appended
      exact stored

/-- An append adds the network of its log. -/
theorem mem_deployedNetworks_append {disk : Files.Disk} {record : DeploymentRecord} {count : Nat}
    (placed : w.Placed root f) (some_ : network ≠ "") (nameable : Nameable network)
    (appended : (w.deploymentLog network).append record disk f = (.ok count, g)) :
    w.Placed root g ∧ ∀ other, other ∈ w.deployedNetworks g ↔
      other ∈ w.deployedNetworks f ∨ other = network := by
  let slot := deploymentSlot network nameable
  have after : w.Placed root g := by
    have changed := changed_append placed (show (w.deploymentLog network).path = w.slotPath slot from rfl)
      disk record
    rw [appended] at changed
    exact changed.placed
  obtain ⟨bytes, stored⟩ := exists_write_of_append appended
  obtain ⟨before, split, reached⟩ := pieces_slotPath placed slot
  obtain ⟨allowed, -, tree⟩ := Files.writeOn_below split slot.directoryNamed slot.fileNamed reached
    placed.standing stored
  have short : w.deploymentsDirectory.utf8ByteSize < pathLimit :=
    Files.size_of_allowed (Files.refusal?_of_above (above_deploymentLog nameable)
      w.deploymentsDirectory_proper.1 allowed)
  refine ⟨after, fun other => ?_⟩
  have entry (other : String) : g.tree.get? (root ++ ["deployments"] ++ [deploymentFile other]) =
      if other = network then some (.file bytes)
      else f.tree.get? (root ++ ["deployments"] ++ [deploymentFile other]) := by
    have file : root ++ ["deployments"] ++ [deploymentFile other] =
        root ++ [slot.directory] ++ [slot.file] ↔ other = network := by
      constructor
      · intro same
        exact eq_of_marked (List.singleton_inj.mp (List.append_inj' same rfl).2)
      · rintro rfl
        rfl
    have directory : root ++ ["deployments"] ++ [deploymentFile other] ≠ root ++ [slot.directory] := by
      intro same
      have lengths := congrArg List.length same
      simp at lengths
    rw [tree, if_neg directory]
    by_cases same : other = network
    · rw [if_pos (file.mpr same), if_pos same]
    · rw [if_neg (mt file.mp same), if_neg same]
  rw [mem_deployedNetworks_iff, mem_deployedNetworks_iff, after.mem_list_deployments,
    placed.mem_list_deployments, entry]
  by_cases same : other = network
  · simp [same, some_, short]
  · simp [same]

/-- Appends add the networks of their logs and no others. -/
theorem Appended.mem_deployedNetworks {networks : List String} (appended : Appended w f networks g)
    (placed : w.Placed root f) : w.Placed root g ∧ ∀ network, network ∈ w.deployedNetworks g ↔
      network ∈ w.deployedNetworks f ∨ network ∈ networks := by
  induction appended with
  | none => exact ⟨placed, by simp⟩
  | next earlier some_ nameable appended ih =>
    obtain ⟨between, before⟩ := ih
    obtain ⟨after, listed⟩ := mem_deployedNetworks_append between some_ nameable appended
    exact ⟨after, fun network => by rw [listed, before, List.mem_append, List.mem_singleton, or_assoc]⟩

/-! ## The networks -/

/-- The networks are listed in the order of their bytes, each once. They are those whose log exists, or
stands in the directory of the deployments under a path that is too long to be looked at. After appends in a
workspace without any they are the networks appended to. -/
theorem deployedNetworks_existing (w : Workspace) (f : Files) (named : f.tree.Named) :
    ((w.deployedNetworks f).Pairwise fun a b => octets a < octets b) ∧
      (∀ network, network ∈ w.deployedNetworks f ↔
        network ≠ "" ∧ Nameable network ∧ ((w.deploymentLog network).exists? f = true ∨
          pathLimit ≤ (w.deploymentLog network).path.utf8ByteSize ∧
            deploymentFile network ∈ f.list w.deploymentsDirectory)) ∧
      ∀ path networks g, f.tree.WellFormed → Workspace.open path f = .ok w → w.deployedNetworks f = [] →
        Appended w f networks g →
        ((w.deployedNetworks g).Pairwise fun a b => octets a < octets b) ∧
          ∀ network, network ∈ w.deployedNetworks g ↔ network ∈ networks := by
  refine ⟨w.deployedNetworks_pairwise f, fun network => mem_deployedNetworks_iff_exists named, ?_⟩
  intro path networks g sound opened none appended
  obtain ⟨root, placed⟩ := placed_of_open sound opened
  refine ⟨w.deployedNetworks_pairwise g, fun network => ?_⟩
  rw [(appended.mem_deployedNetworks placed).2, none]
  simp

/-- A record of a contract without an interface. -/
def bareRecord : DeploymentRecord :=
  ⟨"MyToken", "0x5FbDB2315678afecb367f032d93F642f64180aa3", "localhost", ⟨⟨2024, 1, 1⟩, 0, 0⟩,
    "0xf39Fd6e51aad88F6F4ce6aB8827279cffFb92266", []⟩

/-- Files in the directory of the deployments that are no logs of networks. -/
def strayFiles : Files :=
  ⟨⟨[(["deployments"], .directory), (["deployments", "notes.json"], .file []),
    (["deployments", "deployed-contracts.json"], .file []),
    (["deployments", "deployed-contracts..json"], .file []),
    (["deployments", ".tmp8fQx2"], .file [])]⟩, []⟩

/-- The stray files beside the logs of networks. -/
def strayWith (logs : List (String × Octets)) : Files :=
  ⟨⟨logs.map (fun log => (["deployments", deploymentFile log.1], .file log.2)) ++
    strayFiles.tree.entries⟩, []⟩

/-- The first record in a log stores some bytes. -/
theorem exists_first_append (w : Workspace) (network : String) (f : Files) (after : Octets → Files)
    (missing : (w.deploymentLog network).parse Json.read f = .ok [])
    (stored : ∀ bytes, f.writeOn .steady (w.deploymentLog network).path bytes = (.ok (), after bytes)) :
    ∃ bytes, (w.deploymentLog network).append bareRecord .steady f = (.ok 1, after bytes) := by
  rw [AppendLog.append, missing]
  dsimp only
  rw [stored]
  exact ⟨_, rfl⟩

/-- Records for names with dots, with the ending and with the beginning of a log's name. -/
theorem deployedNetworks_existing_dotted : ∃ g,
    Appended ⟨"/"⟩ strayFiles ["node.eu", "copy.json", "deployed-contracts.x"] g ∧
      ∀ network, network ∈ deployedNetworks ⟨"/"⟩ g ↔
        network ∈ ["node.eu", "copy.json", "deployed-contracts.x"] := by
  obtain ⟨a, first⟩ := exists_first_append ⟨"/"⟩ "node.eu" strayFiles
    (fun a => strayWith [("node.eu", a)]) rfl fun _ => rfl
  obtain ⟨b, second⟩ := exists_first_append ⟨"/"⟩ "copy.json" (strayWith [("node.eu", a)])
    (fun b => strayWith [("copy.json", b), ("node.eu", a)]) rfl fun _ => rfl
  obtain ⟨c, third⟩ := exists_first_append ⟨"/"⟩ "deployed-contracts.x"
    (strayWith [("copy.json", b), ("node.eu", a)])
    (fun c => strayWith [("deployed-contracts.x", c), ("copy.json", b), ("node.eu", a)]) rfl fun _ => rfl
  have one : Appended ⟨"/"⟩ strayFiles ["node.eu"] _ := .next .none (by decide) (by decide) first
  have two : Appended ⟨"/"⟩ strayFiles ["node.eu", "copy.json"] _ :=
    .next one (by decide) (by decide) second
  have listed : Appended ⟨"/"⟩ strayFiles ["node.eu", "copy.json", "deployed-contracts.x"] _ :=
    .next two (by decide) (by decide) third
  have sound : strayFiles.tree.WellFormed := FileTree.wellFormed_of_entries (by decide)
  have none : deployedNetworks ⟨"/"⟩ strayFiles = [] := by
    have stray : ∀ name ∈ strayFiles.tree.names ["deployments"], networkOf? name = none := by
      intro name listed
      obtain ⟨e, among, place⟩ := FileTree.exists_of_mem_names listed
      have within : ∀ e ∈ strayFiles.tree.entries, ∀ name, e.1 = ["deployments"] ++ [name] →
          name ∈ ["notes.json", "deployed-contracts.json", "deployed-contracts..json", ".tmp8fQx2"] := by
        simp [strayFiles]
      have each : ∀ name ∈ ["notes.json", "deployed-contracts.json", "deployed-contracts..json",
          ".tmp8fQx2"], networkOf? name = none := by decide
      exact each name (within e among name place)
    rw [deployedNetworks, show strayFiles.list _ = strayFiles.tree.names ["deployments"] from rfl,
      List.filterMap_eq_nil_iff.mpr stray, List.mergeSort_nil]
  exact ⟨_, listed,
    ((deployedNetworks_existing ⟨"/"⟩ strayFiles (by decide)).2.2 "/" _ _ sound rfl none listed).2⟩

/-! ## Paths that are too long -/

/-- The directory `ws`, written with so many dots before it. -/
def dotted : Nat → String
  | 0 => "ws"
  | dots + 1 => "." ++ "/" ++ dotted dots

theorem size_dotted (dots : Nat) : (dotted dots).utf8ByteSize = 2 * dots + 2 := by
  have dot : ".".utf8ByteSize = 1 := by decide
  have slash : "/".utf8ByteSize = 1 := by decide
  induction dots with
  | zero => decide
  | succ dots ih =>
    rw [dotted, String.utf8ByteSize_append, String.utf8ByteSize_append, ih]
    omega

theorem hasZero_dotted (dots : Nat) : Files.hasZero (dotted dots) = false := by
  induction dots with
  | zero => decide
  | succ dots ih =>
    unfold Files.hasZero at ih ⊢
    rw [List.contains_eq_mem, decide_eq_false_iff_not] at ih ⊢
    simpa [dotted] using ih

theorem dotted_ne_blank (dots : Nat) : dotted dots ≠ "" ∧ Path.isAbsolute (dotted dots) = false := by
  cases dots with
  | zero => decide
  | succ dots => exact ⟨by simp [dotted], by simp [dotted, Path.isAbsolute]⟩

/-- The dots lead nowhere. -/
theorem follow_dotted {t : FileTree} {at_ : Location} (standing : t.get? at_ = some .directory)
    (dots : Nat) : t.follow at_ (Path.pieces (dotted dots)) = t.follow at_ ["ws"] := by
  induction dots with
  | zero => rfl
  | succ dots ih =>
    have dot : Path.pieces "." = ["."] := by decide
    rw [dotted, Path.pieces_append_slash, dot, List.singleton_append, FileTree.follow, standing]
    exact ih

def distantFiles : Files :=
  ⟨⟨[(["ws"], .directory), (["ws", "deployments"], .directory),
    (["ws", "deployments", deploymentFile "localhost"], .file (octets "[]"))]⟩, []⟩

/-- With so many dots the directory of the deployments can still be read, but not the log in it. -/
theorem deployedNetworks_distant : distantFiles.tree.Named ∧
    Workspace.open (dotted 2030) distantFiles = .ok ⟨dotted 2030⟩ ∧
    ¬∀ network, network ∈ deployedNetworks ⟨dotted 2030⟩ distantFiles ↔
      network ≠ "" ∧ Nameable network ∧
        (deploymentLog ⟨dotted 2030⟩ network).exists? distantFiles = true := by
  have named : distantFiles.tree.Named := by decide
  have size : (dotted 2030).utf8ByteSize = 4062 := size_dotted 2030
  obtain ⟨there, relative⟩ := dotted_ne_blank 2030
  have resolved : distantFiles.resolve (dotted 2030) = .ok ["ws"] := by
    refine Files.resolve_eq_ok_iff.mpr ⟨there, hasZero_dotted 2030, ?_⟩
    rw [Files.origin, relative]
    exact (follow_dotted (t := distantFiles.tree) rfl 2030).trans rfl
  have directory : distantFiles.isDirectory (dotted 2030) = true := by
    refine Files.isDirectory_iff.mpr ⟨["ws"], ?_, rfl⟩
    rw [Files.locate_of_resolve resolved, if_neg (by rw [size]; decide)]
  have opened : Workspace.open (dotted 2030) distantFiles = .ok ⟨dotted 2030⟩ := by
    rw [Workspace.open, if_pos directory]
  refine ⟨named, opened, fun claimed => ?_⟩
  generalize dotted 2030 = root at *
  -- Between the directory and the log lies the limit, whether or not slashes are put between the names.
  have sizes : "deployments".utf8ByteSize = 11 ∧ (deploymentFile "localhost").utf8ByteSize = 33 := by decide
  have upper := Path.size_join there (by decide : Path.IsPiece "deployments")
  have lower := Path.size_join (deploymentsDirectory_proper ⟨root⟩).1
    (by decide : Path.IsPiece (deploymentFile "localhost"))
  rw [size, sizes.1] at upper
  rw [sizes.2] at lower
  have sound : distantFiles.tree.WellFormed := FileTree.wellFormed_of_entries (by decide)
  obtain ⟨place, placed⟩ := placed_of_open sound opened
  have found := Files.resolve_of_locate placed.found
  rw [resolved] at found
  cases found
  have listed : "localhost" ∈ deployedNetworks ⟨root⟩ distantFiles := by
    refine mem_deployedNetworks_iff.mpr ⟨by decide, placed.mem_list_deployments.mpr ⟨?_, rfl⟩⟩
    exact Nat.lt_of_le_of_lt upper.2 (by decide)
  have there := ((claimed "localhost").mp listed).2.2
  obtain ⟨short, -⟩ := (exists?_deploymentLog_iff named (by decide)).mp there
  have long : 4062 + 11 + 33 ≤ (deploymentLog ⟨root⟩ "localhost").path.utf8ByteSize :=
    Nat.le_trans (Nat.add_le_add_right upper.1 33) lower.1
  exact absurd (Nat.lt_of_le_of_lt long short) (by decide)

end TokenDesk.Workspace
