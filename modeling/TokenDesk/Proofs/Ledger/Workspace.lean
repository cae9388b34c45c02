import TokenDesk.Ledger.Workspace
import TokenDesk.Proofs.Ledger.Log

/-!
# The files of a workspace

The logs and the summary of a workspace stand in fixed places below its root, each network's logs in
places of their own. A write to one place changes the content of no other (`Changed.content?_eq`).
-/

set_option autoImplicit false

namespace TokenDesk

open TokenDesk.Text
open TokenDesk.Json
open TokenDesk.Files (refusal?)

/-- A file in one of the directories of a workspace. -/
structure Slot where
  directory : String
  file : String
  directoryNamed : Path.IsName directory
  fileNamed : Path.IsName file

namespace Workspace

variable {w : Workspace} {f g : Files} {root : Location} {slot other : Slot} {bytes : Octets}

def slotPath (w : Workspace) (slot : Slot) : String :=
  Path.join (Path.join w.root slot.directory) slot.file

/-- Where the file of a slot stands, if the workspace stands at `root`. -/
def slotPlace (root : Location) (slot : Slot) : Location :=
  root ++ [slot.directory] ++ [slot.file]

theorem slotPlace_ne (different : (other.directory, other.file) ≠ (slot.directory, slot.file)) :
    slotPlace root other ≠ slotPlace root slot := by
  intro same
  unfold slotPlace at same
  obtain ⟨above, files⟩ := List.append_inj' same rfl
  obtain ⟨-, directories⟩ := List.append_inj' above rfl
  exact different (by simp_all)

/-- The files are a tree in which the directory of the workspace stands at `root`. -/
structure Placed (w : Workspace) (root : Location) (f : Files) : Prop where
  sound : f.tree.WellFormed
  found : f.locate w.root = .ok root
  standing : f.tree.get? root = some .directory

theorem Placed.named (placed : w.Placed root f) : w.root ≠ "" := by
  intro blank
  have found := placed.found
  rw [blank] at found
  cases (Files.locate_eq_ok_iff.mp found).1

theorem placed_of_open {path : String} (sound : f.tree.WellFormed)
    (opened : Workspace.open path f = .ok w) : ∃ root, w.Placed root f := by
  unfold Workspace.open at opened
  split at opened
  case isTrue directory =>
    cases opened
    obtain ⟨root, found, standing⟩ := Files.isDirectory_iff.mp directory
    exact ⟨root, sound, found, standing⟩
  case isFalse => cases opened

/-- The way to the file of a slot: first to the root, then two names down. -/
theorem pieces_slotPath (placed : w.Placed root f) (slot : Slot) :
    ∃ before, Path.pieces (w.slotPath slot) = before ++ [slot.directory, slot.file] ∧
      f.tree.follow (f.origin (w.slotPath slot)) before = .ok root := by
  have there := placed.named
  have each : ∀ name ∈ [slot.directory, slot.file], Path.IsPiece name ∧ name ≠ "" := by
    simp [slot.directoryNamed.piece, slot.directoryNamed.ne_blank, slot.fileNamed.piece,
      slot.fileNamed.ne_blank]
  obtain ⟨before, split, begins⟩ := Path.pieces_join_all there each (by simp)
  have origin : f.origin (w.slotPath slot) = f.origin w.root := by
    have same := Path.isAbsolute_join_all there fun name member => (each name member).1
    rw [Files.origin, Files.origin, ← same]
    rfl
  refine ⟨before, split, ?_⟩
  obtain ⟨-, way⟩ := Files.locate_eq_ok_iff.mp placed.found
  rw [origin]
  rcases begins with exact | blank
  · rwa [← exact]
  · rw [blank] at way
    obtain ⟨stop, reached, onward⟩ := FileTree.follow_append_eq_ok.mp way
    have directory := FileTree.directory_of_follow (by simp) onward
    rw [FileTree.follow_idle (by simp [Path.isIdle]) directory] at onward
    cases onward
    exact reached

/-- The path of a slot is one that the system looks at, and its name is not too long. -/
def Reachable (w : Workspace) (slot : Slot) : Prop :=
  refusal? (w.slotPath slot) = none ∧ slot.directory.utf8ByteSize ≤ nameLimit ∧
    slot.file.utf8ByteSize ≤ nameLimit

instance (w : Workspace) (slot : Slot) : Decidable (w.Reachable slot) :=
  inferInstanceAs (Decidable (_ ∧ _ ∧ _))

theorem content?_slot (placed : w.Placed root f) (slot : Slot) :
    f.content? (w.slotPath slot) =
      if w.Reachable slot then f.tree.file? (slotPlace root slot) else none := by
  obtain ⟨before, split, reached⟩ := pieces_slotPath placed slot
  have directory := slot.directoryNamed.proper
  have file := slot.fileNamed.proper
  have way (at_ : Location) : f.tree.follow (f.origin (w.slotPath slot))
      (Path.pieces (w.slotPath slot)) = .ok at_ ↔
        f.tree.follow root [slot.directory, slot.file] = .ok at_ := by
    rw [split, FileTree.follow_append, reached]
    rfl
  have read (bytes : Octets) : f.readBytes (w.slotPath slot) = .ok bytes ↔
      w.Reachable slot ∧ f.tree.get? (slotPlace root slot) = some (.file bytes) := by
    rw [Files.readBytes_eq_ok_iff]
    constructor
    · rintro ⟨at_, found, standing⟩
      obtain ⟨allowed, led⟩ := Files.locate_eq_ok_iff.mp found
      rw [way, Files.follow_name_eq_ok directory.1 directory.2,
        Files.follow_name_eq_ok file.1 file.2] at led
      obtain ⟨-, first, -, -, second, -, last⟩ := led
      cases last
      exact ⟨⟨allowed, first, second⟩, standing⟩
    · rintro ⟨⟨allowed, first, second⟩, standing⟩
      have there : (f.tree.get? (root ++ [slot.directory] ++ [slot.file])).isSome := by
        rw [slotPlace] at standing
        rw [standing]
        rfl
      have inner := placed.sound (root ++ [slot.directory]) slot.file there
      refine ⟨slotPlace root slot, Files.locate_eq_ok_iff.mpr ⟨allowed, ?_⟩, standing⟩
      rw [way, Files.follow_name_eq_ok directory.1 directory.2,
        Files.follow_name_eq_ok file.1 file.2]
      exact ⟨placed.standing, first, by simp [inner], inner, second, there, rfl⟩
  apply Option.ext
  intro bytes
  rw [Files.content?_eq_some_iff, read]
  by_cases reachable : w.Reachable slot
  · rw [if_pos reachable]
    unfold FileTree.file?
    cases f.tree.get? (slotPlace root slot) with
    | none => simp
    | some entry => cases entry <;> simp [reachable]
  · simp [reachable]

/-! ## Writes -/

theorem Placed.grown (placed : w.Placed root f) (grown : f.Grown g) : w.Placed root g :=
  ⟨grown.tree.sound placed.sound, grown.locate placed.found,
    grown.tree.kept _ _ placed.standing⟩

/-- The name at the end of a slot's path stands where the slot has its place. -/
theorem place_of_names {directory : Location} {name : String} (placed : w.Placed root f)
    (names : f.Names (w.slotPath slot) directory name) :
    directory ++ [name] = slotPlace root slot := by
  obtain ⟨before, split, reached⟩ := pieces_slotPath placed slot
  obtain ⟨way, ends, led⟩ := names.way
  have outer := slot.directoryNamed.proper
  have same : way ++ [name] = (before ++ [slot.directory]) ++ [slot.file] := by
    rw [← ends, split]
    simp
  obtain ⟨rfl, last⟩ := List.append_inj' same rfl
  rw [FileTree.follow_append, reached] at led
  change f.tree.follow root [slot.directory] = .ok directory at led
  obtain ⟨-, -, -, inner⟩ := (Files.follow_name_eq_ok outer.1 outer.2).mp led
  cases inner
  rw [slotPlace, last]

/-- What has grown is in no slot. -/
theorem content?_slot_grown (placed : w.Placed root f) (grown : f.Grown g) (slot : Slot) :
    g.content? (w.slotPath slot) = f.content? (w.slotPath slot) := by
  rw [content?_slot (placed.grown grown), content?_slot placed, grown.tree.file?_eq]

/-- The files of a workspace after a write to a slot: everywhere else the content is as it was. -/
structure Changed (w : Workspace) (root : Location) (slot : Slot) (f g : Files) : Prop where
  placed : w.Placed root g
  same : ∀ other : Slot, (other.directory, other.file) ≠ (slot.directory, slot.file) →
    g.content? (w.slotPath other) = f.content? (w.slotPath other)

theorem changed_refl (placed : w.Placed root f) (slot : Slot) : w.Changed root slot f f :=
  ⟨placed, fun _ _ => rfl⟩

theorem changed_grown (placed : w.Placed root f) (grown : f.Grown g) (slot : Slot) :
    w.Changed root slot f g :=
  ⟨placed.grown grown, fun other _ => content?_slot_grown placed grown other⟩

theorem changed_write (placed : w.Placed root f) (slot : Slot) (disk : Files.Disk) (bytes : Octets) :
    w.Changed root slot f (f.writeOn disk (w.slotPath slot) bytes).2 := by
  have written := Files.writeOn_written disk f (w.slotPath slot) bytes
  have sound := Files.writeOn_wellFormed placed.sound disk (w.slotPath slot) bytes
  generalize f.writeOn disk (w.slotPath slot) bytes = result at written sound
  cases written with
  | failed e grown => exact changed_grown placed grown slot
  | @stored h directory name grown names free =>
    have before := placed.grown grown
    have place := place_of_names before names
    rw [place] at free sound ⊢
    have somewhere : slotPlace root slot ≠ [] := by simp [slotPlace]
    have below : root ≠ slotPlace root slot := by simp [slotPlace]
    have after : w.Placed root
        { h with tree := h.tree.put (slotPlace root slot) (.file bytes) } := by
      obtain ⟨allowed, way⟩ := Files.locate_eq_ok_iff.mp before.found
      refine ⟨sound, Files.locate_eq_ok_iff.mpr ⟨allowed, ?_⟩, ?_⟩
      · exact FileTree.follow_put_file somewhere free bytes way
      · rw [FileTree.get?_put_of_ne _ below, before.standing]
    refine ⟨after, fun other different => ?_⟩
    rw [content?_slot after, content?_slot placed,
      FileTree.file?_put_of_ne _ (slotPlace_ne different), grown.tree.file?_eq]

/-! ## Logs -/

/-- An append to a log in a slot changes the content of no other slot. -/
theorem changed_append {α : Type} {log : AppendLog α} (placed : w.Placed root f)
    (kept : log.path = w.slotPath slot) (disk : Files.Disk) (entry : α) :
    w.Changed root slot f (log.append entry disk f).2 := by
  unfold AppendLog.append
  split
  · exact changed_refl placed slot
  case h_2 entries parsed =>
    have written := changed_write placed slot disk
      (octets (AppendLog.text (entries ++ [(log.format.toJson entry).sorted])))
    rw [← kept] at written
    dsimp only
    split
    case h_1 result => rwa [result] at written
    case h_2 result => rwa [result] at written

/-- A network whose name can be part of a file name. -/
abbrev Nameable (network : String) : Prop :=
  Path.IsPiece network

theorem isName_of_long {name : String} (piece : Path.IsPiece name) (long : 2 < name.length) :
    Path.IsName name := by
  have other (text : String) (short : text.length ≤ 2) : name ≠ text := by
    rintro rfl
    omega
  refine ⟨piece, ?_, other ".." (by decide)⟩
  simp [Path.isIdle, other "" (by decide), other "." (by decide)]

/-- The name of a network's log, behind a mark of its own. -/
theorem isName_of_mark {mark network : String} (piece : Path.IsPiece mark)
    (long : 2 < mark.length) (nameable : Nameable network) :
    Path.IsName (mark ++ network ++ logMark) := by
  have dot : Path.IsPiece logMark := by decide
  apply isName_of_long
  · unfold Nameable at nameable
    unfold Path.IsPiece at piece nameable dot ⊢
    simp [piece, nameable, dot]
  · rw [String.length_append, String.length_append]
    omega

theorem eq_of_marked {mark a b : String} (same : mark ++ a ++ logMark = mark ++ b ++ logMark) :
    a = b := by
  have chars := congrArg String.toList same
  simp only [String.toList_append, List.append_cancel_right_eq, List.append_cancel_left_eq] at chars
  exact String.toList_inj.mp chars

def reportMark : String := "interaction-report."

theorem deploymentsNamed : Path.IsName "deployments" :=
  isName_of_long (by decide) (by decide)

theorem reportsNamed : Path.IsName "reports" :=
  isName_of_long (by decide) (by decide)

def deploymentSlot (network : String) (nameable : Nameable network) : Slot :=
  ⟨"deployments", deploymentFile network, deploymentsNamed,
    isName_of_mark (by decide) (by decide) nameable⟩

def reportSlot (network : String) (nameable : Nameable network) : Slot :=
  ⟨"reports", reportMark ++ network ++ logMark, reportsNamed,
    isName_of_mark (by decide) (by decide) nameable⟩

def summarySlot : Slot :=
  ⟨"reports", "interaction-summary.csv", reportsNamed, isName_of_long (by decide) (by decide)⟩

theorem summaryPath_eq (w : Workspace) : w.summaryPath = w.slotPath summarySlot := by
  unfold summaryPath slotPath
  rfl

/-- No report log has the name of the summary. -/
theorem report_ne_summary (network : String) :
    reportMark ++ network ++ logMark ≠ "interaction-summary.csv" := by
  intro same
  have chars := congrArg (fun s => s.toList.take 13) same
  simp [reportMark, String.toList_append] at chars

/-- The logs of a workspace, by kind and network. -/
inductive LogName where | deployments (network : String) | reports (network : String)
  deriving DecidableEq

namespace LogName

def network : LogName → String
  | .deployments network | .reports network => network

def toSlot (name : LogName) (nameable : Nameable name.network) : Slot :=
  match name with
  | .deployments network => deploymentSlot network nameable
  | .reports network => reportSlot network nameable

def path (w : Workspace) : LogName → String
  | .deployments network => (w.deploymentLog network).path
  | .reports network => (w.reportLog network).path

theorem path_eq (w : Workspace) (name : LogName) (nameable : Nameable name.network) :
    name.path w = w.slotPath (name.toSlot nameable) := by
  cases name <;> rfl

theorem toSlot_ne {a b : LogName} (different : a ≠ b) (first : Nameable a.network)
    (second : Nameable b.network) : ((a.toSlot first).directory, (a.toSlot first).file) ≠
      ((b.toSlot second).directory, (b.toSlot second).file) := by
  intro same
  cases a with
  | deployments network => cases b with
    | deployments other =>
      have files : deploymentFile network = deploymentFile other := (Prod.ext_iff.mp same).2
      exact different (by rw [eq_of_marked files])
    | reports other => simp [toSlot, deploymentSlot, reportSlot] at same
  | reports network => cases b with
    | deployments other => simp [toSlot, deploymentSlot, reportSlot] at same
    | reports other =>
      have files : reportMark ++ network ++ logMark = reportMark ++ other ++ logMark :=
        (Prod.ext_iff.mp same).2
      exact different (by rw [eq_of_marked files])

theorem toSlot_ne_summary (name : LogName) (nameable : Nameable name.network) :
    ((name.toSlot nameable).directory, (name.toSlot nameable).file) ≠
      (summarySlot.directory, summarySlot.file) := by
  intro same
  cases name with
  | deployments network => simp [toSlot, deploymentSlot, summarySlot] at same
  | reports network => exact report_ne_summary network (Prod.ext_iff.mp same).2

end LogName

end Workspace

end TokenDesk
