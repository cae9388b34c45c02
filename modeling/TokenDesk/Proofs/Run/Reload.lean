import TokenDesk.Proofs.Ledger.Reload
import TokenDesk.Proofs.Record.ReadBack
import TokenDesk.Proofs.Run.Logs
import TokenDesk.Proofs.Time.Instant

/-!
# Deployments that can be read again

A deployment writes the interface of its artifact two levels deeper than the interface stood, once for the
record and once for the log. So the log that it leaves can be read again if the interface nests at most 125
deep, and it is lost for every later run otherwise (`Deployment.run_reloaded`).
-/

set_option autoImplicit false

namespace TokenDesk

open TokenDesk.Text
open TokenDesk.Json

variable {σ ε δ α : Type}

theorem Run.look_mapError (read : Files → Except ε α) (f : ε → δ) :
    (Run.look read : Run σ ε α).mapError f = Run.look fun files => (read files).mapError f := by
  funext m w
  simp only [Run.mapError, Run.look]
  cases read w.files <;> rfl

namespace AppendLog

variable {log : AppendLog DeploymentRecord} {disk : Files.Disk} {f g : Files}
  {record : DeploymentRecord} {count : Nat}

/-- A record that leaves no room for the array around it is lost, and the log with it. -/
theorem lost_of_append (shape : log.format = .deployments)
    (deep : itemDepth < record.toJson.depth) (appended : log.append record disk f = (.ok count, g)) :
    (∀ all, log.load g ≠ .ok all) ∧
      ∀ entry later, (log.append entry later g).1 = .error (.parsing log.path .invalid) := by
  obtain ⟨path, format⟩ := log
  change format = .deployments at shape
  subst shape
  have plain : (Format.deployments.toJson record).Plain := record.toJson_plain
  refine ⟨fun all loaded => ?_, fun entry later => ?_⟩
  · obtain ⟨last, again⟩ := read_of_load plain appended loaded
    simp only [Format.deployments] at again
    exact Nat.not_lt.mpr (DeploymentRecord.depth_of_carried again) deep
  · rw [append_of_deep plain record.toJson_distinct deep appended entry later]

/-- A record that leaves that room is read behind the earlier ones. -/
theorem reloaded_of_append {earlier : List DeploymentRecord} (shape : log.format = .deployments)
    (room : record.toJson.depth ≤ itemDepth)
    (dated : Time.Instant.parse? record.timestamp.millisText = some record.timestamp)
    (loaded : log.load f = .ok earlier) (appended : log.append record disk f = (.ok count, g)) :
    log.load g = .ok (earlier ++ [record]) ∧
      ∀ entry later path cause, (log.append entry later g).1 ≠ .error (.parsing path cause) := by
  obtain ⟨path, format⟩ := log
  change format = .deployments at shape
  subst shape
  have stable : Stable Format.deployments.read := DeploymentRecord.read_stable
  have plain : (Format.deployments.toJson record).Plain := record.toJson_plain
  have again : Format.deployments.read itemDepth (carried (Format.deployments.toJson record)) =
      .ok record := by
    simpa only [Format.deployments] using record.read_carried room dated
  exact ⟨load_of_append_ok stable loaded plain again appended,
    append_of_shallow plain room appended⟩

end AppendLog

namespace Deployment

/-- The record of a run is about the artifact that the files held. -/
theorem run_record {d : Deployment} {factory : Factory σ} {now : Time.Instant} {m : Machine}
    {w after : World σ} {record : DeploymentRecord}
    (success : d.run factory now m w = (.ok record, after)) :
    ∃ artifact deployer instanceAt, d.workspace.loadArtifact d.source d.contract w.files = .ok artifact ∧
      record = d.record artifact deployer instanceAt now := by
  unfold run at success
  rw [Run.look_mapError] at success
  obtain ⟨artifact, loaded, rest⟩ := Run.look_bind_ok success
  have found : d.workspace.loadArtifact d.source d.contract w.files = .ok artifact := by
    cases result : d.workspace.loadArtifact d.source d.contract w.files with
    | error e =>
      rw [result] at loaded
      cases loaded
    | ok a =>
      rw [result] at loaded
      cases loaded
      rfl
  have about : ∃ deployer instanceAt, record = d.record artifact deployer instanceAt now := by
    refine Run.Gives.bind (fun record => ∃ deployer instanceAt,
      record = d.record artifact deployer instanceAt now) (fun deployer => .bind _ fun arguments =>
        .bind _ fun _ => .bind _ fun instanceAt => ?_) m w record after rest
    exact .bind _ fun _ => .bind _ fun count => .bind _ fun _ => .pure ⟨deployer, instanceAt, rfl⟩
  obtain ⟨deployer, instanceAt, same⟩ := about
  exact ⟨artifact, deployer, instanceAt, found, same⟩

/-- A run that gives a record has appended it. -/
theorem append_of_run {d : Deployment} {factory : Factory σ} {now : Time.Instant} {m : Machine}
    {w after : World σ} {record : DeploymentRecord}
    (success : d.run factory now m w = (.ok record, after)) :
    ∃ count, (d.workspace.deploymentLog d.network).append record m.disk w.files =
      (.ok count, after.files) := by
  have appended := run_appends d factory now m w
  rw [success] at appended
  dsimp only at appended
  generalize w.files = f at appended ⊢
  generalize after.files = g at appended ⊢
  cases appended with
  | stored given step =>
    cases given
    exact ⟨_, step⟩
  | skipped nothing => cases nothing
  | stopped broken => exact absurd rfl (broken record)
  | refused broken step => exact absurd rfl (broken record)

/-- What a quiet run does where nothing fails. -/
theorem run_ok {d : Deployment} {factory : Factory σ} {now : Time.Instant} {m : Machine} {w : World σ}
    {artifact : Artifact} {deployer instanceAt : Address} {arguments : ConstructorArguments}
    {asked deployed : σ} {count : Nat} {g : Files} (quiet : d.quiet = true)
    (loaded : d.workspace.loadArtifact d.source d.contract w.files = .ok artifact)
    (who : factory.deployer w.chain = (.ok deployer, asked))
    (taken : artifact.arguments deployer = .ok arguments)
    (where_ : factory.deploy artifact arguments asked = (.ok instanceAt, deployed))
    (appended : (d.workspace.deploymentLog d.network).append
      (d.record artifact deployer instanceAt now) m.disk w.files = (.ok count, g)) :
    d.run factory now m w =
      (.ok (d.record artifact deployer instanceAt now), { w with files := g, chain := deployed }) := by
  unfold run
  simp [Run.bind_apply, Run.mapError, Run.look, Run.ask, Run.ofExcept, Run.change, Run.status, quiet,
    Run.pure, Ending.ofExcept, Ending.mapError, loaded, who, taken, where_, appended]

/-- A log from which a deployment can be read again. -/
structure Reloaded (log : AppendLog DeploymentRecord) (f : Files) (earlier : List DeploymentRecord)
    (record : DeploymentRecord) (artifact : Artifact) : Prop where
  load : log.load f = .ok (earlier ++ [record])
  latest : log.latest f = .ok (some record)
  abi : ∀ reloaded, log.latest f = .ok (some reloaded) → reloaded.abiText = artifact.abiText
  further : ∀ entry disk path cause, (log.append entry disk f).1 ≠ .error (.parsing path cause)

/-- After a deployment the log can be read again exactly if the interface nests at most 125 deep;
otherwise it cannot be loaded, and every later append refuses it. -/
theorem run_reloaded {d : Deployment} {factory : Factory σ} {now : Time.Instant} {m : Machine}
    {w after : World σ} {earlier : List DeploymentRecord} {record : DeploymentRecord}
    (clock : now.OfClock)
    (loaded : (d.workspace.deploymentLog d.network).load w.files = .ok earlier)
    (success : d.run factory now m w = (.ok record, after)) :
    ∃ artifact, d.workspace.loadArtifact d.source d.contract w.files = .ok artifact ∧
      (Reloaded (d.workspace.deploymentLog d.network) after.files earlier record artifact ↔
        (AbiItem.listToJson artifact.abi).depth ≤ 125) ∧
      (125 < (AbiItem.listToJson artifact.abi).depth →
        (∀ all, (d.workspace.deploymentLog d.network).load after.files ≠ .ok all) ∧
          ∀ entry disk, ((d.workspace.deploymentLog d.network).append entry disk after.files).1 =
            .error (.parsing (d.workspace.deploymentLog d.network).path .invalid)) := by
  obtain ⟨artifact, deployer, instanceAt, found, rfl⟩ := run_record success
  obtain ⟨count, appended⟩ := append_of_run success
  generalize made : d.record artifact deployer instanceAt now = record at appended ⊢
  have interface : record.abi = artifact.abi := by rw [← made]; rfl
  have nested : record.toJson.depth = (AbiItem.listToJson artifact.abi).depth + 1 := by
    rw [DeploymentRecord.depth_toJson, interface]
  have dated : Time.Instant.parse? record.timestamp.millisText = some record.timestamp := by
    rw [← made]
    exact Time.Instant.parse?_millisText clock.truncate (Time.Instant.truncate_truncate now)
  -- Which log it is does not matter from here on, only that it holds deployment records.
  have shape : (d.workspace.deploymentLog d.network).format = .deployments := rfl
  generalize d.workspace.deploymentLog d.network = log at loaded appended shape ⊢
  have lost (tall : 125 < (AbiItem.listToJson artifact.abi).depth) :
      (∀ all, log.load after.files ≠ .ok all) ∧
        ∀ entry disk, (log.append entry disk after.files).1 = .error (.parsing log.path .invalid) := by
    have deep : itemDepth < record.toJson.depth := by
      rw [nested, itemDepth]
      omega
    exact AppendLog.lost_of_append shape deep appended
  refine ⟨artifact, found, ⟨?_, ?_⟩, lost⟩
  · intro reloaded
    apply Nat.le_of_not_lt
    intro tall
    exact (lost tall).1 _ reloaded.load
  · intro shallow
    have room : record.toJson.depth ≤ itemDepth := by
      rw [nested, itemDepth]
      omega
    obtain ⟨load, further⟩ := AppendLog.reloaded_of_append shape room dated loaded appended
    have latest : log.latest after.files = .ok (some record) := by
      simp [AppendLog.latest, load, Except.map]
    refine ⟨load, latest, ?_, further⟩
    intro reloaded last
    rw [latest] at last
    cases last
    rw [DeploymentRecord.abiText, interface, Artifact.abiText]

/-! ## A compiled contract that nests -/

/-- A compiled contract with an interface, as the compiler writes it. -/
def compiledJson (abi : List AbiItem) : Json :=
  .object [("contractName", .string "T"), ("sourceName", .string "T.sol"),
    ("abi", AbiItem.listToJson abi), ("bytecode", .string "0x60")]

/-- The files of a workspace at the root that holds one compiled contract. -/
def compiledFiles (abi : List AbiItem) : Files :=
  let folder := ["artifacts", "contracts", "ERC20.sol"]
  ⟨⟨[(["artifacts"], .directory), (["artifacts", "contracts"], .directory), (folder, .directory),
    (folder ++ ["MyToken.json"], .file (octets (pretty (compiledJson abi))))]⟩, []⟩

/-- A chain that takes every contract. -/
def openFactory : Factory Unit :=
  let somebody : Address := ⟨List.replicate 20 1, List.length_replicate⟩
  ⟨fun s => (.ok somebody, s), fun _ _ s => (.ok somebody, s)⟩

/-- The deployment of that contract to the local network. -/
def ofCompiled : Deployment :=
  ⟨⟨"/"⟩, "localhost", "MyToken", "ERC20.sol", true⟩

/-- The log of that deployment. -/
def compiledLog : AppendLog DeploymentRecord :=
  ofCompiled.workspace.deploymentLog ofCompiled.network

def newYear : Time.Instant := ⟨⟨2024, 1, 1⟩, 0, 0⟩

theorem loadArtifact_compiled {abi : List AbiItem} (shallow : (AbiItem.listToJson abi).depth ≤ 126) :
    ofCompiled.workspace.loadArtifact ofCompiled.source ofCompiled.contract (compiledFiles abi) =
      .ok ⟨"T", "T.sol", abi, "0x60"⟩ := by
  have plain : (compiledJson abi).Plain :=
    ⟨trivial, trivial, AbiItem.listToJson_plain abi, trivial, trivial⟩
  have bytes : (compiledFiles abi).readBytes
      (ofCompiled.workspace.artifactPath ofCompiled.source ofCompiled.contract) =
      .ok (octets (pretty (compiledJson abi))) := rfl
  have interface : readList AbiItem.read 126 (AbiItem.listToJson abi).document = .ok abi :=
    AbiItem.readList_document abi shallow
  have document : Artifact.read maxDepth (compiledJson abi).document =
      .ok ⟨"T", "T.sol", abi, "0x60"⟩ := by
    simp [Artifact.read, compiledJson, document, documentEntries, maxDepth, readRecord, readFields,
      Artifact.layout, readString, interface, Except.map, required, bind, Except.bind]
  have text : (compiledFiles abi).readText
      (ofCompiled.workspace.artifactPath ofCompiled.source ofCompiled.contract) =
      .ok (pretty (compiledJson abi)) := by
    rw [Files.readText, bytes]
    simp
  delta Workspace.loadArtifact
  dsimp only
  rw [text]
  dsimp only
  rw [readText_pretty _ plain.readable.legible, document]
  rfl

theorem exists?_compiled (abi : List AbiItem) :
    compiledLog.exists? (compiledFiles abi) = false :=
  rfl

theorem load_compiled (abi : List AbiItem) : compiledLog.load (compiledFiles abi) = .ok [] := by
  rw [AppendLog.load, AppendLog.parse, exists?_compiled]
  rfl

theorem append_compiled (abi : List AbiItem) (record : DeploymentRecord) :
    ∃ count g, compiledLog.append record .steady (compiledFiles abi) = (.ok count, g) := by
  have entries : compiledLog.parse Json.read (compiledFiles abi) = .ok [] := by
    rw [AppendLog.parse, exists?_compiled]
    rfl
  rw [AppendLog.append, entries]
  dsimp only
  generalize octets _ = bytes
  have written : ((compiledFiles abi).writeOn .steady compiledLog.path bytes).1 = .ok () := by
    rw [Files.writeOn_of_willing Files.steady_willing rfl rfl]
  cases result : (compiledFiles abi).writeOn .steady compiledLog.path bytes with
  | mk outcome g =>
    rw [result] at written
    cases written
    exact ⟨_, g, rfl⟩

theorem run_compiled_ok (abi : List AbiItem) (shallow : (AbiItem.listToJson abi).depth ≤ 126)
    (free : abi.find? AbiItem.isConstructor = none) :
    ∃ record after, ofCompiled.run openFactory newYear .steady ⟨compiledFiles abi, (), ""⟩ =
      (.ok record, after) ∧ record.abi = abi := by
  have taken (deployer : Address) :
      (⟨"T", "T.sol", abi, "0x60"⟩ : Artifact).arguments deployer = .ok .none := by
    simp [Artifact.arguments, Artifact.constructor?, free]
  obtain ⟨count, g, appended⟩ := append_compiled abi _
  exact ⟨_, _, run_ok rfl (loadArtifact_compiled shallow) rfl (taken _) rfl appended, rfl⟩

theorem compiledFiles_wellFormed (abi : List AbiItem) : (compiledFiles abi).tree.WellFormed := by
  refine FileTree.wellFormed_of_entries ?_
  simp only [compiledFiles, List.forall_mem_cons]
  exact ⟨rfl, rfl, rfl, rfl, nofun⟩

/-- A number in so many tuples, each within the next. -/
def nestedTuple : Nat → Parameter
  | 0 => .plain "x" "uint256"
  | levels + 1 => .mk "x" "tuple" none none (some [nestedTuple levels])

/-- An interface with one function, which takes a number in so many tuples. -/
def nestedInterface (levels : Nat) : List AbiItem :=
  [{ kind := "function", name? := some "f", inputs? := some [nestedTuple levels] }]

/-- A deployment can be read again: a number in two tuples nests far from too deep. -/
theorem run_reloaded_tuples : ∃ record after,
    newYear.OfClock ∧
      compiledLog.load (compiledFiles (nestedInterface 2)) = .ok [] ∧
      ofCompiled.run openFactory newYear .steady ⟨compiledFiles (nestedInterface 2), (), ""⟩ =
        (.ok record, after) ∧
      ∃ artifact, Reloaded compiledLog after.files [] record artifact := by
  obtain ⟨record, after, success, -⟩ :=
    run_compiled_ok (nestedInterface 2) (by decide +kernel) (by decide +kernel)
  have clock : newYear.OfClock :=
    ⟨by decide, by decide, by decide, by decide, by decide, by decide⟩
  have loaded := load_compiled (nestedInterface 2)
  obtain ⟨artifact, found, reloaded, -⟩ :=
    run_reloaded (d := ofCompiled) (w := ⟨compiledFiles (nestedInterface 2), (), ""⟩) clock loaded
      success
  rw [loadArtifact_compiled (by decide +kernel)] at found
  cases found
  exact ⟨record, after, clock, loaded, success, _, reloaded.mpr (by decide +kernel)⟩

/-- A number in 61 tuples is compiled and deployed, and the log is lost. -/
theorem nestedRun_loses_log : ∃ artifact record after,
    ofCompiled.workspace.loadArtifact ofCompiled.source ofCompiled.contract
        (compiledFiles (nestedInterface 61)) = .ok artifact ∧
      compiledLog.load (compiledFiles (nestedInterface 61)) = .ok [] ∧
      ofCompiled.run openFactory newYear .steady ⟨compiledFiles (nestedInterface 61), (), ""⟩ =
        (.ok record, after) ∧
      (∀ all, compiledLog.load after.files ≠ .ok all) ∧
      ∀ entry disk, (compiledLog.append entry disk after.files).1 =
        .error (.parsing compiledLog.path .invalid) := by
  have nested : (AbiItem.listToJson (nestedInterface 61)).depth = 126 := by decide +kernel
  obtain ⟨record, after, success, interface⟩ :=
    run_compiled_ok (nestedInterface 61) (Nat.le_of_eq nested) (by decide +kernel)
  obtain ⟨count, appended⟩ := append_of_run success
  have deep : itemDepth < record.toJson.depth := by
    rw [DeploymentRecord.depth_toJson, interface, nested]
    decide
  exact ⟨_, record, after, loadArtifact_compiled (Nat.le_of_eq nested), load_compiled _, success,
    AppendLog.lost_of_append rfl deep appended⟩

end Deployment

end TokenDesk
