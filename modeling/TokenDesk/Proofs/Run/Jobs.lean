import TokenDesk.Proofs.Ledger.Workspace
import TokenDesk.Proofs.Record.Written
import TokenDesk.Proofs.Run.Course
import TokenDesk.Proofs.Run.Reload
import TokenDesk.Run.Summarize

/-!
# Logs under jobs

Whatever jobs are done in a workspace, in any order, on any machines that show what is printed, and however
they fail or are refused a write: each log holds what it held at first, followed by exactly what the
successful jobs on its network have given (`logs_of_jobs`).
-/

set_option autoImplicit false

namespace TokenDesk

open TokenDesk.Text
open TokenDesk.Json
open TokenDesk.Workspace (LogName Nameable Placed)

variable {σ : Type}

/-- Something that is done in a workspace. What connects to a token may ask the chain. -/
inductive Job (σ : Type) where
  | deploy (network contract source : String) (quiet : Bool) (factory : Factory σ)
      (now : Time.Instant)
  | interact (network : String) (quiet : Bool)
      (connect : DeploymentRecord → σ → Ending Failure (Session σ) × σ) (now : Time.Instant)
  | summarize (network : String)

/-- What a successful job has given for a log. -/
inductive Product where
  | deployed (network : String) (record : DeploymentRecord)
  | reported (network : String) (entry : ReportEntry)

namespace Product

def log : Product → LogName
  | .deployed network _ => .deployments network
  | .reported network _ => .reports network

def toJson : Product → Json
  | .deployed _ record => record.toJson
  | .reported _ entry => entry.toJson

theorem eq_deployed {p : Product} {network : String} (log : p.log = .deployments network) :
    ∃ record, p = .deployed network record := by
  cases p with
  | deployed other record =>
    cases log
    exact ⟨record, rfl⟩
  | reported other entry => cases log

theorem eq_reported {p : Product} {network : String} (log : p.log = .reports network) :
    ∃ entry, p = .reported network entry := by
  cases p with
  | deployed other record => cases log
  | reported other entry =>
    cases log
    exact ⟨entry, rfl⟩

theorem toJson_plain (p : Product) : p.toJson.Plain := by
  cases p with
  | deployed network record => exact record.toJson_plain
  | reported network entry => exact entry.toJson_plain

/-- The elements that products are in a log, in order. -/
def elements (name : LogName) (products : List Product) : List Json :=
  (products.filter fun p => p.log = name).map fun p => p.toJson.sorted

end Product

namespace Job

def network : Job σ → String
  | .deploy network .. | .interact network .. | .summarize network => network

/-- Does a job on a machine, and tells what it has given for a log. -/
def run (w : Workspace) (m : Machine) (job : Job σ) (world : World σ) : Option Product × World σ :=
  match job with
  | .deploy network contract source quiet factory now =>
    let (ending, world) := Deployment.run ⟨w, network, contract, source, quiet⟩ factory now m world
    (ending.value?.map (.deployed network), world)
  | .interact network quiet connect now =>
    let (ending, world) :=
      Interaction.run ⟨w, network, quiet⟩ (fun d => Run.ask (connect d)) now m world
    (ending.value?.join.map (.reported network), world)
  | .summarize network =>
    (none, (Summary.run w network w.summaryPath m world).2)

/-- Does jobs one after the other, each on a machine, and tells what they have given, in order. -/
def runAll (w : Workspace) : List (Machine × Job σ) → World σ → List Product × World σ
  | [], world => ([], world)
  | (m, job) :: jobs, world =>
    let (product?, world) := job.run w m world
    let (products, world) := runAll w jobs world
    (product?.toList ++ products, world)

end Job

namespace Workspace

/-- The array in the file of a log. -/
def elements? (w : Workspace) (name : LogName) (f : Files) : Option (List Json) :=
  Json.elements? (f.content? (name.path w))

/-- All logs hold whole numbers only. -/
def Numbered (w : Workspace) (f : Files) : Prop :=
  ∀ name : LogName, Nameable name.network → ∀ items, w.elements? name f = some items →
    PlainItems items

end Workspace

/-! ## One job -/

/-- What a job leaves of the logs, given what it has given. -/
structure Kept (w : Workspace) (root : Location) (product? : Option Product) (f g : Files) :
    Prop where
  placed : w.Placed root g
  numbered : w.Numbered g
  logs : ∀ name : LogName, Nameable name.network →
    w.elements? name g = (w.elements? name f).map (· ++ Product.elements name product?.toList)

theorem Product.elements_self (p : Product) : elements p.log [p] = [p.toJson.sorted] := by
  simp [elements]

theorem Product.elements_of_ne {name : LogName} {p : Product} (other : p.log ≠ name) :
    elements name [p] = [] := by
  simp [elements, other]

theorem Product.elements_append (name : LogName) (earlier later : List Product) :
    elements name (earlier ++ later) = elements name earlier ++ elements name later := by
  simp [elements]

section Kept

variable {w : Workspace} {root : Location} {f g : Files} {α γ ε : Type}

theorem elements?_of_content?_eq {name : LogName}
    (same : g.content? (name.path w) = f.content? (name.path w)) :
    w.elements? name g = w.elements? name f := by
  rw [Workspace.elements?, same, Workspace.elements?]

/-- Where all logs are as they were, nothing has been given for them. -/
theorem kept_of_same (placed : w.Placed root g) (numbered : w.Numbered f)
    (same : ∀ name : LogName, Nameable name.network →
      g.content? (name.path w) = f.content? (name.path w)) : Kept w root none f g := by
  refine ⟨placed, fun name nameable items found => ?_, fun name nameable => ?_⟩
  · rw [elements?_of_content?_eq (same name nameable)] at found
    exact numbered name nameable items found
  · rw [elements?_of_content?_eq (same name nameable)]
    cases w.elements? name f <;> simp [Product.elements]

/-- One log is longer by a product, all others are as they were. -/
theorem kept_of_extended {p : Product} {before : List Json} (placed : w.Placed root g)
    (numbered : w.Numbered f) (found : w.elements? p.log f = some before)
    (extended : w.elements? p.log g = some (before ++ [p.toJson.sorted]))
    (plain : PlainItems (before ++ [p.toJson.sorted]))
    (same : ∀ name : LogName, Nameable name.network → name ≠ p.log →
      g.content? (name.path w) = f.content? (name.path w)) : Kept w root (some p) f g := by
  refine ⟨placed, fun name nameable items read => ?_, fun name nameable => ?_⟩
  · by_cases own : name = p.log
    · subst own
      rw [extended] at read
      cases read
      exact plain
    · rw [elements?_of_content?_eq (same name nameable own)] at read
      exact numbered name nameable items read
  · rw [Option.toList_some]
    by_cases own : name = p.log
    · subst own
      rw [extended, found, Product.elements_self, Option.map_some]
    · rw [elements?_of_content?_eq (same name nameable own),
        Product.elements_of_ne (Ne.symm own)]
      cases w.elements? name f <;> simp

/-- A run that appends to a log what it gives, and can show what it does, extends this log and leaves all
others. -/
theorem kept_of_appended {log : AppendLog γ} {given? : α → Option γ} {ending : Ending ε α}
    {shows : Prop} {disk : Files.Disk} (shown : shows) (name : LogName) (product : γ → Product)
    (placed : w.Placed root f) (numbered : w.Numbered f)
    (nameable : Nameable name.network) (path : log.path = name.path w)
    (named : ∀ c, (product c).log = name)
    (written : ∀ c, log.format.toJson c = (product c).toJson)
    (shallow : ∀ c, ending.value?.bind given? = some c → (product c).toJson.depth < maxDepth)
    (appended : Run.Appended shows disk log given? f ending g) :
    Kept w root ((ending.value?.bind given?).map product) f g ∧
      ∀ other : LogName, Nameable other.network → other ≠ name →
        g.content? (other.path w) = f.content? (other.path w) := by
  have view (h : Files) : log.elements? h = w.elements? name h := by
    rw [AppendLog.elements?, path, Workspace.elements?]
  have slot : log.path = w.slotPath (name.toSlot nameable) := path.trans (name.path_eq w nameable)
  have others (entry : γ) (other : LogName) (legal : Nameable other.network)
      (different : other ≠ name) :
      (log.append entry disk f).2.content? (other.path w) = f.content? (other.path w) := by
    rw [other.path_eq w legal]
    exact (Workspace.changed_append placed slot disk entry).same _
      (LogName.toSlot_ne different legal nameable)
  cases appended with
  | @stored a entry count g given step =>
    have product? : (Ending.ok a : Ending ε α).value?.bind given? = some entry := given
    have carried : log.Carries entry := by
      refine ⟨?_, ?_⟩
      · rw [written]
        exact (product entry).toJson_plain
      · rw [written]
        exact shallow entry product?
    have old : ∀ items, log.elements? f = some items → PlainItems items := by
      intro items found
      exact numbered name nameable items ((view f).symm.trans found)
    obtain ⟨before, found, plain, extended, -⟩ :=
      AppendLog.append_ok old carried step
    have element : log.element entry = (product entry).toJson.sorted := by
      rw [AppendLog.element, written]
    rw [view] at found extended
    rw [element] at plain extended
    have moved := (Workspace.changed_append placed slot disk entry).placed
    have rest := others entry
    rw [step] at moved rest
    rw [product?, Option.map_some]
    refine ⟨kept_of_extended moved numbered ?_ ?_ plain ?_, rest⟩
    · rwa [named]
    · rwa [named]
    · intro other legal different
      exact rest other legal (by rwa [named] at different)
  | skipped nothing =>
    have product? : (Ending.ok _ : Ending ε α).value?.bind given? = none := nothing
    rw [product?]
    exact ⟨kept_of_same placed numbered fun _ _ => rfl, fun _ _ _ => rfl⟩
  | stopped broken =>
    rw [Ending.value?_of_broken broken]
    exact ⟨kept_of_same placed numbered fun _ _ => rfl, fun _ _ _ => rfl⟩
  | @refused ending entry e g broken step =>
    have grown := AppendLog.grown_of_append_error step
    have same (other : LogName) (legal : Nameable other.network) :
        g.content? (other.path w) = f.content? (other.path w) := by
      rw [other.path_eq w legal]
      exact Workspace.content?_slot_grown placed grown _
    rw [Ending.value?_of_broken broken]
    exact ⟨kept_of_same (placed.grown grown) numbered same, fun other legal _ => same other legal⟩
  | untold hidden step => exact absurd shown hidden

end Kept

namespace Job

variable {w : Workspace} {root : Location} {m : Machine} {world : World σ}

theorem summary_write_files (entries : List Json) (path : String) (world : World σ) :
    (Summary.write entries path m world).2.files =
      (world.files.writeOn m.disk path (octets (Summary.csv (entries.map Summary.row)))).2 := by
  unfold Summary.write Run.mapError Run.change
  dsimp only

/-- A summary is written to its own file, or nothing is. -/
theorem changed_summarize (placed : w.Placed root world.files) (network : String) :
    w.Changed root Workspace.summarySlot world.files
      (Summary.run w network w.summaryPath m world).2.files := by
  unfold Summary.run
  refine Run.bind_files (w.Changed root Workspace.summarySlot world.files)
    (Workspace.changed_refl placed _) fun entries after read => ?_
  have unchanged : after = world := (congrArg Prod.snd read).symm
  subst unchanged
  have written := Workspace.changed_write placed Workspace.summarySlot m.disk
    (octets (Summary.csv (entries.map Summary.row)))
  rw [← Workspace.summaryPath_eq, ← summary_write_files] at written
  refine Run.bind_files (w.Changed root Workspace.summarySlot after.files) written
    fun _ final wrote => ?_
  have moved : final = (Summary.write entries w.summaryPath m after).2 :=
    (congrArg Prod.snd wrote).symm
  rw [Run.pure_apply, moved]
  dsimp only
  exact written

/-- A summary leaves every log. -/
theorem content?_summarize (placed : w.Placed root world.files) (network : String)
    (name : LogName) (nameable : Nameable name.network) :
    (Summary.run w network w.summaryPath m world).2.files.content? (name.path w) =
      world.files.content? (name.path w) := by
  rw [name.path_eq w nameable]
  exact (changed_summarize placed network).same _ (LogName.toSlot_ne_summary name nameable)

/-- A job extends a log of its network by what it has given, and leaves every other log. -/
theorem kept_run (takes : m.Takes) (job : Job σ) (nameable : Nameable job.network)
    (placed : w.Placed root world.files) (numbered : w.Numbered world.files)
    (shallow : ∀ p, (job.run w m world).1 = some p → p.toJson.depth < maxDepth) :
    Kept w root (job.run w m world).1 world.files (job.run w m world).2.files ∧
      ∀ other : LogName, Nameable other.network → other.network ≠ job.network →
        (job.run w m world).2.files.content? (other.path w) =
          world.files.content? (other.path w) := by
  cases job with
  | deploy network contract source quiet factory now =>
    have appended := Deployment.run_appends ⟨w, network, contract, source, quiet⟩ factory now m world
    unfold run at shallow ⊢
    dsimp only at shallow ⊢
    generalize Deployment.run ⟨w, network, contract, source, quiet⟩ factory now m world = result
      at appended shallow ⊢
    obtain ⟨kept, others⟩ :=
      kept_of_appended (takes.shows quiet) (.deployments network) (.deployed network) placed
      numbered nameable rfl (fun _ => rfl) (fun _ => rfl)
      (fun c given => shallow _ (by rw [Option.bind_fun_some] at given; rw [given]; rfl)) appended
    rw [Option.bind_fun_some] at kept
    exact ⟨kept, fun other legal different => others other legal (by rintro rfl; exact different rfl)⟩
  | interact network quiet connect now =>
    have appended := Interaction.run_appends ⟨w, network, quiet⟩ (fun d => .ask (connect d)) now m world
    unfold run at shallow ⊢
    dsimp only at shallow ⊢
    generalize Interaction.run ⟨w, network, quiet⟩ (fun d => Run.ask (connect d)) now m world = result
      at appended shallow ⊢
    obtain ⟨kept, others⟩ := kept_of_appended (takes.shows quiet) (.reports network) (.reported network) placed
      numbered nameable rfl (fun _ => rfl) (fun _ => rfl)
      (fun c given => shallow _ (by rw [Option.bind_id_eq_join] at given; rw [given]; rfl)) appended
    rw [Option.bind_id_eq_join] at kept
    exact ⟨kept, fun other legal different => others other legal (by rintro rfl; exact different rfl)⟩
  | summarize network =>
    have changed := changed_summarize (m := m) placed network
    have same := content?_summarize (m := m) placed network
    exact ⟨kept_of_same changed.placed numbered same, fun other legal _ => same other legal⟩

/-- An entry that a job gives copies the latest record of its network. -/
theorem run_latest (job : Job σ) {network : String} {entry : ReportEntry}
    (given : (job.run w m world).1 = some (.reported network entry)) :
    network = job.network ∧
      ∃ record, (w.deploymentLog network).latest world.files = .ok (some record) ∧
        entry.contract = record.contract ∧ entry.address = record.address := by
  cases job with
  | deploy =>
    obtain ⟨record, -, other⟩ := Option.map_eq_some_iff.mp given
    cases other
  | interact network quiet connect now =>
    unfold run at given
    dsimp only at given
    cases result : Interaction.run ⟨w, network, quiet⟩ (fun d => Run.ask (connect d)) now m world with
    | mk ending after =>
      rw [result] at given
      dsimp only at given
      obtain ⟨entry, told, same⟩ := Option.map_eq_some_iff.mp given
      cases same
      rw [Ending.eq_ok_of_join told] at result
      have copies := Interaction.run_latest _ _ _ result
      exact ⟨rfl, copies⟩
  | summarize => cases given

/-! ## Many jobs -/

theorem runAll_append (w : Workspace) (earlier later : List (Machine × Job σ)) (world : World σ) :
    runAll w (earlier ++ later) world =
      ((runAll w earlier world).1 ++ (runAll w later (runAll w earlier world).2).1,
        (runAll w later (runAll w earlier world).2).2) := by
  induction earlier generalizing world with
  | nil => rfl
  | cons step earlier ih => simp [runAll, ih]

theorem kept_runAll (jobs : List (Machine × Job σ)) (takes : ∀ step ∈ jobs, step.1.Takes)
    (nameable : ∀ step ∈ jobs, Nameable step.2.network)
    (placed : w.Placed root world.files) (numbered : w.Numbered world.files)
    (shallow : ∀ p ∈ (runAll w jobs world).1, p.toJson.depth < maxDepth) :
    w.Placed root (runAll w jobs world).2.files ∧ w.Numbered (runAll w jobs world).2.files ∧
      ∀ name : LogName, Nameable name.network →
        w.elements? name (runAll w jobs world).2.files =
          (w.elements? name world.files).map (· ++ Product.elements name (runAll w jobs world).1) := by
  induction jobs generalizing world with
  | nil =>
    refine ⟨placed, numbered, fun name legal => ?_⟩
    cases found : w.elements? name world.files <;> simp [runAll, Product.elements, found]
  | cons step jobs ih =>
    obtain ⟨m, job⟩ := step
    obtain ⟨kept, -⟩ := kept_run (takes (m, job) (by simp)) job (nameable (m, job) (by simp)) placed
      numbered fun p given => shallow p (by simp [runAll, given])
    obtain ⟨last, numbers, logs⟩ := ih (fun other member => takes other (by simp [member]))
      (fun other member => nameable other (by simp [member])) kept.placed kept.numbered
      fun p member => shallow p (by simp [runAll, member])
    refine ⟨last, numbers, fun name legal => ?_⟩
    change w.elements? name (runAll w jobs (job.run w m world).2).2.files = _
    rw [logs name legal, kept.logs name legal, Option.map_map]
    congr 1
    funext before
    simp [runAll, Product.elements_append]

/-- What a job does to the logs, one by one: it leaves those of other networks, a summary leaves them
all, and an entry that it gives copies the latest record of its network at that moment. -/
structure Respects (w : Workspace) (m : Machine) (job : Job σ) (before : World σ) : Prop where
  others : ∀ name : LogName, Nameable name.network → name.network ≠ job.network →
    (job.run w m before).2.files.content? (name.path w) = before.files.content? (name.path w)
  summary : ∀ network, job = .summarize network → ∀ name : LogName, Nameable name.network →
    (job.run w m before).2.files.content? (name.path w) = before.files.content? (name.path w)
  latest : ∀ network entry, (job.run w m before).1 = some (.reported network entry) →
    network = job.network ∧
      ∃ record, (w.deploymentLog network).latest before.files = .ok (some record) ∧
        entry.contract = record.contract ∧ entry.address = record.address

end Job

/-- However jobs follow each other in a workspace, on machines that show what is printed, every log holds in the
end what it held at first and then the products of its network in order; and each job respects the logs that
are not its own. -/
theorem logs_of_jobs {w : Workspace} {path : String} (start : World σ) (jobs : List (Machine × Job σ))
    (takes : ∀ step ∈ jobs, step.1.Takes) (sound : start.files.tree.WellFormed)
    (opened : Workspace.open path start.files = .ok w)
    (nameable : ∀ step ∈ jobs, Nameable step.2.network) (numbered : w.Numbered start.files)
    (shallow : ∀ p ∈ (Job.runAll w jobs start).1, p.toJson.depth < maxDepth) :
    (∀ name : LogName, Nameable name.network →
      w.elements? name (Job.runAll w jobs start).2.files =
        (w.elements? name start.files).map
          (· ++ Product.elements name (Job.runAll w jobs start).1)) ∧
      ∀ earlier m job later, jobs = earlier ++ (m, job) :: later →
        Job.Respects w m job (Job.runAll w earlier start).2 := by
  obtain ⟨root, placed⟩ := Workspace.placed_of_open sound opened
  refine ⟨(Job.kept_runAll jobs takes nameable placed numbered shallow).2.2, ?_⟩
  intro earlier m job later split
  subst split
  rw [Job.runAll_append] at shallow
  obtain ⟨before, numbers, -⟩ := Job.kept_runAll earlier
    (fun other member => takes other (by simp [member]))
    (fun other member => nameable other (by simp [member])) placed numbered
    fun p member => shallow p (by simp [member])
  obtain ⟨-, others⟩ := Job.kept_run (takes (m, job) (by simp)) job (nameable (m, job) (by simp)) before
    numbers fun p given => shallow p (by simp [Job.runAll, given])
  refine ⟨others, ?_, fun network entry given => Job.run_latest job given⟩
  intro network summarizes name legal
  subst summarizes
  exact Job.content?_summarize before network name legal

/-! ## A workspace in use -/

/-- All logs hold whole numbers where every file does that is an array. -/
theorem Workspace.numbered_of_entries {f : Files}
    (plain : ∀ entry ∈ f.tree.entries, ∀ bytes items, entry.2 = .file bytes →
      Json.elements? (some bytes) = some items → PlainItems items) (w : Workspace) : w.Numbered f := by
  intro name _ items found
  rw [elements?] at found
  cases content : f.content? (name.path w) with
  | none =>
    rw [content] at found
    cases found
    trivial
  | some bytes =>
    rw [content] at found
    obtain ⟨at_, -, standing⟩ := Files.readBytes_eq_ok_iff.mp (Files.content?_eq_some_iff.mp content)
    cases at_ with
    | nil => cases standing
    | cons first names =>
      obtain ⟨before, after, split, -⟩ := List.lookup_eq_some_iff.mp standing
      exact plain (first :: names, .file bytes) (by simp [split]) bytes items rfl found

namespace Job

/-- The deployment that was there. -/
def deployedElement : Json :=
  .object [("abi", .array []), ("address", .string ""), ("contract", .string "T"),
    ("deployer", .string ""), ("network", .string ""), ("timestamp", .string "2024-01-01T00:00:00Z")]

theorem deployedElement_plain : PlainItems [deployedElement] :=
  ⟨⟨trivial, trivial, trivial, trivial, trivial, trivial, trivial⟩, trivial⟩

/-- A workspace with a compiled contract and one deployment. Two of its logs hold an element that is none of
theirs. -/
def usedFiles : Files :=
  ⟨⟨[(["artifacts"], .directory), (["artifacts", "contracts"], .directory),
    (["artifacts", "contracts", "ERC20.sol"], .directory),
    (["artifacts", "contracts", "ERC20.sol", "MyToken.json"], .file (octets (pretty (Deployment.compiledJson [])))),
    (["deployments"], .directory),
    (["deployments", "deployed-contracts.localhost.json"], .file (octets (AppendLog.text [deployedElement]))),
    (["deployments", "deployed-contracts.sepolia.json"],
      .file (octets (AppendLog.text [AppendLog.foreignElement]))),
    (["reports"], .directory),
    (["reports", "interaction-report.localhost.json"],
      .file (octets (AppendLog.text [AppendLog.foreignElement])))]⟩, []⟩

def deployTo (network : String) : Job Unit :=
  .deploy network "MyToken" "ERC20.sol" false Deployment.openFactory Deployment.newYear

/-- An interaction with a token that does not mint. -/
def interactOn (network : String) : Job Unit :=
  let session : Session Unit :=
    ⟨⟨fun call s => (Interaction.mintless [] call, s)⟩, Interaction.nobody, Interaction.nobody,
      Interaction.nobody⟩
  .interact network false (fun _ s => (.ok session, s)) Deployment.newYear

/-- A machine with a full disk. -/
def fullMachine : Machine :=
  ⟨AppendLog.fullDisk, fun _ _ => none⟩

/-- The second of these jobs is refused its write, and the fourth cannot read its log. -/
def usedJobs : List (Machine × Job Unit) :=
  [(.steady, interactOn "localhost"), (fullMachine, deployTo "localhost"), (.steady, deployTo "localhost"),
    (.steady, interactOn "sepolia"), (.steady, .summarize "localhost")]

def usedRun : List Product × World Unit :=
  runAll ⟨"/"⟩ usedJobs ⟨usedFiles, (), ""⟩

theorem usedJobs_take : ∀ step ∈ usedJobs, step.1.Takes := by
  simp only [usedJobs, List.forall_mem_cons]
  exact ⟨Machine.steady_takes, fun _ _ => rfl, Machine.steady_takes, Machine.steady_takes,
    Machine.steady_takes, List.forall_mem_nil _⟩

theorem usedFiles_wellFormed : usedFiles.tree.WellFormed := by
  refine FileTree.wellFormed_of_entries ?_
  simp only [usedFiles, List.forall_mem_cons]
  exact ⟨rfl, rfl, rfl, rfl, rfl, rfl, rfl, rfl, rfl, nofun⟩

theorem usedJobs_nameable : ∀ step ∈ usedJobs, Nameable step.2.network := by
  decide

theorem elements?_foreign : Json.elements? (some (octets (AppendLog.text [AppendLog.foreignElement]))) =
    some [AppendLog.foreignElement] :=
  AppendLog.elements?_text AppendLog.foreignElement_plain rfl (by decide)

theorem elements?_deployed : Json.elements? (some (octets (AppendLog.text [deployedElement]))) =
    some [deployedElement] :=
  AppendLog.elements?_text deployedElement_plain rfl (by decide)

theorem elements?_compiled : Json.elements? (some (octets (pretty (Deployment.compiledJson [])))) = none := by
  have plain : (Deployment.compiledJson []).Plain := ⟨trivial, trivial, trivial, trivial, trivial⟩
  have read : readText Json.read (pretty (Deployment.compiledJson [])) =
      .ok (Deployment.compiledJson []).sorted := by
    rw [readText_pretty _ plain.readable.legible, read_document plain (by decide)]
  have object : (Deployment.compiledJson []).sorted = .object [("abi", .array []),
      ("bytecode", .string "0x60"), ("contractName", .string "T"), ("sourceName", .string "T.sol")] := rfl
  simp [Json.elements?, read, object]

theorem usedFiles_numbered (w : Workspace) : w.Numbered usedFiles := by
  refine Workspace.numbered_of_entries ?_ w
  intro entry member bytes items file array
  simp only [usedFiles, List.mem_cons, List.not_mem_nil, or_false] at member
  rcases member with rfl | rfl | rfl | rfl | rfl | rfl | rfl | rfl | rfl <;> cases file
  · rw [elements?_compiled] at array
    cases array
  · rw [elements?_deployed] at array
    cases array
    exact deployedElement_plain
  · rw [elements?_foreign] at array
    cases array
    exact AppendLog.foreignElement_plain
  · rw [elements?_foreign] at array
    cases array
    exact AppendLog.foreignElement_plain

/-- The logs then hold what they held, and what the interaction and the second deployment have given. -/
theorem logs_of_usedJobs : ∃ entry record,
    usedRun.1 = [.reported "localhost" entry, .deployed "localhost" record] ∧
      Workspace.elements? ⟨"/"⟩ (.reports "localhost") usedRun.2.files =
        some [AppendLog.foreignElement, entry.toJson.sorted] ∧
      Workspace.elements? ⟨"/"⟩ (.deployments "localhost") usedRun.2.files =
        some [deployedElement, record.toJson.sorted] ∧
      Workspace.elements? ⟨"/"⟩ (.deployments "sepolia") usedRun.2.files =
        some [AppendLog.foreignElement] := by
  have given : usedRun.1.map Product.log = [.reports "localhost", .deployments "localhost"] ∧
      (usedRun.1.all fun p => p.toJson.depth < maxDepth) = true := by
    decide +kernel
  obtain ⟨products, shallow⟩ := given
  have opened : Workspace.open "/" usedFiles = .ok ⟨"/"⟩ := rfl
  have room : ∀ p ∈ usedRun.1, p.toJson.depth < maxDepth := by
    simpa using shallow
  obtain ⟨logs, -⟩ := logs_of_jobs ⟨usedFiles, (), ""⟩ usedJobs usedJobs_take usedFiles_wellFormed opened
    usedJobs_nameable (usedFiles_numbered _) room
  have ran : runAll ⟨"/"⟩ usedJobs ⟨usedFiles, (), ""⟩ = usedRun := rfl
  rw [ran] at logs
  have reports : Workspace.elements? ⟨"/"⟩ (.reports "localhost") usedFiles =
      some [AppendLog.foreignElement] := elements?_foreign
  have deployments : Workspace.elements? ⟨"/"⟩ (.deployments "localhost") usedFiles =
      some [deployedElement] := elements?_deployed
  have others : Workspace.elements? ⟨"/"⟩ (.deployments "sepolia") usedFiles =
      some [AppendLog.foreignElement] := elements?_foreign
  obtain ⟨first, tail, made, reported, rest⟩ := List.map_eq_cons_iff.mp products
  obtain ⟨second, nothing, split, deployed, ends⟩ := List.map_eq_cons_iff.mp rest
  rw [List.map_eq_nil_iff.mp ends] at split
  rw [split] at made
  obtain ⟨entry, rfl⟩ := Product.eq_reported reported
  obtain ⟨record, rfl⟩ := Product.eq_deployed deployed
  refine ⟨entry, record, made, ?_, ?_, ?_⟩
  · rw [logs _ (by decide), reports, made]
    rfl
  · rw [logs _ (by decide), deployments, made]
    rfl
  · rw [logs _ (by decide), others, made]
    rfl

end Job

end TokenDesk
