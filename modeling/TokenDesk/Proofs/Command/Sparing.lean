import TokenDesk.Command.Program
import TokenDesk.Proofs.Ledger.Log
import TokenDesk.Proofs.Run.Logs

/-!
# Files after a program that breaks

No program writes before the last step that can fail, and behind a write it only prints. So one that ends
with another code than zero leaves every regular file as it was and adds none, though directories may have
been made for a write that failed; but where the output does not take what is printed, a program breaks off
with the file written (`Program.file?_of_broken`). Two shapes of parts are composed: parts that touch no
file come first, and behind a write stand parts that only print.
-/

set_option autoImplicit false

namespace TokenDesk

open TokenDesk.Text

/-! ## Runs that write last -/

namespace Run

variable {σ ε δ α β γ : Type}

/-- What a run leaves that writes one file at most and behind that only prints, told by its ending: it has
made directories at most, or it has written one file. Then it gives a value, unless the output has refused
a text. -/
inductive Left (m : Machine) (f : Files) : Ending ε α → Files → Prop
  | spared {ending : Ending ε α} {g : Files} (grown : f.Grown g) : Left m f ending g
  | told {a : α} {g : Files} {path : String} {bytes : Octets}
      (stored : f.writeOn m.disk path bytes = (.ok (), g)) : Left m f (.ok a) g
  | untold {g : Files} {path : String} {bytes : Octets} (refuses : ¬m.Takes)
      (stored : f.writeOn m.disk path bytes = (.ok (), g)) : Left m f .aborted g

/-- The run writes one file at most, and behind that it only prints. -/
def WritesLast (run : Run σ ε α) : Prop :=
  ∀ m w, Left m w.files (run m w).1 (run m w).2.files

/-- The run touches no file, and only a text that the output refuses breaks it. -/
def Tells (run : Run σ ε α) : Prop :=
  ∀ m w, (run m w).2.files = w.files ∧
    ((∃ a, (run m w).1 = .ok a) ∨ ¬m.Takes ∧ (run m w).1 = .aborted)

theorem Tells.pure (a : α) : Tells (Pure.pure a : Run σ ε α) :=
  fun _ _ => ⟨rfl, .inl ⟨a, rfl⟩⟩

theorem Tells.print (text : String) : Tells (Run.print text : Run σ ε Unit) := by
  intro m w
  obtain ⟨after, files, -, ends | ⟨refuses, ends⟩⟩ := print_cases (ε := ε) text m w
  · rw [ends]
    exact ⟨files, .inl ⟨(), rfl⟩⟩
  · rw [ends]
    exact ⟨files, .inr ⟨refuses, rfl⟩⟩

theorem Tells.status (quiet : Bool) (line : String) :
    Tells (Run.status quiet line : Run σ ε Unit) := by
  cases quiet with
  | true => exact .pure ()
  | false => exact .print _

theorem Keeps.writesLast {run : Run σ ε α} (kept : run.Keeps) : run.WritesLast := by
  intro m w
  rw [kept m w]
  exact .spared (.refl _)

/-- A part that touches no file may stand in front. -/
theorem WritesLast.after {run : Run σ ε α} {next : α → Run σ ε β} (first : run.Keeps)
    (rest : ∀ a, (next a).WritesLast) : (run >>= next).WritesLast := by
  intro m w
  have kept := first m w
  rw [bind_apply]
  cases result : run m w with
  | mk ending after =>
    rw [result] at kept
    change after.files = w.files at kept
    rw [← kept]
    cases ending with
    | ok a => exact rest a m after
    | failed e => exact .spared (.refl _)
    | aborted => exact .spared (.refl _)

/-- A part that only prints may follow. -/
theorem WritesLast.before {run : Run σ ε α} {next : α → Run σ ε β} (first : run.WritesLast)
    (rest : ∀ a, (next a).Tells) : (run >>= next).WritesLast := by
  intro m w
  have left := first m w
  rw [bind_apply]
  cases result : run m w with
  | mk ending after =>
    rw [result] at left
    cases ending with
    | ok a =>
      obtain ⟨kept, ends⟩ := rest a m after
      dsimp only at left ⊢
      generalize (next a m after).1 = ending at ends ⊢
      rw [kept]
      cases left with
      | spared grown => exact .spared grown
      | told stored =>
        rcases ends with ⟨b, given⟩ | ⟨refuses, broken⟩
        · rw [given]
          exact .told stored
        · rw [broken]
          exact .untold refuses stored
    | failed e =>
      cases left with
      | spared grown => exact .spared grown
    | aborted =>
      cases left with
      | spared grown => exact .spared grown
      | untold refuses stored => exact .untold refuses stored

theorem WritesLast.mapError {run : Run σ ε α} (last : run.WritesLast) (f : ε → δ) :
    WritesLast (run.mapError f) := by
  intro m w
  have left := last m w
  unfold Run.mapError
  generalize run m w = result at left
  obtain ⟨ending, after⟩ := result
  dsimp only at left ⊢
  generalize after.files = files at left
  cases left with
  | spared grown => exact .spared grown
  | told stored => exact .told stored
  | untold refuses stored => exact .untold refuses stored

/-- A change of the files that is a write, and makes directories at most where it fails. -/
theorem WritesLast.change {write : Files.Disk → Files → Except ε α × Files}
    (stored : ∀ {disk f a g}, write disk f = (.ok a, g) →
      ∃ path bytes, f.writeOn disk path bytes = (.ok (), g))
    (undone : ∀ {disk f e g}, write disk f = (.error e, g) → f.Grown g) :
    WritesLast (Run.change write : Run σ ε α) := by
  intro m w
  unfold Run.change
  cases written : write m.disk w.files with
  | mk result files =>
    cases result with
    | error e => exact .spared (undone written)
    | ok a =>
      obtain ⟨path, bytes, moved⟩ := stored written
      exact .told moved

/-- A run that appends at most writes last. -/
theorem Appends.writesLast {run : Run σ ε α} {quiet : Bool} {log : AppendLog γ}
    {given? : α → Option γ} (appends : run.Appends quiet log given?) : run.WritesLast := by
  intro m w
  have left := appends m w
  generalize (run m w).1 = ending at left ⊢
  generalize (run m w).2.files = files at left ⊢
  cases left with
  | stored _ step =>
    obtain ⟨before, -, -, stored⟩ := AppendLog.stored_of_append_ok step
    exact .told stored
  | skipped _ => exact .spared (.refl _)
  | stopped _ => exact .spared (.refl _)
  | refused _ step => exact .spared (AppendLog.grown_of_append_error step)
  | untold hidden step =>
    obtain ⟨before, -, -, stored⟩ := AppendLog.stored_of_append_ok step
    exact .untold (fun takes => hidden (takes.shows _)) stored

end Run

variable {σ : Type}

namespace Assistant.Document

theorem stored_of_save_ok {d : Document} {disk : Files.Disk} {f g : Files} {a : Unit}
    (saved : d.save disk f = (.ok a, g)) : ∃ path bytes, f.writeOn disk path bytes = (.ok (), g) := by
  unfold save at saved
  split at saved
  case h_1 stored =>
    cases saved
    exact ⟨_, _, stored⟩
  case h_2 => cases saved

theorem grown_of_save_error {d : Document} {disk : Files.Disk} {f g : Files} {e : Error}
    (failed : d.save disk f = (.error e, g)) : f.Grown g := by
  unfold save at failed
  split at failed
  case h_1 => cases failed
  case h_2 stopped =>
    cases failed
    exact Files.grown_of_writeOn_error stopped

end Assistant.Document

theorem Summary.writesLast_run (w : Workspace) (network path : String) :
    (Summary.run w network path : Run σ Failure Nat).WritesLast := by
  unfold Summary.run
  refine .after (.mapError (.look _) _) fun entries => .before ?_ fun _ => .pure _
  exact .mapError (.change (fun stored => ⟨_, _, stored⟩) Files.grown_of_writeOn_error) _

/-! ## The deployment programs -/

namespace Command

variable {host : Host σ}

theorem keeps_openWorkspace (root? : Option String) :
    (openWorkspace root? : Run σ Refusal Workspace).Keeps :=
  .mapError (.look _) _

theorem keeps_setup (host : Host σ) (a : Arguments) : (setup host a).Keeps := by
  unfold setup loadEnvironment
  refine .bind (keeps_openWorkspace _) fun w => .bind (.bind (.look _) fun loaded => ?_) fun env => ?_
  · obtain ⟨loading, env⟩ := loaded
    cases loading with
    | loaded => exact .pure env
    | malformed => exact .fail _
    | aborted => exact .ofEnding _
  · exact .bind (.mapError (.look _) _) fun config => .pure _

theorem keeps_endpoint (s : Setup) : (s.endpoint : Run σ Failure Endpoint).Keeps :=
  .ofExcept _

theorem keeps_connect (s : Setup) (host : Host σ) (e : Endpoint) : (s.connect host e).Keeps :=
  .mapError (.ask _) _

theorem keeps_openSession (s : Setup) (host : Host σ) (deployment : DeploymentRecord) :
    (openSession s host deployment).Keeps := by
  unfold openSession
  refine .bind (keeps_endpoint s) fun e => .bind (keeps_connect s host e) fun client => ?_
  refine .bind (.mapError (.ask _) _) fun signers => ?_
  cases Roles.ofSigners? signers (seed deployment host.now) with
  | none => exact .fail _
  | some roles =>
    exact .bind (.ofExcept _) fun address => .bind (.ofEnding _) fun contract => .pure _

theorem writesLast_deployer (host : Host σ) (a : Arguments) : (deployer host a).WritesLast := by
  unfold deployer
  refine .after (keeps_setup host a) fun s => ?_
  refine .after (.mapError (keeps_endpoint s) _) fun e => ?_
  refine .after (.mapError (keeps_connect s host e) _) fun client => ?_
  refine .before ?_ fun _ => .pure _
  exact .mapError (Run.Appends.writesLast (Deployment.run_appends _ _ _)) _

theorem writesLast_interactor (host : Host σ) (a : Arguments) : (interactor host a).WritesLast := by
  unfold interactor
  refine .after (keeps_setup host a) fun s => ?_
  refine .before ?_ fun _ => .status _ _
  exact .mapError (Run.Appends.writesLast (Interaction.run_appends _ (keeps_openSession s host) _)) _

theorem writesLast_summarizer (a : Arguments) : (summarizer a : Run σ Refusal Unit).WritesLast := by
  unfold summarizer
  refine .after (keeps_openWorkspace _) fun w => .after (.look _) fun isThere => ?_
  split
  · exact Run.Keeps.writesLast (.fail _)
  · exact .before (.mapError (Summary.writesLast_run _ _ _) _) fun _ => .status _ _

theorem keeps_checkToken (client : Client σ) (text : String) : (checkToken client text).Keeps := by
  unfold checkToken
  refine .bind (.ofExcept _) fun address => .bind (Interaction.keeps_call _ _) fun symbol => ?_
  refine .bind (Interaction.keeps_call _ _) fun decimals => ?_
  refine .bind (Interaction.keeps_call _ _) fun amount => ?_
  exact .bind (Interaction.keeps_shown _ _) fun balance => .printLine _

theorem keeps_networkChecker (host : Host σ) (a : Arguments) : (networkChecker host a).Keeps := by
  unfold networkChecker checkNetwork
  refine .bind (keeps_setup host a) fun s => .mapError (.bind (keeps_endpoint s) fun e => ?_) _
  refine .bind (.printLine _) fun _ => .bind (keeps_connect s host e) fun client => ?_
  refine .bind (.printLine _) fun _ => .bind (.printLine _) fun _ => ?_
  refine .bind (.mapError (.ask _) _) fun amount => .bind (Interaction.keeps_shown _ _) fun _ => ?_
  refine .bind (.printLine _) fun _ => ?_
  dsimp only
  split
  · exact .bind (keeps_checkToken _ _) fun _ => .printLine _
  · exact .printLine _

/-! ## The assistant -/

namespace Task

open TokenDesk.Assistant

theorem writesLast_save (d : Document) (line : String) : (save d line : Run σ Refusal Unit).WritesLast :=
  .before (.mapError (.change Document.stored_of_save_ok Document.grown_of_save_error) _) fun _ => .print _

theorem writesLast_runTemplate (w : Workspace) (file : String) (line : Nat) :
    (runTemplate w file line : Run σ Refusal Unit).WritesLast := by
  unfold runTemplate
  refine .after (.mapError (.look _) _) fun d => ?_
  exact .after (.ofEnding _) fun d => writesLast_save _ _

theorem writesLast_runNatspec (w : Workspace) (file : String) (today : Time.Date) :
    (runNatspec w file today : Run σ Refusal Unit).WritesLast := by
  unfold runNatspec
  refine .after (.mapError (.look _) _) fun d => ?_
  dsimp only
  split
  · exact Run.Keeps.writesLast (.fail _)
  · exact .after (.ofEnding _) fun d => writesLast_save _ _

theorem keeps_analyzeEach (host : Host σ) (w : Workspace) (image : String) (files : List String) :
    (analyzeEach host w image files).Keeps := by
  induction files with
  | nil => exact .pure ()
  | cons file files ih =>
    refine .bind (.printLine _) fun _ => .bind (.mapError (.look _) _) fun report => ?_
    exact .bind (.printLine _) fun _ => ih

theorem keeps_runAnalyze (host : Host σ) (w : Workspace) (file? : Option String) (image : String) :
    (runAnalyze host w file? image).Keeps := by
  have each (files : List String) : Run.Keeps
      (if files.isEmpty then Run.fail (.noSources w.root) else analyzeEach host w image files) := by
    split
    · exact .fail _
    · exact keeps_analyzeEach _ _ _ _
  unfold runAnalyze
  cases file? with
  | some file => exact .bind (.pure _) each
  | none => exact .bind (.mapError (.look _) _) each

theorem keeps_runDeployment (w : Workspace) (network? : Option String) :
    (runDeployment w network? : Run σ Refusal Unit).Keeps := by
  unfold runDeployment
  cases network? with
  | some network => exact .bind (.mapError (.look _) _) fun record => .printLine _
  | none =>
    refine .bind (.look _) fun networks => ?_
    split
    · exact .fail _
    · exact .print _

theorem writesLast_runSnippet (w : Workspace) (network : String) (function? : Option String)
    (place? : Option (String × Nat)) :
    (runSnippet w network function? place? : Run σ Refusal Unit).WritesLast := by
  unfold runSnippet
  refine .after (.mapError (.look _) _) fun record => ?_
  cases function? with
  | none => exact Run.Keeps.writesLast (.print _)
  | some function =>
    refine .after (.ofExcept _) fun snippet => ?_
    cases place? with
    | none => exact Run.Keeps.writesLast (.print _)
    | some place =>
      refine .after (.mapError (.look _) _) fun d => ?_
      exact .after (.ofEnding _) fun d => writesLast_save _ _

theorem keeps_runAdvise (host : Host σ) (question : List String) :
    (runAdvise host question).Keeps := by
  unfold runAdvise
  split
  · refine .bind (.printLine _) fun _ => .bind (.offer _) fun refused? => ?_
    cases refused? with
    | some cause => exact .fail _
    | none =>
      dsimp only
      split
      · exact .fail _
      · exact .pure ()
  · exact .printLine _

theorem writesLast_run (host : Host σ) (w : Workspace) (task : Task) : (task.run host w).WritesLast := by
  cases task with
  | template file line => exact writesLast_runTemplate w file line
  | natspec file => exact writesLast_runNatspec w file _
  | analyze file? image => exact Run.Keeps.writesLast (keeps_runAnalyze host w file? image)
  | deployment network? => exact Run.Keeps.writesLast (keeps_runDeployment w network?)
  | snippet network function? place? => exact writesLast_runSnippet w network function? place?
  | advise question => exact Run.Keeps.writesLast (keeps_runAdvise host question)

end Task

/-! ## All programs -/

namespace Program

theorem writesLast_withOptions {program : Arguments → Run σ Refusal Unit}
    (spared : ∀ a, (program a).WritesLast) (settings : List Setting) (arguments : List String) :
    (withOptions settings arguments program).WritesLast := by
  unfold withOptions
  cases Arguments.ofOptions? settings arguments with
  | some a => exact spared a
  | none => exact Run.Keeps.writesLast (.fail _)

theorem writesLast_run (p : Program) (host : Host σ) (arguments : List String) :
    (p.run host arguments).WritesLast := by
  cases p with
  | deployer => exact writesLast_withOptions (writesLast_deployer host) _ _
  | interactor => exact writesLast_withOptions (writesLast_interactor host) _ _
  | summarizer => exact writesLast_withOptions writesLast_summarizer _ _
  | networkChecker =>
    exact writesLast_withOptions (fun a => Run.Keeps.writesLast (keeps_networkChecker host a)) _ _
  | assistant =>
    dsimp only [run]
    split
    · exact Run.Keeps.writesLast (.fail _)
    · exact .after (keeps_openWorkspace _) fun w => Task.writesLast_run host w _

/-- A program that ends with another code than zero leaves every regular file as it was and adds none, and
whatever stood still stands; or it has broken off because the output refuses a text, and has written one
file before. -/
theorem file?_of_broken (p : Program) (host : Host σ) (arguments : List String) (m : Machine)
    (w : World σ) (broken : exitCode (p.run host arguments m w).1 ≠ 0) :
    ((∀ at_, (p.run host arguments m w).2.files.tree.file? at_ = w.files.tree.file? at_) ∧
        ∀ at_ entry, w.files.tree.get? at_ = some entry →
          (p.run host arguments m w).2.files.tree.get? at_ = some entry) ∨
      ¬m.Takes ∧ (p.run host arguments m w).1 = .aborted ∧
        ∃ path bytes, w.files.writeOn m.disk path bytes = (.ok (), (p.run host arguments m w).2.files) := by
  have left := writesLast_run p host arguments m w
  generalize (p.run host arguments m w).1 = ending at left broken ⊢
  generalize (p.run host arguments m w).2.files = files at left ⊢
  cases left with
  | spared grown => exact .inl ⟨grown.tree.file?_eq, grown.tree.kept⟩
  | told stored => exact absurd rfl broken
  | untold refuses stored => exact .inr ⟨refuses, rfl, _, _, stored⟩

/-- A host without a node, a container or a variable. -/
def bareHost : Host Unit :=
  ⟨[], ⟨⟨2024, 1, 1⟩, 0, 0⟩, [], fun _ => .absent Unit, .prompt, fun _ => none⟩

/-- An empty report log. -/
def reportFiles : Files :=
  ⟨⟨[(["reports"], .directory),
    (["reports", "interaction-report.n.json"], .file (octets "[]"))]⟩, []⟩

/-- A summary that is to be written over the directory above a new one. -/
def misplacedRun : Ending Refusal Unit × World Unit :=
  summarizer.run bareHost ["--workspace", "/", "--network", "n", "--output", "/out/.."] .steady
    ⟨reportFiles, (), ""⟩

/-- That write fails after a directory has been made for it, and the log is as it was. -/
theorem file?_of_misplacedRun :
    exitCode misplacedRun.1 ≠ 0 ∧ misplacedRun.2.files.tree.get? ["out"] = some .directory ∧
      (∀ at_, misplacedRun.2.files.tree.file? at_ = reportFiles.tree.file? at_) ∧
      misplacedRun.2.files.tree.file? ["reports", "interaction-report.n.json"] =
        some (octets "[]") := by
  have broken : exitCode misplacedRun.1 ≠ 0 := by decide +kernel
  rcases file?_of_broken summarizer bareHost _ .steady ⟨reportFiles, (), ""⟩ broken with
    ⟨same, -⟩ | ⟨refuses, -⟩
  · exact ⟨broken, by decide +kernel, same, (same _).trans (by decide +kernel)⟩
  · exact absurd Machine.steady_takes refuses

/-- A summary on a machine that cannot show that it is written. -/
def muteRun : Ending Refusal Unit × World Unit :=
  summarizer.run bareHost ["--workspace", "/", "--network", "n"] (.mute AppendLog.noSpace)
    ⟨reportFiles, (), ""⟩

/-- That run breaks off and leaves a new file. -/
theorem muteRun_writes : exitCode muteRun.1 = 101 ∧
    reportFiles.tree.file? ["reports", "interaction-summary.csv"] = none ∧
    muteRun.2.files.tree.file? ["reports", "interaction-summary.csv"] =
      some (octets (String.intercalate "," Summary.headers)) := by
  decide +kernel

end Program

end Command

end TokenDesk
