import TokenDesk.Proofs.Run.Reload

/-!
# The calls of a deployment

A deployment asks for the account when it has read the compiled contract, and deploys the contract when the
account suits its constructor; it makes neither call twice. The log changes exactly if the run gives a record,
and then it is this record that is appended (`Deployment.run_calls`).
-/

set_option autoImplicit false

namespace TokenDesk

open TokenDesk.Text
open TokenDesk.Json

variable {σ ε δ α β : Type}

/-! ## Journals -/

/-- A call of a factory with its answer. -/
inductive FactoryCall where
  | deployer (answer : Ending String Address)
  | deploy (artifact : Artifact) (arguments : ConstructorArguments) (answer : Ending String Address)

namespace FactoryCall

/-- Which call it is, whatever is asked and answered. -/
inductive Kind where | deployer | deploy
  deriving DecidableEq

def kind : FactoryCall → Kind
  | deployer _ => .deployer
  | deploy _ _ _ => .deploy

end FactoryCall

/-- The factory that keeps a journal of its calls besides. -/
def Factory.recorded (factory : Factory σ) : Factory (σ × List FactoryCall) where
  deployer state :=
    let (answer, chain) := factory.deployer state.1
    (answer, chain, state.2 ++ [.deployer answer])
  deploy artifact arguments state :=
    let (answer, chain) := factory.deploy artifact arguments state.1
    (answer, chain, state.2 ++ [.deploy artifact arguments answer])

/-- The world with a journal beside its chain. -/
def World.recorded (w : World σ) (calls : List FactoryCall) : World (σ × List FactoryCall) :=
  { w with chain := (w.chain, calls) }

namespace Run

/-- On a machine, from a world, a run with a journal does what the run without one does, and what it adds to
the journal, how it ends and which files it leaves have a property. -/
def Records (m : Machine) (w : World σ) (recorded : Run (σ × List FactoryCall) ε α) (run : Run σ ε α)
    (good : List FactoryCall → Ending ε α → Files → Prop) : Prop :=
  ∃ calls, (∀ said, recorded m (w.recorded said) =
      ((run m w).1, (run m w).2.recorded (said ++ calls))) ∧
    good calls (run m w).1 (run m w).2.files

variable {m : Machine} {w : World σ} {good : List FactoryCall → Ending ε α → Files → Prop}
  {next : β → Run σ ε α} {next' : β → Run (σ × List FactoryCall) ε α}

theorem Records.pure {a : α} (holds : good [] (.ok a) w.files) :
    Records m w (Pure.pure a) (Pure.pure a) good :=
  ⟨[], fun said => by rw [List.append_nil]; rfl, holds⟩

theorem Records.look (read : Files → Except δ β) {f : δ → ε}
    (failed : ∀ e, read w.files = .error e → good [] (.failed (f e)) w.files)
    (rest : ∀ b, read w.files = .ok b → Records m w (next' b) (next b) good) :
    Records m w ((Run.look read).mapError f >>= next') ((Run.look read).mapError f >>= next) good := by
  have there (said : List FactoryCall) : (w.recorded said).files = w.files := rfl
  unfold Records
  simp only [bind_apply, Run.mapError, Run.look, there]
  cases result : read w.files with
  | error e => exact ⟨[], fun said => by rw [List.append_nil]; rfl, failed e result⟩
  | ok b => exact rest b result

theorem Records.ofExcept (result : Except δ β) {f : δ → ε}
    (failed : ∀ e, result = .error e → good [] (.failed (f e)) w.files)
    (rest : ∀ b, result = .ok b → Records m w (next' b) (next b) good) :
    Records m w ((Run.ofExcept result).mapError f >>= next')
      ((Run.ofExcept result).mapError f >>= next) good :=
  .look (fun _ => result) failed rest

theorem Records.status {quiet : Bool} (shows : m.Shows quiet) (line : String)
    {next : Unit → Run σ ε α} {next' : Unit → Run (σ × List FactoryCall) ε α}
    (rest : ∀ after, after.files = w.files → Records m after (next' ()) (next ()) good) :
    Records m w (Run.status quiet line >>= next') (Run.status quiet line >>= next) good := by
  cases quiet with
  | true => exact rest w rfl
  | false =>
    have printed {τ : Type} (v : World τ) : (Run.status false line : Run τ ε Unit) m v =
        (.ok (), { v with output := v.output ++ (line ++ "\n") }) := print_apply (shows rfl) _ v
    unfold Records
    simp only [bind_apply, printed]
    exact rest { w with output := w.output ++ (line ++ "\n") } rfl

/-- A call is entered with its answer. -/
theorem Records.ask {answer : σ → Ending δ β × σ}
    {answer' : σ × List FactoryCall → Ending δ β × (σ × List FactoryCall)}
    {call : Ending δ β → FactoryCall} {f : δ → ε}
    (entered : ∀ chain said, answer' (chain, said) =
      ((answer chain).1, (answer chain).2, said ++ [call (answer chain).1]))
    (failed : ∀ e, good [call (.failed e)] (.failed (f e)) w.files)
    (aborted : good [call .aborted] .aborted w.files)
    (rest : ∀ b after, after.files = w.files →
      Records m after (next' b) (next b) fun more => good (call (.ok b) :: more)) :
    Records m w ((Run.ask answer').mapError f >>= next') ((Run.ask answer).mapError f >>= next) good := by
  have there (said : List FactoryCall) : (w.recorded said).chain = (w.chain, said) := rfl
  unfold Records
  simp only [bind_apply, Run.mapError, Run.ask, there, entered]
  cases result : answer w.chain with
  | mk ending chain =>
    cases ending with
    | failed e => exact ⟨_, fun said => rfl, failed e⟩
    | aborted => exact ⟨_, fun said => rfl, aborted⟩
    | ok b =>
      obtain ⟨more, goes, holds⟩ := rest b { w with chain := chain } rfl
      refine ⟨call (.ok b) :: more, fun said => ?_, holds⟩
      have later := goes (said ++ [call (.ok b)])
      rw [List.append_assoc, List.singleton_append] at later
      exact later

theorem Records.change (write : Files.Disk → Files → Except δ β × Files) {f : δ → ε}
    (failed : ∀ e g, write m.disk w.files = (.error e, g) → good [] (.failed (f e)) g)
    (rest : ∀ b g after, write m.disk w.files = (.ok b, g) → after.files = g →
      Records m after (next' b) (next b) good) :
    Records m w ((Run.change write).mapError f >>= next') ((Run.change write).mapError f >>= next)
      good := by
  have there (said : List FactoryCall) : (w.recorded said).files = w.files := rfl
  unfold Records
  simp only [bind_apply, Run.mapError, Run.change, there]
  cases result : write m.disk w.files with
  | mk ending g =>
    cases ending with
    | error e => exact ⟨[], fun said => by rw [List.append_nil]; rfl, failed e g result⟩
    | ok b => exact rest b g { w with files := g } result rfl

end Run

/-! ## Constructors -/

namespace Artifact

variable {artifact : Artifact} {deployer : Address} {arguments : ConstructorArguments}

/-- The item is the first constructor of the interface. -/
def BuiltBy (artifact : Artifact) (item : AbiItem) : Prop :=
  ∃ before after, artifact.abi = before ++ item :: after ∧ item.kind = "constructor" ∧
    ∀ other ∈ before, other.kind ≠ "constructor"

/-- What a deployer can give to the first constructor of the interface: nothing if there is none or it takes
nothing, and itself if it takes one address. -/
inductive Suits (artifact : Artifact) (deployer : Address) : ConstructorArguments → Prop
  | free (none : ∀ item ∈ artifact.abi, item.kind ≠ "constructor") : Suits artifact deployer .none
  | bare {item : AbiItem} (built : artifact.BuiltBy item) (inputs : item.inputs = []) :
      Suits artifact deployer .none
  | owned {item : AbiItem} {input : Parameter} (built : artifact.BuiltBy item)
      (inputs : item.inputs = [input]) (address : input.kind = "address") :
      Suits artifact deployer (.initialOwner deployer)

theorem constructor?_eq_none_iff :
    artifact.constructor? = none ↔ ∀ item ∈ artifact.abi, item.kind ≠ "constructor" := by
  simp [constructor?, AbiItem.isConstructor]

theorem constructor?_eq_some_iff {item : AbiItem} :
    artifact.constructor? = some item ↔ artifact.BuiltBy item := by
  rw [constructor?, List.find?_eq_some_iff_append, BuiltBy]
  simp only [AbiItem.isConstructor, beq_iff_eq, Bool.not_eq_true', beq_eq_false_iff_ne]
  constructor
  · rintro ⟨made, before, after, split, earlier⟩
    exact ⟨before, after, split, made, earlier⟩
  · rintro ⟨before, after, split, made, earlier⟩
    exact ⟨made, before, after, split, earlier⟩

theorem arguments_eq_ok_iff :
    artifact.arguments deployer = .ok arguments ↔ artifact.Suits deployer arguments := by
  constructor
  · intro taken
    unfold Artifact.arguments at taken
    cases found : artifact.constructor? with
    | none =>
      rw [found] at taken
      cases taken
      exact .free (constructor?_eq_none_iff.mp found)
    | some item =>
      have built := constructor?_eq_some_iff.mp found
      rw [found, Option.map_some] at taken
      split at taken
      case h_1 none => cases none
      case h_2 inputs =>
        cases taken
        exact .bare built (Option.some.inj inputs)
      case h_3 input inputs =>
        split at taken
        case isTrue address =>
          cases taken
          exact .owned built (Option.some.inj inputs) address
        case isFalse => cases taken
      case h_4 => cases taken
  · intro suits
    unfold Artifact.arguments
    cases suits with
    | free none => rw [constructor?_eq_none_iff.mpr none]; rfl
    | bare built inputs => rw [constructor?_eq_some_iff.mpr built, Option.map_some, inputs]
    | owned built inputs address =>
      rw [constructor?_eq_some_iff.mpr built, Option.map_some, inputs]
      exact if_pos address

end Artifact

/-! ## Courses -/

namespace Deployment

/-- How a deployment goes at a point in time from files on a disk: which calls it makes with which answers, how
it ends and which files it leaves. -/
inductive Course (d : Deployment) (now : Time.Instant) (disk : Files.Disk) (f : Files) :
    List FactoryCall → Ending Failure DeploymentRecord → Files → Prop
  | unread {cause : Workspace.Error} (unread : d.workspace.loadArtifact d.source d.contract f = .error cause) :
      Course d now disk f [] (.failed (.workspace cause)) f
  | unknown {artifact : Artifact} {answer : Ending String Address}
      {ending : Ending Failure DeploymentRecord}
      (read : d.workspace.loadArtifact d.source d.contract f = .ok artifact)
      (unknown : ∀ deployer, answer ≠ .ok deployer) (broken : ∀ record, ending ≠ .ok record) :
      Course d now disk f [.deployer answer] ending f
  | unsuited {artifact : Artifact} {deployer : Address} {cause : Artifact.Error}
      (read : d.workspace.loadArtifact d.source d.contract f = .ok artifact)
      (unsuited : artifact.arguments deployer = .error cause) :
      Course d now disk f [.deployer (.ok deployer)] (.failed (.undeployable cause)) f
  | refused {artifact : Artifact} {deployer : Address} {arguments : ConstructorArguments}
      {answer : Ending String Address} {ending : Ending Failure DeploymentRecord}
      (read : d.workspace.loadArtifact d.source d.contract f = .ok artifact)
      (suited : artifact.arguments deployer = .ok arguments)
      (refused : ∀ instanceAt, answer ≠ .ok instanceAt) (broken : ∀ record, ending ≠ .ok record) :
      Course d now disk f [.deployer (.ok deployer), .deploy artifact arguments answer] ending f
  | unsaved {artifact : Artifact} {deployer instanceAt : Address} {arguments : ConstructorArguments}
      {cause : LogError} {g : Files}
      (read : d.workspace.loadArtifact d.source d.contract f = .ok artifact)
      (suited : artifact.arguments deployer = .ok arguments)
      (unsaved : (d.workspace.deploymentLog d.network).append (d.record artifact deployer instanceAt now) disk f =
        (.error cause, g)) :
      Course d now disk f [.deployer (.ok deployer), .deploy artifact arguments (.ok instanceAt)]
        (.failed (.log cause)) g
  | saved {artifact : Artifact} {deployer instanceAt : Address} {arguments : ConstructorArguments}
      {count : Nat} {g : Files}
      (read : d.workspace.loadArtifact d.source d.contract f = .ok artifact)
      (suited : artifact.arguments deployer = .ok arguments)
      (saved : (d.workspace.deploymentLog d.network).append (d.record artifact deployer instanceAt now) disk f =
        (.ok count, g)) :
      Course d now disk f [.deployer (.ok deployer), .deploy artifact arguments (.ok instanceAt)]
        (.ok (d.record artifact deployer instanceAt now)) g

/-- A run whose lines can be printed takes a course, and with a journal it enters the calls of it. -/
theorem records_run (d : Deployment) (factory : Factory σ) (now : Time.Instant) {m : Machine}
    (shows : m.Shows d.quiet) (w : World σ) :
    Run.Records m w (d.run factory.recorded now) (d.run factory now) (d.Course now m.disk w.files) := by
  unfold run
  -- A course tells of the files at the start, so that they stay is carried along until the append.
  refine .look _ (fun cause unread => .unread unread) fun artifact read => ?_
  refine .ask (fun chain said => rfl) (fun e => .unknown read nofun nofun) (.unknown read nofun nofun)
    fun deployer asked same => ?_
  refine .ofExcept _ (fun cause unsuited => ?_) fun arguments suited => ?_
  · rw [same]
    exact .unsuited read unsuited
  refine .status shows _ fun told same' => ?_
  have same := same'.trans same
  refine .ask (fun chain said => rfl) (fun e => ?_) ?_ fun instanceAt deployed same' => ?_
  · rw [same]
    exact .refused read suited nofun nofun
  · rw [same]
    exact .refused read suited nofun nofun
  have same := same'.trans same
  refine .status shows _ fun shown same' => ?_
  have same := same'.trans same
  refine .change _ (fun cause g unsaved => ?_) fun count g after saved left => ?_
  · rw [same] at unsaved
    exact .unsaved read suited unsaved
  · rw [same] at saved
    refine .status shows _ fun last same' => .pure ?_
    rw [same', left]
    exact .saved read suited saved

/-! ## What every course has -/

variable {d : Deployment} {now : Time.Instant} {disk : Files.Disk} {f g : Files} {calls : List FactoryCall}
  {ending : Ending Failure DeploymentRecord}

/-- The account is asked for once if the contract could be read, and then the contract is deployed once if the
account suits its constructor. -/
structure Ordered (d : Deployment) (f : Files) (calls : List FactoryCall) : Prop where
  order : calls.map FactoryCall.kind <+: [.deployer, .deploy]
  asks : calls ≠ [] ↔ ∃ artifact, d.workspace.loadArtifact d.source d.contract f = .ok artifact
  deploys : ∀ artifact arguments, (∃ answer, .deploy artifact arguments answer ∈ calls) ↔
    d.workspace.loadArtifact d.source d.contract f = .ok artifact ∧
      ∃ deployer, .deployer (.ok deployer) ∈ calls ∧ artifact.Suits deployer arguments

theorem Ordered.asked {artifact : Artifact} {answer : Ending String Address}
    (read : d.workspace.loadArtifact d.source d.contract f = .ok artifact)
    (unsuited : ∀ deployer arguments, answer = .ok deployer → ¬artifact.Suits deployer arguments) :
    d.Ordered f [.deployer answer] where
  order := ⟨[.deploy], rfl⟩
  asks := by simp [read]
  deploys other arguments := by
    constructor
    · rintro ⟨answer, member⟩
      cases List.mem_singleton.mp member
    · rintro ⟨found, deployer, member, suits⟩
      rw [read] at found
      cases found
      cases List.mem_singleton.mp member
      exact absurd suits (unsuited deployer arguments rfl)

theorem Ordered.deployed {artifact : Artifact} {deployer : Address} {arguments : ConstructorArguments}
    {answer : Ending String Address}
    (read : d.workspace.loadArtifact d.source d.contract f = .ok artifact)
    (suited : artifact.arguments deployer = .ok arguments) :
    d.Ordered f [.deployer (.ok deployer), .deploy artifact arguments answer] where
  order := List.prefix_rfl
  asks := by simp [read]
  deploys other given := by
    constructor
    · rintro ⟨answer, member⟩
      obtain ⟨rfl, rfl, -⟩ : other = artifact ∧ given = arguments ∧ _ := by simpa using member
      exact ⟨read, deployer, by simp, Artifact.arguments_eq_ok_iff.mp suited⟩
    · rintro ⟨found, other, member, suits⟩
      rw [read] at found
      cases found
      obtain rfl : other = deployer := by simpa using member
      rw [← Artifact.arguments_eq_ok_iff, suited] at suits
      cases suits
      exact ⟨answer, by simp⟩

theorem Course.ordered (course : d.Course now disk f calls ending g) : d.Ordered f calls := by
  cases course with
  | unread unread => exact ⟨List.nil_prefix, by simp [unread], by simp [unread]⟩
  | unknown read unknown broken =>
    exact .asked read fun deployer _ answered => absurd answered (unknown deployer)
  | unsuited read unsuited =>
    refine .asked read fun other arguments answered suits => ?_
    cases answered
    rw [← Artifact.arguments_eq_ok_iff, unsuited] at suits
    cases suits
  | refused read suited => exact .deployed read suited
  | unsaved read suited => exact .deployed read suited
  | saved read suited => exact .deployed read suited

/-- A record of what was asked for and answered, appended to a log. -/
structure Recorded (d : Deployment) (f : Files) (calls : List FactoryCall) (record : DeploymentRecord)
    (g : Files) : Prop where
  contract : record.contract = d.contract
  network : record.network = d.network
  answers : ∃ artifact arguments deployer instanceAt,
    d.workspace.loadArtifact d.source d.contract f = .ok artifact ∧
      calls = [.deployer (.ok deployer), .deploy artifact arguments (.ok instanceAt)] ∧
      record.deployer = deployer.checksum ∧ record.address = instanceAt.checksum ∧ record.abi = artifact.abi
  appended : ∃ before, (d.workspace.deploymentLog d.network).parse Json.read f = .ok before ∧
    g.content? (d.workspace.deploymentLog d.network).path =
      some (octets (AppendLog.text (before ++ [record.toJson.sorted])))

theorem Course.recorded (course : d.Course now disk f calls ending g) {record : DeploymentRecord}
    (given : ending = .ok record) : d.Recorded f calls record g := by
  cases course with
  | unread => cases given
  | unknown read unknown broken => exact absurd given (broken record)
  | unsuited => cases given
  | refused read suited refused broken => exact absurd given (broken record)
  | unsaved => cases given
  | saved read suited saved =>
    cases given
    obtain ⟨before, parsed, -, content⟩ := AppendLog.content?_of_append_ok saved
    exact ⟨rfl, rfl, ⟨_, _, _, _, read, rfl, rfl, rfl, rfl⟩, before, parsed, content⟩

/-- A course that ends without a record leaves the files or ends with an append that failed. -/
theorem Course.broken (course : d.Course now disk f calls ending g)
    (broken : ∀ record, ending ≠ .ok record) : g = f ∨ ∃ record cause,
      (d.workspace.deploymentLog d.network).append record disk f = (.error cause, g) := by
  cases course with
  | unread => exact .inl rfl
  | unknown => exact .inl rfl
  | unsuited => exact .inl rfl
  | refused => exact .inl rfl
  | unsaved read suited unsaved => exact .inr ⟨_, _, unsaved⟩
  | saved => exact absurd rfl (broken _)

/-- Only a course that ends with a record changes the log. -/
theorem Course.changes (course : d.Course now disk f calls ending g) (sound : f.tree.WellFormed)
    (harmless : disk.Harmless (d.workspace.deploymentLog d.network).path) :
    g.content? (d.workspace.deploymentLog d.network).path ≠
        f.content? (d.workspace.deploymentLog d.network).path ↔ ∃ record, ending = .ok record := by
  constructor
  · intro other
    by_contra none
    rcases course.broken fun record given => none ⟨record, given⟩ with rfl | ⟨record, cause, failed⟩
    · exact other rfl
    · exact other (AppendLog.content?_of_append_error harmless sound failed)
  · intro ⟨record, given⟩
    cases course with
    | unread => cases given
    | unknown read unknown broken => exact absurd given (broken record)
    | unsuited => cases given
    | refused read suited refused broken => exact absurd given (broken record)
    | unsaved => cases given
    | saved read suited saved =>
      exact AppendLog.content?_ne_of_append_ok (DeploymentRecord.toJson_plain _) saved

/-- A course that ends without a record leaves every file. -/
theorem Course.file?_eq (course : d.Course now disk f calls ending g)
    (broken : ∀ record, ending ≠ .ok record) (at_ : Location) : g.tree.file? at_ = f.tree.file? at_ := by
  rcases course.broken broken with rfl | ⟨record, cause, failed⟩
  · rfl
  · exact (AppendLog.grown_of_append_error failed).tree.file?_eq at_

/-- A deployment asks for the account at most once and deploys at most once after that, and deploys only a
contract that it has read and whose constructor the account suits. The log changes exactly if the run gives a
record, and then by this record; without a record no file changes, whatever the disk refuses. -/
theorem run_calls (d : Deployment) (factory : Factory σ) (now : Time.Instant) (m : Machine)
    (shows : d.quiet = false → m.Takes) (w : World σ) (sound : w.files.tree.WellFormed) :
    ∃ calls, d.run factory.recorded now m (w.recorded []) =
        ((d.run factory now m w).1, (d.run factory now m w).2.recorded calls) ∧
      d.Ordered w.files calls ∧
      (m.disk.Harmless (d.workspace.deploymentLog d.network).path →
        ((d.run factory now m w).2.files.content? (d.workspace.deploymentLog d.network).path ≠
            w.files.content? (d.workspace.deploymentLog d.network).path ↔
          ∃ record, (d.run factory now m w).1 = .ok record)) ∧
      ((∀ record, (d.run factory now m w).1 ≠ .ok record) →
        ∀ at_, (d.run factory now m w).2.files.tree.file? at_ = w.files.tree.file? at_) ∧
      ∀ record, (d.run factory now m w).1 = .ok record →
        d.Recorded w.files calls record (d.run factory now m w).2.files := by
  obtain ⟨calls, same, course⟩ := records_run d factory now shows w
  exact ⟨calls, same [], course.ordered, course.changes sound, course.file?_eq,
    fun record => course.recorded⟩

/-- An interface whose constructor takes the owner. -/
def ownedInterface : List AbiItem :=
  [{ kind := "constructor", inputs? := some [.plain "initialOwner" "address"] }]

/-- A contract with an owner is deployed with two calls, and its log changes. -/
theorem run_calls_owned : Machine.steady.Takes ∧ (compiledFiles ownedInterface).tree.WellFormed ∧
    ∃ calls record after, ofCompiled.run openFactory newYear .steady
        ⟨compiledFiles ownedInterface, (), ""⟩ = (.ok record, after) ∧
      ofCompiled.run openFactory.recorded newYear .steady
          (World.recorded ⟨compiledFiles ownedInterface, (), ""⟩ []) = (.ok record, after.recorded calls) ∧
      ofCompiled.Ordered (compiledFiles ownedInterface) calls ∧
      after.files.content? compiledLog.path ≠ (compiledFiles ownedInterface).content? compiledLog.path ∧
      ofCompiled.Recorded (compiledFiles ownedInterface) calls record after.files := by
  have sound := compiledFiles_wellFormed ownedInterface
  obtain ⟨count, g, appended⟩ := append_compiled ownedInterface _
  have success : ofCompiled.run openFactory newYear .steady ⟨compiledFiles ownedInterface, (), ""⟩ =
      (.ok _, _) :=
    run_ok rfl (loadArtifact_compiled (by decide)) rfl rfl rfl appended
  obtain ⟨calls, same, ordered, changes, recorded⟩ :=
    run_calls ofCompiled openFactory newYear .steady (fun _ => Machine.steady_takes)
      ⟨compiledFiles ownedInterface, (), ""⟩ sound
  rw [success] at same changes recorded
  exact ⟨Machine.steady_takes, sound, calls, _, _, success, same, ordered,
    (changes (.inl Files.steady_willing)).mpr ⟨_, rfl⟩, recorded.2 _ rfl⟩

end Deployment

end TokenDesk
