import TokenDesk.Command.Pipeline
import TokenDesk.Proofs.Files.Writing
import TokenDesk.Proofs.Run.Course

/-!
# Quiet runs and loud runs

Two runs on one machine that differ in what they print end alike and leave the same files and the same
chain, up to the time that they record (`Twins`), where the output takes what they print. A deployment does
so always. An interaction does so unless its token has
more places than an amount can be shown with: then the loud run breaks off where it would tell of the
token, and the quiet run goes on from there (`quiet_alike_or_parted`).
-/

set_option autoImplicit false

namespace TokenDesk

variable {σ ε δ α β α' β' γ : Type}

/-- The same files and the same chain; what has been printed may differ. -/
structure World.Same (w v : World σ) : Prop where
  files : v.files = w.files
  chain : v.chain = w.chain

namespace World.Same

variable {u v w : World σ}

theorem refl (w : World σ) : w.Same w :=
  ⟨rfl, rfl⟩

theorem symm (same : w.Same v) : v.Same w :=
  ⟨same.files.symm, same.chain.symm⟩

theorem trans (first : u.Same v) (second : v.Same w) : u.Same w :=
  ⟨second.files.trans first.files, second.chain.trans first.chain⟩

end World.Same

namespace Run

/-! ## Twins -/

/-- Two runs ended alike: with values that fit each other and the files then, or both with one failure
or both broken off. -/
inductive Alike (fits : α → β → Files → Files → Prop) :
    Ending ε α × World σ → Ending ε β × World σ → Prop
  | ok {a : α} {b : β} {w v : World σ} (given : fits a b w.files v.files)
      (chain : v.chain = w.chain) : Alike fits (.ok a, w) (.ok b, v)
  | failed {w v : World σ} (e : ε) (same : w.Same v) : Alike fits (.failed e, w) (.failed e, v)
  | aborted {w v : World σ} (same : w.Same v) : Alike fits (.aborted, w) (.aborted, v)

/-- The same value and the same files. -/
def Equal (a b : α) (f g : Files) : Prop :=
  b = a ∧ g = f

/-- On a machine the runs end alike wherever they start from the same files and the same chain. -/
def Twins (m : Machine) (fits : α → β → Files → Files → Prop) (first : Run σ ε α)
    (second : Run σ ε β) : Prop :=
  ∀ ⦃w v⦄, w.Same v → Alike fits (first m w) (second m v)

/-- On a machine the run does not look at what has been printed. -/
def Blind (m : Machine) (run : Run σ ε α) : Prop :=
  Twins m Equal run run

variable {m : Machine}

/-- What a run gives it gives whatever has been printed. -/
theorem Blind.ok {run : Run σ ε α} (blind : run.Blind m) {w v after : World σ} {a : α}
    (same : w.Same v) (ends : run m w = (.ok a, after)) :
    ∃ last, run m v = (.ok a, last) ∧ after.Same last := by
  have alike := blind same
  rw [ends] at alike
  generalize run m v = other at alike
  cases alike with
  | ok given chain =>
    obtain ⟨rfl, files⟩ := given
    exact ⟨_, rfl, files, chain⟩

theorem Alike.keep (ending : Ending ε α) {w v : World σ} (same : w.Same v) :
    Alike Equal (ending, w) (ending, v) := by
  cases ending with
  | ok a => exact .ok ⟨rfl, same.files⟩ same.chain
  | failed e => exact .failed e same
  | aborted => exact .aborted same

theorem Alike.broken {fits : α → β → Files → Files → Prop} {first : Ending ε α × World σ}
    {second : Ending ε β × World σ} (alike : Alike fits first second) (stops : ∀ a, first.1 ≠ .ok a)
    (b : β) : second.1 ≠ .ok b := by
  cases alike with
  | ok given chain => exact absurd rfl (stops _)
  | failed e same => simp
  | aborted same => simp

/-- What follows two values that fit each other. -/
theorem Alike.bind {first : Run σ ε α} {second : Run σ ε β} {next : α → Run σ ε α'}
    {other : β → Run σ ε β'} {part : α → β → Files → Files → Prop}
    {fits : α' → β' → Files → Files → Prop} {w v : World σ}
    (start : Alike part (first m w) (second m v))
    (rest : ∀ {a b after last}, first m w = (.ok a, after) → part a b after.files last.files →
      last.chain = after.chain → Alike fits (next a m after) (other b m last)) :
    Alike fits ((first >>= next) m w) ((second >>= other) m v) := by
  rw [bind_apply, bind_apply]
  generalize first m w = left at start rest
  generalize second m v = right at start
  cases start with
  | ok given chain => exact rest rfl given chain
  | failed e same => exact .failed e same
  | aborted same => exact .aborted same

theorem Twins.bind {first second : Run σ ε α} {next : α → Run σ ε α'} {other : α → Run σ ε β'}
    {fits : α' → β' → Files → Files → Prop} (start : Twins m Equal first second)
    (rest : ∀ a, Twins m fits (next a) (other a)) :
    Twins m fits (first >>= next) (second >>= other) := by
  refine fun w v same => .bind (start same) fun {a b after last} _ ⟨given, files⟩ chain => ?_
  subst given
  exact rest _ ⟨files, chain⟩

theorem Twins.pure (a : α) : Twins m Equal (pure a : Run σ ε α) (pure a) :=
  fun _ _ same => .keep (.ok a) same

theorem Twins.ofEnding (ending : Ending ε α) :
    Twins m Equal (Run.ofEnding ending : Run σ ε α) (Run.ofEnding ending) :=
  fun _ _ same => .keep ending same

theorem Twins.ofExcept (result : Except ε α) :
    Twins m Equal (Run.ofExcept result : Run σ ε α) (Run.ofExcept result) :=
  fun _ _ same => .keep (.ofExcept result) same

theorem Twins.look (read : Files → Except ε α) :
    Twins m Equal (Run.look read : Run σ ε α) (Run.look read) := by
  intro w v same
  unfold Run.look
  rw [same.files]
  exact .keep _ same

theorem Twins.ask (answer : σ → Ending ε α × σ) : Twins m Equal (Run.ask answer) (Run.ask answer) := by
  intro w v same
  unfold Run.ask
  rw [same.chain]
  exact .keep _ ⟨same.files, rfl⟩

/-- Whether a line is printed does not matter where the output takes it. -/
theorem Twins.status (takes : m.Takes) (quiet other : Bool) (line : String) :
    Twins m Equal (Run.status quiet line : Run σ ε Unit) (Run.status other line) := by
  intro w v same
  obtain ⟨after, told, files, chain⟩ := status_apply (ε := ε) (takes.shows quiet) line w
  obtain ⟨last, said, files', chain'⟩ := status_apply (ε := ε) (takes.shows other) line v
  rw [told, said]
  exact .keep _ ⟨by rw [files', files, same.files], by rw [chain', chain, same.chain]⟩

theorem Alike.mapError {fits : α → β → Files → Files → Prop} {first : Ending ε α × World σ}
    {second : Ending ε β × World σ} (alike : Alike fits first second) (f : ε → δ) :
    Alike fits (first.1.mapError f, first.2) (second.1.mapError f, second.2) := by
  cases alike with
  | ok given chain => exact .ok given chain
  | failed e same => exact .failed (f e) same
  | aborted same => exact .aborted same

theorem Twins.mapError {fits : α → β → Files → Files → Prop} {first : Run σ ε α}
    {second : Run σ ε β} (twins : Twins m fits first second) (f : ε → δ) :
    Twins m fits (first.mapError f) (second.mapError f) :=
  fun _ _ same => (twins same).mapError f

theorem Twins.attempt {first second : Run σ ε α} (twins : Twins m Equal first second) :
    Twins m Equal first.attempt second.attempt := by
  intro w v same
  have alike := twins same
  unfold Run.attempt
  generalize first m w = left at alike
  generalize second m v = right at alike
  cases alike with
  | ok given chain => exact .ok ⟨by rw [given.1], given.2⟩ chain
  | failed e same => exact .ok ⟨rfl, same.files⟩ same.chain
  | aborted same => exact .aborted same

end Run

/-! ## Appending at two points in time -/

open Run

/-- The same files, with one entry appended and with another. -/
def AppendLog.Siblings (log : AppendLog γ) (disk : Files.Disk) (a b : γ) (f g : Files) : Prop :=
  ∃ before count, log.append a disk before = (.ok count, f) ∧ log.append b disk before = (.ok count, g)

/-- What is appended does not matter for whether that fails, and how. -/
theorem AppendLog.append_other (log : AppendLog γ) (a b : γ) (disk : Files.Disk) (f : Files) :
    (log.append b disk f).1 = (log.append a disk f).1 ∧
      ∀ e, (log.append a disk f).1 = .error e → log.append b disk f = log.append a disk f := by
  unfold append
  cases log.parse Json.read f with
  | error e => exact ⟨rfl, fun _ _ => rfl⟩
  | ok entries =>
    dsimp only
    generalize Text.octets (text (entries ++ [(log.format.toJson a).sorted])) = bytes
    generalize Text.octets (text (entries ++ [(log.format.toJson b).sorted])) = others
    obtain ⟨result, failed⟩ := Files.writeOn_other disk f log.path bytes others
    generalize f.writeOn disk log.path bytes = first at result failed ⊢
    generalize f.writeOn disk log.path others = second at result failed ⊢
    obtain ⟨_ | _, g⟩ := first
    · rw [failed _ rfl]
      exact ⟨rfl, fun _ _ => rfl⟩
    · obtain ⟨_, h⟩ := second
      cases result
      exact ⟨by simp, fun e broken => by cases broken⟩

variable {m : Machine}

theorem Run.Twins.append (log : AppendLog γ) (a b : γ) :
    Twins m (fun k n f g => k = n ∧ log.Siblings m.disk a b f g)
      (Run.change (log.append a) : Run σ LogError Nat) (Run.change (log.append b)) := by
  intro w v same
  obtain ⟨result, failed⟩ := log.append_other a b m.disk w.files
  unfold Run.change
  rw [same.files]
  cases first : log.append a m.disk w.files with
  | mk ending f =>
    rw [first] at result failed
    cases ending with
    | error e =>
      rw [failed e rfl]
      exact .failed e ⟨rfl, same.chain⟩
    | ok count =>
      cases second : log.append b m.disk w.files with
      | mk ending g =>
        rw [second] at result
        cases result
        exact .ok ⟨rfl, w.files, count, first, second⟩ same.chain

/-- An append, a line, and then what was appended. -/
theorem Run.Twins.last {log : AppendLog γ} {a b : γ} {c : α} {d : β} {line : Nat → String}
    {fits : α → β → Files → Files → Prop} (takes : m.Takes) (name : LogError → ε) (quiet other : Bool)
    (given : ∀ {f g}, log.Siblings m.disk a b f g → fits c d f g) :
    Twins m fits
      ((Run.change (log.append a)).mapError name >>= fun n =>
        Run.status quiet (line n) >>= fun _ => (Pure.pure c : Run σ ε α))
      ((Run.change (log.append b)).mapError name >>= fun n =>
        Run.status other (line n) >>= fun _ => Pure.pure d) := by
  refine fun w v same => .bind ((Twins.append log a b).mapError name same)
    fun {k n after last} _ ⟨same, siblings⟩ chain => ?_
  subst same
  obtain ⟨one, told, files, chain'⟩ :=
    status_bind (takes.shows quiet) (line k) (fun _ => (Pure.pure c : Run σ ε α)) after
  obtain ⟨two, said, files', chain''⟩ :=
    status_bind (takes.shows other) (line k) (fun _ => (Pure.pure d : Run σ ε β)) last
  rw [told, said]
  refine .ok (given ?_) (by rw [chain'', chain', chain])
  rwa [files, files']

/-! ## Deployments -/

/-- Records of one deployment at two points in time, and the files with either. -/
structure Deployment.Retimed (d : Deployment) (disk : Files.Disk) (now then_ : Time.Instant)
    (a b : DeploymentRecord) (f g : Files) : Prop where
  time : a.timestamp = now.truncate
  other : b = { a with timestamp := then_.truncate }
  files : (d.workspace.deploymentLog d.network).Siblings disk a b f g

/-- A deployment does the same whether or not it prints. -/
theorem Deployment.twins_run (takes : m.Takes) (d : Deployment) (quiet : Bool) (factory : Factory σ)
    (now then_ : Time.Instant) :
    Twins m (d.Retimed m.disk now then_) (d.run factory now)
      ({ d with quiet := quiet }.run factory then_) := by
  unfold Deployment.run
  refine .bind (.mapError (.look _) _) fun artifact => ?_
  refine .bind (.mapError (.ask _) _) fun deployer => ?_
  refine .bind (.mapError (.ofExcept _) _) fun arguments => .bind (.status takes _ _ _) fun _ => ?_
  refine .bind (.mapError (.ask _) _) fun instanceAt => .bind (.status takes _ _ _) fun _ => ?_
  exact .last takes _ _ _ fun siblings => ⟨rfl, rfl, siblings⟩

/-! ## Interactions -/

namespace Interaction

/-- Entries of one interaction at two points in time, and the files with either. -/
inductive Retimed (i : Interaction) (disk : Files.Disk) (now then_ : Time.Instant) :
    Option ReportEntry → Option ReportEntry → Files → Files → Prop
  | none (f : Files) : Retimed i disk now then_ none none f f
  | some {a b : ReportEntry} {f g : Files} (time : a.timestamp = now.truncate)
      (other : b = { a with timestamp := then_.truncate })
      (files : (i.workspace.reportLog i.network).Siblings disk a b f g) :
      Retimed i disk now then_ (some a) (some b) f g

variable (i : Interaction) (quiet : Bool)

theorem blind_call (token : Token σ) (c : TokenCall) : (call token c).Blind m :=
  .mapError (.ask _) _

theorem blind_shown (amount : Amount) (d : Nat) :
    (shown amount d : Run σ Failure String).Blind m :=
  .ofEnding _

theorem blind_profile (token : Token σ) : (profile token).Blind m := by
  unfold profile
  refine .bind (blind_call _ _) fun _ => .bind (blind_call _ _) fun _ => ?_
  exact .bind (blind_call _ _) fun _ => .bind (blind_call _ _) fun _ => .pure _

theorem blind_balance (token : Token σ) (d : Nat) (holder : Address) :
    (balance token d holder).Blind m :=
  .bind (blind_call _ _) fun _ => blind_shown _ _

theorem blind_balances (session : Session σ) (d : Nat) : (balances session d).Blind m := by
  unfold balances
  refine .bind (blind_balance _ _ _) fun _ => .bind (blind_balance _ _ _) fun _ => ?_
  exact .bind (blind_balance _ _ _) fun _ => .pure _

theorem blind_transaction (token : Token σ) (roles : Roles) (st : Stakes) (action : Action) :
    (transaction token roles st action).Blind m := by
  cases action <;> exact blind_call _ _

theorem twins_outcome (takes : m.Takes) (mode : Mode) (session : Session σ) (st : Stakes) (action : Action) :
    Twins m Equal (i.outcome mode session st action)
      ({ i with quiet := quiet }.outcome mode session st action) := by
  unfold outcome
  split
  · exact .pure _
  · refine .bind (.attempt (blind_transaction _ _ _ _)) fun result => ?_
    cases result <;> exact .bind (.status takes _ _ _) fun _ => .pure _

theorem twins_gasUsage (takes : m.Takes) (mode : Mode) (session : Session σ) (st : Stakes) :
    Twins m Equal (i.gasUsage mode session st)
      ({ i with quiet := quiet }.gasUsage mode session st) := by
  unfold gasUsage
  refine .bind (twins_outcome i quiet takes _ _ _ _) fun _ => ?_
  refine .bind (twins_outcome i quiet takes _ _ _ _) fun _ => ?_
  exact .bind (twins_outcome i quiet takes _ _ _ _) fun _ => .pure _

/-- Where amounts can be shown, telling of the token is printing a line. -/
theorem announce_eq {p : Profile} (few : p.decimals ≤ Amount.maxPlaces) : ∃ line, ∀ i : Interaction,
    (i.announce p : Run σ Failure Unit) = Run.status i.quiet line := by
  obtain ⟨text, same⟩ := shown_eq (σ := σ) few p.totalSupply
  refine ⟨"       Token " ++ p.name ++ " (" ++ p.symbol ++ "), " ++ Text.decimal p.decimals ++
    " decimals, total supply " ++ text ++ " " ++ p.symbol, fun i => ?_⟩
  unfold announce
  rw [same]
  rfl

theorem announceBalances_eq {p : Profile} (few : p.decimals ≤ Amount.maxPlaces) (b : Balances)
    (supply : Amount) : ∃ line, ∀ i : Interaction,
      (i.announceBalances p b supply : Run σ Failure Unit) = Run.status i.quiet line := by
  obtain ⟨text, same⟩ := shown_eq (σ := σ) few supply
  refine ⟨"    Balances owner " ++ b.owner ++ " " ++ p.symbol ++ ", user1 " ++ b.user1 ++ " " ++
    p.symbol ++ ", user2 " ++ b.user2 ++ " " ++ p.symbol ++ ", total supply " ++ text ++ " " ++
    p.symbol, fun i => ?_⟩
  unfold announceBalances
  rw [same]
  rfl

/-- A run on a token whose amounts can be shown does the same whether or not it prints. -/
theorem alike_exercise (takes : m.Takes) (mode : Mode) (deployment : DeploymentRecord) (session : Session σ)
    (now then_ : Time.Instant) {w v : World σ} (same : w.Same v)
    (few : ∀ p asked, profile session.token m w = (.ok p, asked) → p.decimals ≤ Amount.maxPlaces) :
    Alike (fun a b => i.Retimed m.disk now then_ (some a) (some b))
      (i.exercise mode deployment session now m w)
      ({ i with quiet := quiet }.exercise mode deployment session then_ m v) := by
  unfold exercise
  refine .bind (blind_profile session.token same) ?_
  intro q p asked last told ⟨given, files⟩ chain
  subst given
  obtain ⟨line, loud⟩ := announce_eq (σ := σ) (few _ _ told)
  suffices twins : Twins m (fun a b => i.Retimed m.disk now then_ (some a) (some b)) _ _ from
    twins ⟨files, chain⟩
  rw [loud, loud]
  refine .bind (.status takes _ _ _) fun _ => .bind (.ofEnding _) fun st => ?_
  refine .bind (twins_gasUsage i quiet takes _ _ _) fun gas => ?_
  refine .bind (blind_balances _ _) fun b => .bind (blind_call _ _) fun supply => ?_
  obtain ⟨line, loud⟩ := announceBalances_eq (σ := σ) (few _ _ told) b supply
  rw [loud, loud]
  refine .bind (.status takes _ _ _) fun _ => .bind (blind_shown _ _) fun before => ?_
  refine .bind (blind_shown _ _) fun after => ?_
  exact .last takes _ _ _ fun siblings => .some rfl rfl siblings

/-! ## Connecting -/

variable {i quiet} {connect : DeploymentRecord → Run σ Failure (Session σ)}

theorem run_of_no_latest {w : World σ} {e : Failure}
    (missing : i.workspace.latestDeployment i.network w.files = .error e) (now : Time.Instant) :
    i.run connect now m w = (.failed e, w) := by
  unfold run
  rw [bind_apply, Run.look, missing]
  rfl

/-- What a run does once it has told of the latest deployment. -/
theorem run_of_latest (shows : m.Shows i.quiet)
    (connect : DeploymentRecord → Run σ Failure (Session σ)) {w : World σ} {record : DeploymentRecord}
    (latest : i.workspace.latestDeployment i.network w.files = .ok record) (now : Time.Instant) :
    ∃ after, w.Same after ∧ i.run connect now m w =
      if (Category.ofNetwork i.network).mode.writesReport then
        (connect record >>= fun session =>
          i.exercise (Category.ofNetwork i.network).mode record session now >>= fun entry =>
            (pure (some entry) : Run σ Failure _)) m after
      else (.ok none, after) := by
  unfold run
  rw [bind_apply, Run.look, latest]
  dsimp only [Ending.ofExcept]
  obtain ⟨first, told, files, chain⟩ := status_bind (ε := Failure) shows _ _ w
  rw [told]
  obtain ⟨second, told, files', chain'⟩ := status_bind (ε := Failure) shows _ _ first
  rw [told]
  cases writes : (Category.ofNetwork i.network).mode.writesReport with
  | true => exact ⟨second, ⟨files'.trans files, chain'.trans chain⟩, rfl⟩
  | false =>
    rw [if_pos (by rfl)]
    obtain ⟨third, told, files'', chain''⟩ := status_bind (ε := Failure) shows _ _ second
    rw [told]
    exact ⟨third, ⟨files''.trans (files'.trans files), chain''.trans (chain'.trans chain)⟩, rfl⟩

/-- The run connects a token that answers all questions. -/
structure Profiled (i : Interaction) (m : Machine)
    (connect : DeploymentRecord → Run σ Failure (Session σ)) (w : World σ) (session : Session σ) (p : Profile)
    (asked : World σ) : Prop where
  writes : (Category.ofNetwork i.network).mode.writesReport = true
  answers : ∃ record opened, i.workspace.latestDeployment i.network w.files = .ok record ∧
    connect record m w = (.ok session, opened) ∧ profile session.token m opened = (.ok p, asked)

/-- Where no token has too many places, the run does the same whether or not it prints. -/
theorem alike_run (takes : m.Takes) (blind : ∀ record, (connect record).Blind m) (now then_ : Time.Instant)
    {w : World σ} (few : ∀ {session p asked}, i.Profiled m connect w session p asked →
      p.decimals ≤ Amount.maxPlaces) :
    Alike (i.Retimed m.disk now then_) (i.run connect now m w)
      ({ i with quiet := quiet }.run connect then_ m w) := by
  cases latest : i.workspace.latestDeployment i.network w.files with
  | error e =>
    rw [run_of_no_latest latest, run_of_no_latest (i := { i with quiet := quiet }) latest]
    exact .failed e (.refl w)
  | ok record =>
    obtain ⟨one, first, ran⟩ := run_of_latest (takes.shows _) connect latest now
    obtain ⟨two, second, also⟩ :=
      run_of_latest (i := { i with quiet := quiet }) (takes.shows _) connect latest then_
    rw [ran, also]
    have same : one.Same two := first.symm.trans second
    split
    case isFalse => exact .ok (same.files ▸ .none _) same.chain
    case isTrue writes =>
      refine .bind (blind record same) fun {other session after last} ends ⟨given, files⟩ chain => ?_
      subst given
      obtain ⟨opened, connected, printed⟩ := (blind record).ok first.symm ends
      have shows : ∀ p asked, profile session.token m after = (.ok p, asked) →
          p.decimals ≤ Amount.maxPlaces := by
        intro p asked told
        obtain ⟨_, answered, -⟩ := (blind_profile session.token).ok printed told
        exact few ⟨writes, record, opened, latest, connected, answered⟩
      refine .bind (alike_exercise i quiet takes _ record session now then_ ⟨files, chain⟩ shows) ?_
      exact fun _ retimed chain => .ok retimed chain

/-! ## Tokens with too many places -/

/-- What is left of a quiet run whose amounts cannot be shown: it breaks off at the first balance. -/
def unshown (i : Interaction) (session : Session σ) (st : Stakes) :
    Run σ Failure (Option ReportEntry) := do
  let _ ← i.gasUsage (Category.ofNetwork i.network).mode session st
  let _ ← call session.token (.balanceOf session.roles.owner)
  Run.ofEnding .aborted

theorem balances_eq_aborted {d : Nat} (many : Amount.maxPlaces < d) (session : Session σ)
    (next : Balances → Run σ Failure α) : (balances session d >>= next) =
      call session.token (.balanceOf session.roles.owner) >>= fun _ => Run.ofEnding .aborted := by
  unfold balances balance
  funext m w
  simp only [bind_apply, shown_eq_aborted many]
  cases call session.token (.balanceOf session.roles.owner) m w with
  | mk ending after => cases ending <;> rfl

/-- Where no amount of the token can be shown, a loud run breaks off before the first transaction. A quiet
run then goes on up to the first balance, or fails where no amount can be read either. -/
structure Parted (i : Interaction) (m : Machine) (session : Session σ) (p : Profile) (asked : World σ)
    (loud quiet : Ending Failure (Option ReportEntry) × World σ) : Prop where
  loud : Alike Equal (.aborted, asked) loud
  few : p.decimals ≤ Amount.maxPlaces + 2 → ∃ st, stakes p.decimals = .ok st ∧
    Alike Equal (i.unshown session st m asked) quiet
  many : Amount.maxPlaces + 2 < p.decimals → p.decimals ≤ Amount.maxFilled →
    ∃ text, Alike Equal (.failed (.amount (.outOfRange text)), asked) quiet
  beyond : Amount.maxFilled < p.decimals → Alike Equal (.aborted, asked) quiet

theorem twins_unshown (takes : m.Takes) (session : Session σ) (st : Stakes) :
    Twins m Equal (i.unshown session st) ({ i with quiet := quiet }.unshown session st) := by
  unfold unshown
  refine .bind (twins_gasUsage i quiet takes _ _ _) fun _ => ?_
  exact .bind (blind_call _ _) fun _ => .ofEnding _

/-- A loud run tells of the token and breaks off. -/
theorem exercise_loud {mode : Mode} {deployment : DeploymentRecord} {session : Session σ}
    {p : Profile} {w asked : World σ} (loud : i.quiet = false)
    (told : profile session.token m w = (.ok p, asked)) (many : Amount.maxPlaces < p.decimals)
    (now : Time.Instant) : i.exercise mode deployment session now m w = (.aborted, asked) := by
  unfold exercise announce
  rw [bind_apply, told]
  dsimp only
  rw [loud, if_neg (by decide), shown_eq_aborted many]
  rfl

/-- A quiet run reads its stakes, and looks at an amount not before the first balance. -/
theorem exercise_quiet (deployment : DeploymentRecord) {session : Session σ} {p : Profile}
    {w asked : World σ} (quiet : i.quiet = true)
    (told : profile session.token m w = (.ok p, asked)) (many : Amount.maxPlaces < p.decimals)
    (now : Time.Instant) :
    ((i.exercise (Category.ofNetwork i.network).mode deployment session now >>= fun entry =>
      (pure (some entry) : Run σ Failure _)) m w) =
      (Run.ofEnding (stakes p.decimals) >>= fun st => i.unshown session st) m asked := by
  unfold exercise announce unshown
  rw [bind_apply, bind_apply, told]
  dsimp only
  rw [quiet, if_pos rfl]
  simp only [balances_eq_aborted many]
  cases stakes p.decimals with
  | failed e => rfl
  | aborted => rfl
  | ok st =>
    simp only [bind_apply, pure_apply, Run.ofEnding]
    cases i.gasUsage (Category.ofNetwork i.network).mode session st m asked with
    | mk ending after =>
      cases ending with
      | failed e => rfl
      | aborted => rfl
      | ok gas =>
        dsimp only
        cases call session.token (.balanceOf session.roles.owner) m after with
        | mk ending last => cases ending <;> rfl

theorem parted_run (takes : m.Takes) (blind : ∀ record, (connect record).Blind m) (now then_ : Time.Instant)
    {w asked : World σ} {session : Session σ} {p : Profile}
    (profiled : i.Profiled m connect w session p asked) (many : Amount.maxPlaces < p.decimals) :
    i.Parted m session p asked ({ i with quiet := false }.run connect now m w)
      ({ i with quiet := true }.run connect then_ m w) := by
  obtain ⟨writes, record, opened, latest, connected, told⟩ := profiled
  have starts {after : World σ} (same : w.Same after) : ∃ opened' asked',
      connect record m after = (.ok session, opened') ∧
        profile session.token m opened' = (.ok p, asked') ∧ asked.Same asked' := by
    obtain ⟨opened', ends, printed⟩ := (blind record).ok same connected
    obtain ⟨asked', answered, last⟩ := (blind_profile session.token).ok printed told
    exact ⟨opened', asked', ends, answered, last⟩
  obtain ⟨one, first, loud⟩ :=
    run_of_latest (i := { i with quiet := false }) (takes.shows _) connect latest now
  obtain ⟨two, second, quiet⟩ :=
    run_of_latest (i := { i with quiet := true }) (takes.shows _) connect latest then_
  rw [if_pos writes, bind_apply] at loud quiet
  obtain ⟨_, asked₁, ends, answered, printed⟩ := starts first
  rw [ends] at loud
  dsimp only at loud
  rw [bind_apply, exercise_loud (by rfl) answered many] at loud
  obtain ⟨_, asked₂, ends, answered, silent⟩ := starts second
  rw [ends] at quiet
  dsimp only at quiet
  have left := exercise_quiet (i := { i with quiet := true }) record rfl answered many
    then_
  dsimp only at left
  rw [left, bind_apply, Run.ofEnding] at quiet
  refine ⟨loud ▸ .aborted printed, fun few => ?_, fun beyond filled => ?_, fun beyond => ?_⟩
  · have low : Amount.maxPlaces = 77 := rfl
    obtain ⟨st, some⟩ := stakes_some (by omega) few
    rw [some] at quiet
    exact ⟨st, some, quiet ▸ twins_unshown takes session st silent⟩
  · obtain ⟨text, none⟩ := stakes_many beyond filled
    rw [none] at quiet
    exact ⟨text, quiet ▸ .failed _ silent⟩
  · rw [stakes_beyond beyond] at quiet
    exact quiet ▸ .aborted silent

end Interaction

/-- Where the output takes what is printed, whether a run prints changes neither how it ends nor the files and
the chain, up to the time that it records, and but for one case: an interaction with a token whose amounts
have too many places to be shown. The chain may have any states, so one that keeps a journal shows that the
calls are the same. -/
theorem quiet_alike_or_parted (m : Machine) (takes : m.Takes) :
    (∀ (d : Deployment) (quiet : Bool) (factory : Factory σ) (now then_ : Time.Instant)
      (w : World σ), Alike (d.Retimed m.disk now then_) (d.run factory now m w)
        ({ d with quiet := quiet }.run factory then_ m w)) ∧
    ∀ (i : Interaction) (connect : DeploymentRecord → Run σ Failure (Session σ)),
      (∀ record, (connect record).Blind m) → ∀ (now then_ : Time.Instant) (w : World σ),
        ((∀ session p asked, i.Profiled m connect w session p asked →
            p.decimals ≤ Amount.maxPlaces) →
          ∀ quiet, Alike (i.Retimed m.disk now then_) (i.run connect now m w)
            ({ i with quiet := quiet }.run connect then_ m w)) ∧
        ∀ session p asked, i.Profiled m connect w session p asked → Amount.maxPlaces < p.decimals →
          i.Parted m session p asked ({ i with quiet := false }.run connect now m w)
            ({ i with quiet := true }.run connect then_ m w) :=
  ⟨fun d quiet factory now then_ w => d.twins_run takes quiet factory now then_ (.refl w),
    fun _ _ blind now then_ _ => ⟨fun few _ => Interaction.alike_run takes blind now then_ (few _ _ _),
      fun _ _ _ profiled many => Interaction.parted_run takes blind now then_ profiled many⟩⟩

/-- The connection of the interactor does not look at what has been printed. -/
theorem Command.blind_openSession (s : Setup) (host : Host σ) (deployment : DeploymentRecord) :
    (openSession s host deployment).Blind m := by
  unfold openSession
  refine .bind (.ofExcept _) fun e => .bind (.mapError (.ask _) _) fun client => ?_
  refine .bind (.mapError (.ask _) _) fun signers => ?_
  cases Roles.ofSigners? signers (seed deployment host.now) with
  | none => exact .ofEnding (.failed Failure.noSigners)
  | some roles =>
    exact .bind (.ofExcept _) fun address => .bind (.ofEnding _) fun contract => .pure _

/-! ## A token of many places -/

namespace Interaction

theorem blind_opened (answer : List Answered → (call : TokenCall) → Ending String call.Answer)
    (connect : DeploymentRecord → Files → Ending Failure Roles × Files) (record : DeploymentRecord) :
    (opened answer connect record).Blind m := by
  intro w v same
  unfold opened
  rw [same.files]
  exact .keep _ ⟨rfl, same.chain⟩

/-- Connects the token of so many places that answers every call. -/
def openObliging (places : Nat) :
    DeploymentRecord → Run (List Answered) Failure (Session (List Answered)) :=
  opened (obliging places) oneRole

/-- A run on a token of so many places. -/
def obligingRun (places : Nat) (quiet : Bool) :
    Ending Failure (Option ReportEntry) × World (List Answered) :=
  answeredRun (obliging places) quiet

theorem latest_deployedFiles :
    ∃ record, (⟨"/"⟩ : Workspace).latestDeployment "localhost" deployedFiles = .ok record := by
  have there : ((⟨"/"⟩ : Workspace).latestDeployment "localhost" deployedFiles).toOption.isSome := by
    decide +kernel
  cases latest : (⟨"/"⟩ : Workspace).latestDeployment "localhost" deployedFiles with
  | error e =>
    rw [latest] at there
    cases there
  | ok record => exact ⟨record, rfl⟩

theorem profiled_openObliging (places : Nat) : ∃ session p asked,
    (localRun true).Profiled .steady (openObliging places) ⟨deployedFiles, [], ""⟩ session p asked ∧
      p.decimals = places := by
  obtain ⟨record, latest⟩ := latest_deployedFiles
  exact ⟨_, _, _, ⟨by decide, record, _, latest, rfl, rfl⟩, rfl⟩

theorem decimals_of_profiled {i : Interaction} {places : Nat} {w asked : World (List Answered)}
    {session : Session (List Answered)} {p : Profile}
    (profiled : i.Profiled .steady (openObliging places) w session p asked) : p.decimals = places := by
  obtain ⟨-, record, opened, -, connected, told⟩ := profiled
  cases connected
  cases told
  rfl

end Interaction

open Interaction in
/-- With as many places as can be shown the runs are alike, with one more they part. -/
theorem obligingRun_alike_or_parted :
    Machine.steady.Takes ∧
    (∀ record, (openObliging 77 record).Blind .steady ∧ (openObliging 78 record).Blind .steady) ∧
    Alike ((localRun false).Retimed .steady ⟨⟨2024, 1, 1⟩, 0, 0⟩ ⟨⟨2024, 1, 1⟩, 0, 0⟩)
      (obligingRun 77 false) (obligingRun 77 true) ∧
    ∃ session p asked,
      (localRun true).Profiled .steady (openObliging 78) ⟨deployedFiles, [], ""⟩ session p asked ∧
      Amount.maxPlaces < p.decimals ∧
      (localRun true).Parted .steady session p asked (obligingRun 78 false) (obligingRun 78 true) := by
  obtain ⟨session, p, asked, profiled, places⟩ := profiled_openObliging 78
  have many : Amount.maxPlaces < p.decimals := by
    rw [places]
    decide
  obtain ⟨-, interactions⟩ :=
    quiet_alike_or_parted (σ := List Answered) .steady Machine.steady_takes
  refine ⟨Machine.steady_takes, fun record => ⟨blind_opened _ _ record, blind_opened _ _ record⟩, ?_,
    session, p, asked, profiled, many, ?_⟩
  · exact (interactions (localRun false) (openObliging 77) (blind_opened _ _) _ _ _).1
      (fun _ _ _ profiled => Nat.le_of_eq (decimals_of_profiled profiled)) true
  · exact (interactions (localRun true) (openObliging 78) (blind_opened _ _) _ _ _).2
      session p asked profiled many

open Interaction in
/-- A loud run on a token of eighty places breaks off where the quiet run fails. -/
theorem obligingRun_not_alike : ¬Alike
    ((localRun false).Retimed .steady ⟨⟨2024, 1, 1⟩, 0, 0⟩ ⟨⟨2024, 1, 1⟩, 0, 0⟩)
    (obligingRun 80 false) (obligingRun 80 true) := by
  obtain ⟨session, p, asked, profiled, places⟩ := profiled_openObliging 80
  have many : Amount.maxPlaces + 2 < p.decimals ∧ p.decimals ≤ Amount.maxFilled := by
    rw [places]
    decide
  have parted := parted_run Machine.steady_takes (blind_opened _ _) ⟨⟨2024, 1, 1⟩, 0, 0⟩
    ⟨⟨2024, 1, 1⟩, 0, 0⟩ profiled (by omega)
  obtain ⟨text, quiet⟩ := parted.many many.1 many.2
  have loud : Alike Equal (.aborted, asked) (obligingRun 80 false) := parted.loud
  change Alike Equal _ (obligingRun 80 true) at quiet
  intro alike
  generalize obligingRun 80 false = left at alike loud
  generalize obligingRun 80 true = right at alike quiet
  cases loud
  cases quiet
  cases alike

end TokenDesk
