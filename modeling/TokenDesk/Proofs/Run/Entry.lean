import TokenDesk.Proofs.Run.Quiet

/-!
# When an interaction gives an entry

On a network with operations, with a token whose reads succeed, logs that can be read and written and an
output that takes what is printed, a run gives an entry and appends it exactly where the token has from
three to seventy-seven places: with fewer the stakes of the run are too fine, with more no amount can be
shown (`entry_of_places`). A transaction that fails is told of in the entry.
-/

set_option autoImplicit false

namespace TokenDesk

open Run

variable {σ ε α β γ : Type}

/-- On a machine the run gives a value from wherever it starts with these files. -/
def Run.CompletesOn (m : Machine) (f : Files) (run : Run σ ε α) : Prop :=
  ∀ w, w.files = f → ∃ a after, run m w = (.ok a, after)

variable {m : Machine}

theorem Run.CompletesOn.after {f : Files} {run : Run σ ε α} {next : α → Run σ ε β}
    (first : run.Completes m) (kept : run.Keeps) (rest : ∀ a, (next a).CompletesOn m f) :
    (run >>= next).CompletesOn m f := by
  intro w here
  have same := kept m w
  obtain ⟨a, after, ends⟩ := first w
  rw [ends] at same
  rw [bind_apply, ends]
  exact rest a after (same.trans here)

theorem Run.CompletesOn.gives {f : Files} {run : Run σ ε α} {good : α → Prop} {w : World σ}
    (completes : run.CompletesOn m f) (gives : run.Gives good) (here : w.files = f) :
    ∃ a after, run m w = (.ok a, after) ∧ good a := by
  obtain ⟨a, after, ends⟩ := completes w here
  exact ⟨a, after, ends, gives m w a after ends⟩

/-- The log can be read, and whatever is written to it the disk stores. -/
structure AppendLog.Open (log : AppendLog γ) (disk : Files.Disk) (f : Files) : Prop where
  readable : ∃ entries, log.parse Json.read f = .ok entries
  writable : ∀ bytes, (f.writeOn disk log.path bytes).1 = .ok ()

theorem AppendLog.Open.append {log : AppendLog γ} {disk : Files.Disk} {f : Files}
    (opened : log.Open disk f) (entry : γ) : ∃ count g, log.append entry disk f = (.ok count, g) := by
  obtain ⟨entries, parsed⟩ := opened.readable
  have stored := opened.writable
    (Text.octets (text (entries ++ [(log.format.toJson entry).sorted])))
  unfold AppendLog.append
  rw [parsed]
  dsimp only
  generalize f.writeOn disk log.path _ = effect at stored
  obtain ⟨result, g⟩ := effect
  cases stored
  exact ⟨_, g, rfl⟩

/-- An append to an open log, a line, and then a value. -/
theorem Run.CompletesOn.last {log : AppendLog γ} {f : Files} (takes : m.Takes)
    (opened : log.Open m.disk f) (entry : γ) (name : LogError → ε) (quiet : Bool) (line : String) (a : α) :
    CompletesOn m f ((Run.change (log.append entry)).mapError name >>= fun _ =>
      Run.status quiet line >>= fun _ => (Pure.pure a : Run σ ε α)) := by
  intro w here
  obtain ⟨count, g, stored⟩ := opened.append entry
  have changed : (Run.change (log.append entry)).mapError name m w =
      (.ok count, { w with files := g }) := by
    unfold Run.mapError Run.change
    rw [here, stored]
    rfl
  rw [bind_apply, changed]
  exact (Completes.status (takes.shows quiet) line).bind (fun _ => .pure a) _

variable {log : AppendLog γ} {disk : Files.Disk} {given? : α → Option γ} {f g : Files} {shows : Prop}

/-- Where a run with an open log gives nothing, and can show what it does, the files stay. -/
theorem Run.Appended.files_eq {ending : Ending ε α} (left : Appended shows disk log given? f ending g)
    (opened : log.Open disk f) (shown : shows) (broken : ∀ a, ending ≠ .ok a) : g = f := by
  cases left with
  | stored _ _ => exact absurd rfl (broken _)
  | skipped _ => rfl
  | stopped _ => rfl
  | @refused _ entry e g _ step =>
    obtain ⟨count, h, stored⟩ := opened.append entry
    rw [stored] at step
    cases step
  | untold hidden step => exact absurd shown hidden

/-- What a run gives it has appended. -/
theorem Run.Appended.append_eq {a : α} {entry : γ}
    (left : Appended shows disk log given? f (.ok a : Ending ε α) g) (given : given? a = some entry) :
    ∃ count, log.append entry disk f = (.ok count, g) := by
  cases left with
  | stored told step =>
    cases given.symm.trans told
    exact ⟨_, step⟩
  | skipped nothing => cases given.symm.trans nothing
  | stopped broken => exact absurd rfl (broken a)
  | refused broken _ => exact absurd rfl (broken a)

/-- Reads of the token succeed, and its transactions succeed or fail. -/
structure Token.Answers (token : Token σ) : Prop where
  reads : ∀ c s, c.reads = true → ∃ a, (token.ask c s).1 = .ok a
  ends : ∀ c s, (token.ask c s).1 ≠ .aborted

namespace Interaction

variable {i : Interaction} {connect : DeploymentRecord → Run σ Failure (Session σ)}
  {session : Session σ}

/-! ## Parts that complete -/

theorem completes_call {token : Token σ} (answers : token.Answers) {c : TokenCall}
    (reads : c.reads = true) : (call token c).Completes m := by
  intro w
  obtain ⟨a, answered⟩ := answers.reads c w.chain reads
  refine ⟨a, { w with chain := (token.ask c w.chain).2 }, ?_⟩
  unfold call Run.mapError Run.ask
  dsimp only
  rw [answered]
  rfl

theorem completes_profile {token : Token σ} (answers : token.Answers) :
    (profile token).Completes m := by
  unfold profile
  refine .bind (completes_call answers rfl) fun _ => .bind (completes_call answers rfl) fun _ => ?_
  refine .bind (completes_call answers rfl) fun _ => .bind (completes_call answers rfl) fun _ => ?_
  exact .pure _

theorem completes_outcome (takes : m.Takes) (answers : session.token.Answers) (mode : Mode) (st : Stakes)
    (action : Action) : (i.outcome mode session st action).Completes m := by
  have ends (c : TokenCall) (w : World σ) : (call session.token c m w).1 ≠ .aborted := by
    have ended := answers.ends c w.chain
    unfold call Run.mapError Run.ask
    dsimp only
    cases answer : (session.token.ask c w.chain).1 with
    | ok a => simp [Ending.mapError]
    | failed e => simp [Ending.mapError]
    | aborted => exact absurd answer ended
  unfold outcome
  split
  · exact .pure _
  · refine .bind (.attempt ?_) fun result => ?_
    · cases action <;> exact ends _
    · cases result <;> exact .bind (.status (takes.shows _) _) fun _ => .pure _

theorem completes_gasUsage (takes : m.Takes) (answers : session.token.Answers) (mode : Mode) (st : Stakes) :
    (i.gasUsage mode session st).Completes m := by
  unfold gasUsage
  refine .bind (completes_outcome takes answers _ _ _) fun _ => ?_
  refine .bind (completes_outcome takes answers _ _ _) fun _ => ?_
  exact .bind (completes_outcome takes answers _ _ _) fun _ => .pure _

theorem completes_shown {d : Nat} (few : d ≤ Amount.maxPlaces) (amount : Amount) :
    (shown amount d : Run σ Failure String).Completes m := by
  obtain ⟨text, same⟩ := shown_eq (σ := σ) few amount
  rw [same]
  exact .pure text

theorem completes_balances (answers : session.token.Answers) {d : Nat}
    (few : d ≤ Amount.maxPlaces) : (balances session d).Completes m := by
  have each (holder : Address) : (balance session.token d holder).Completes m :=
    .bind (completes_call answers rfl) fun _ => completes_shown few _
  unfold balances
  exact .bind (each _) fun _ => .bind (each _) fun _ => .bind (each _) fun _ => .pure _

/-! ## The entry -/

/-- A run meets a deployment, a token, a report log and an output that it can work with. -/
structure Ready (i : Interaction) (m : Machine)
    (connect : DeploymentRecord → Run σ Failure (Session σ)) (w : World σ) (record : DeploymentRecord)
    (session : Session σ) (opened : World σ) : Prop where
  takes : m.Takes
  network : Category.ofNetwork i.network ≠ .mainnet
  latest : i.workspace.latestDeployment i.network w.files = .ok record
  kept : ∀ record, (connect record).Keeps
  blind : ∀ record, (connect record).Blind m
  connected : connect record m w = (.ok session, opened)
  answers : session.token.Answers
  log : (i.workspace.reportLog i.network).Open m.disk w.files

theorem Ready.writes {w opened : World σ} {record : DeploymentRecord}
    (ready : i.Ready m connect w record session opened) :
    (Category.ofNetwork i.network).mode.writesReport = true := by
  cases writes : (Category.ofNetwork i.network).mode.writesReport with
  | true => rfl
  | false => exact absurd (writesReport_eq_false_iff.mp writes) ready.network

/-- A run on a token whose amounts can be read and shown gives an entry with what its transactions came
to. -/
theorem exercise_entry {w asked : World σ} {p : Profile} {st : Stakes}
    (takes : m.Takes) (answers : session.token.Answers)
    (log : (i.workspace.reportLog i.network).Open m.disk w.files)
    (told : profile session.token m w = (.ok p, asked)) (few : p.decimals ≤ Amount.maxPlaces)
    (known : stakes p.decimals = .ok st) (mode : Mode) (deployment : DeploymentRecord)
    (now : Time.Instant) : ∃ entry after,
      i.exercise mode deployment session now m w = (.ok entry, after) ∧
        ∃ acted, i.gasUsage mode session st m asked = (.ok entry.gasUsage, acted) := by
  obtain ⟨line, loud⟩ := announce_eq (σ := σ) few
  have kept : asked.files = w.files := by
    have same := keeps_profile session.token m w
    rwa [told] at same
  unfold exercise
  rw [bind_apply, told]
  dsimp only
  rw [loud, known]
  obtain ⟨first, printed, files, chain⟩ := status_bind (ε := Failure) (takes.shows i.quiet) line _ asked
  rw [printed, bind_apply, Run.ofEnding]
  dsimp only
  obtain ⟨gas, second, acted⟩ := completes_gasUsage (i := i) takes answers mode st first
  have here : second.files = w.files := by
    have same := keeps_gasUsage i mode session st m first
    rw [acted] at same
    exact same.trans (files.trans kept)
  obtain ⟨last, unprinted, -⟩ := Blind.ok (twins_gasUsage i i.quiet takes mode session st)
    ⟨files.symm, chain.symm⟩ acted
  rw [bind_apply, acted]
  dsimp only
  refine CompletesOn.gives ?_ ?_ here
  · refine .after (completes_balances answers few) (keeps_balances _ _) fun balances => ?_
    refine .after (completes_call answers rfl) (keeps_call _ _) fun supply => ?_
    obtain ⟨line, loud⟩ := announceBalances_eq (σ := σ) few balances supply
    rw [loud]
    refine .after (.status (takes.shows _) _) (.status _ _) fun _ => ?_
    refine .after (completes_shown few _) (keeps_shown _ _) fun before => ?_
    refine .after (completes_shown few _) (keeps_shown _ _) fun after => ?_
    exact .last takes log _ _ _ _ _
  · refine .bind _ fun _ => .bind _ fun _ => .bind _ fun _ => .bind _ fun _ => .bind _ fun _ => ?_
    exact .bind _ fun _ => .bind _ fun _ => .pure ⟨last, unprinted⟩

/-- Where a token has fewer places than the stakes need, a run fails before its first transaction. -/
theorem exercise_coarse {w asked : World σ} {p : Profile} (takes : m.Takes)
    (told : profile session.token m w = (.ok p, asked)) (few : p.decimals < 3) (mode : Mode)
    (deployment : DeploymentRecord) (now : Time.Instant) : ∃ after, asked.Same after ∧
      i.exercise mode deployment session now m w =
        (.failed (.amount (.tooPrecise transferAmount p.decimals)), after) := by
  have bound : Amount.maxPlaces = 77 := rfl
  obtain ⟨line, loud⟩ := announce_eq (σ := σ) (p := p) (by omega)
  unfold exercise
  rw [bind_apply, told]
  dsimp only
  rw [loud, stakes_few few]
  obtain ⟨first, printed, files, chain⟩ := status_bind (ε := Failure) (takes.shows i.quiet) line _ asked
  rw [printed]
  exact ⟨first, ⟨files, chain⟩, rfl⟩

/-- Such a run is its exercise, from a world that differs in the output only. -/
theorem Ready.run_eq {w opened : World σ} {record : DeploymentRecord}
    (ready : i.Ready m connect w record session opened) (now : Time.Instant) :
    ∃ start, opened.Same start ∧ start.files = w.files ∧ i.run connect now m w =
      ((i.exercise (Category.ofNetwork i.network).mode record session now m start).1.map some,
        (i.exercise (Category.ofNetwork i.network).mode record session now m start).2) := by
  obtain ⟨first, same, ran⟩ := run_of_latest (ready.takes.shows _) connect ready.latest now
  obtain ⟨start, ends, printed⟩ := (ready.blind record).ok same ready.connected
  have kept := ready.kept record m first
  rw [ends] at kept
  rw [if_pos ready.writes, bind_apply, ends] at ran
  exact ⟨start, printed, kept.trans same.files, ran.trans (map_apply _ _ _ _)⟩

theorem Ready.run_coarse {w opened asked : World σ} {record : DeploymentRecord} {p : Profile}
    (ready : i.Ready m connect w record session opened)
    (told : profile session.token m opened = (.ok p, asked)) (few : p.decimals < 3)
    (now : Time.Instant) : ∃ after, asked.Same after ∧ i.run connect now m w =
      (.failed (.amount (.tooPrecise transferAmount p.decimals)), after) := by
  obtain ⟨start, printed, -, ran⟩ := ready.run_eq now
  obtain ⟨_, told, reads⟩ := (blind_profile session.token).ok printed told
  obtain ⟨after, same, ends⟩ := exercise_coarse (i := i) ready.takes told few
    (Category.ofNetwork i.network).mode record now
  rw [ends] at ran
  exact ⟨after, reads.trans same, ran⟩

theorem unshown_broken (i : Interaction) (session : Session σ) (st : Stakes) (w : World σ)
    (result : Option ReportEntry) : (i.unshown session st m w).1 ≠ .ok result := by
  unfold unshown
  simp only [bind_apply, Run.ofEnding]
  cases i.gasUsage (Category.ofNetwork i.network).mode session st m w with
  | mk ending after =>
    cases ending with
    | failed e => simp
    | aborted => simp
    | ok gas =>
      dsimp only
      cases call session.token (.balanceOf session.roles.owner) m after with
      | mk ending last => cases ending <;> simp

/-- Where no amount can be shown, no run gives an entry. -/
theorem Profiled.broken {w asked : World σ} {p : Profile} (takes : m.Takes)
    (blind : ∀ record, (connect record).Blind m) (profiled : i.Profiled m connect w session p asked)
    (many : Amount.maxPlaces < p.decimals) (now : Time.Instant) (result : Option ReportEntry) : (i.run connect now m w).1 ≠ .ok result := by
  have parted := parted_run takes blind now now profiled many
  obtain ⟨workspace, network, quiet⟩ := i
  cases quiet with
  | false => exact parted.loud.broken (by simp) result
  | true =>
    by_cases few : p.decimals ≤ Amount.maxPlaces + 2
    · obtain ⟨st, -, alike⟩ := parted.few few
      exact alike.broken (unshown_broken _ _ _ _) result
    · by_cases filled : p.decimals ≤ Amount.maxFilled
      · obtain ⟨text, alike⟩ := parted.many (by omega) filled
        exact alike.broken (by simp) result
      · exact (parted.beyond (by omega)).broken (by simp) result

/-- A run that can work gives an entry and appends it exactly where its token has from three to
seventy-seven places. With fewer it fails before any transaction, and with more it never gives anything;
then the files stay. -/
theorem entry_of_places {w opened : World σ} {record : DeploymentRecord}
    (ready : i.Ready m connect w record session opened) (now : Time.Instant) :
    ∃ p asked, profile session.token m opened = (.ok p, asked) ∧
      ((∃ entry after, i.run connect now m w = (.ok (some entry), after) ∧
          (∃ count, (i.workspace.reportLog i.network).append entry m.disk w.files =
            (.ok count, after.files)) ∧
          ∃ st acted, stakes p.decimals = .ok st ∧ i.gasUsage (Category.ofNetwork i.network).mode
            session st m asked = (.ok entry.gasUsage, acted)) ↔
        3 ≤ p.decimals ∧ p.decimals ≤ Amount.maxPlaces) ∧
      (p.decimals < 3 → ∃ after, asked.Same after ∧ i.run connect now m w =
        (.failed (.amount (.tooPrecise transferAmount p.decimals)), after)) ∧
      (Amount.maxPlaces < p.decimals → ∀ result, (i.run connect now m w).1 ≠ .ok result) ∧
      (¬(3 ≤ p.decimals ∧ p.decimals ≤ Amount.maxPlaces) →
        (i.run connect now m w).2.files = w.files) := by
  obtain ⟨p, asked, told⟩ := completes_profile (m := m) ready.answers opened
  obtain ⟨start, printed, here, ran⟩ := ready.run_eq now
  obtain ⟨asked', told', reads⟩ := (blind_profile session.token).ok printed told
  have profiled : i.Profiled m connect w session p asked :=
    ⟨ready.writes, record, opened, ready.latest, ready.connected, told⟩
  have appended := run_appends i ready.kept now m w
  have coarse : p.decimals < 3 → ∃ after, asked.Same after ∧ i.run connect now m w =
      (.failed (.amount (.tooPrecise transferAmount p.decimals)), after) :=
    fun few => ready.run_coarse told few now
  have unshown : Amount.maxPlaces < p.decimals → ∀ result, (i.run connect now m w).1 ≠ .ok result :=
    fun many => profiled.broken ready.takes ready.blind many now
  have broken (beside : ¬(3 ≤ p.decimals ∧ p.decimals ≤ Amount.maxPlaces))
      (result : Option ReportEntry) : (i.run connect now m w).1 ≠ .ok result := by
    by_cases few : p.decimals < 3
    · obtain ⟨after, -, ends⟩ := coarse few
      rw [ends]
      simp
    · exact unshown (by omega) result
  refine ⟨p, asked, told, ⟨?_, ?_⟩, coarse, unshown,
    fun beside => appended.files_eq ready.log (ready.takes.shows _) (broken beside)⟩
  · rintro ⟨entry, after, ends, -⟩
    exact Decidable.byContradiction fun beside => broken beside (some entry) (by rw [ends])
  · rintro ⟨low, high⟩
    obtain ⟨st, known⟩ := stakes_some low (Nat.le_add_right_of_le high)
    obtain ⟨entry, after, ends, acted, gas⟩ := exercise_entry (i := i) ready.takes ready.answers
      (here ▸ ready.log) told' high known (Category.ofNetwork i.network).mode record now
    obtain ⟨last, gas, -⟩ := Blind.ok (twins_gasUsage i i.quiet ready.takes _ session st) reads.symm gas
    have gives : i.run connect now m w = (.ok (some entry), after) := by
      rw [ran, ends]
      rfl
    rw [gives] at appended
    exact ⟨entry, after, gives, appended.append_eq rfl, st, last, known, gas⟩

/-! ## Tokens that answer every call -/

theorem answers_obliging (places : Nat) : (Token.ofJournal (obliging places)).Answers where
  reads c _ _ := by
    cases c <;> exact ⟨_, rfl⟩
  ends c _ := by
    cases c <;> exact fun ended => by cases ended

theorem open_reportLog :
    ((localRun true).workspace.reportLog (localRun true).network).Open .steady deployedFiles where
  readable := by
    refine ⟨[], ?_⟩
    have absent : ((localRun true).workspace.reportLog (localRun true).network).exists?
        deployedFiles = false := rfl
    rw [AppendLog.parse, absent]
    rfl
  writable bytes := rfl

theorem ready_obliging (places : Nat) (quiet : Bool) : ∃ record session opened,
    (localRun quiet).Ready .steady (openObliging places) ⟨deployedFiles, [], ""⟩ record session opened ∧
      ∀ p asked, profile session.token .steady opened = (.ok p, asked) → p.decimals = places := by
  obtain ⟨record, latest⟩ := latest_deployedFiles
  refine ⟨record, _, _, ⟨Machine.steady_takes, by cases quiet <;> decide, latest, fun _ _ _ => rfl,
    blind_opened _ _, rfl, answers_obliging places, open_reportLog⟩, ?_⟩
  intro p asked told
  cases told
  rfl

/-- A token of the usual eighteen places. -/
theorem obligingRun_entry : ∃ record session opened,
    (localRun false).Ready .steady (openObliging 18) ⟨deployedFiles, [], ""⟩ record session opened ∧
      ∃ entry after, obligingRun 18 false = (.ok (some entry), after) := by
  obtain ⟨record, session, opened, ready, places⟩ := ready_obliging 18 false
  obtain ⟨p, asked, told, gives, -⟩ := entry_of_places ready ⟨⟨2024, 1, 1⟩, 0, 0⟩
  have between : 3 ≤ p.decimals ∧ p.decimals ≤ Amount.maxPlaces := by
    rw [places p asked told]
    decide
  obtain ⟨entry, after, ends, -⟩ := gives.mpr between
  exact ⟨record, session, opened, ready, entry, after, ends⟩

/-- A token of two places is as good, but a run on it ends with a failure. -/
theorem obligingRun_coarse : ∃ record session opened,
    (localRun true).Ready .steady (openObliging 2) ⟨deployedFiles, [], ""⟩ record session opened ∧
      ∃ after, obligingRun 2 true = (.failed (.amount (.tooPrecise transferAmount 2)), after) := by
  obtain ⟨record, session, opened, ready, places⟩ := ready_obliging 2 true
  obtain ⟨p, asked, told⟩ := completes_profile ready.answers opened
  have two : p.decimals = 2 := places p asked told
  obtain ⟨after, -, ends⟩ :=
    ready.run_coarse told (by rw [two]; decide) ⟨⟨2024, 1, 1⟩, 0, 0⟩
  rw [two] at ends
  exact ⟨record, session, opened, ready, after, ends⟩

end Interaction

end TokenDesk
