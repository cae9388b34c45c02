import TokenDesk.Proofs.Run.Effect
import TokenDesk.Run.Deploy
import TokenDesk.Run.Interact

/-!
# What single runs append

A deployment appends the record that it gives to the log of its network, an interaction the entry; both
touch no other file and append nothing where they give nothing. An entry is about the latest record.
-/

set_option autoImplicit false

namespace TokenDesk

open TokenDesk.Text

variable {σ : Type}

/-! ## Single runs -/

theorem Deployment.run_appends (d : Deployment) (factory : Factory σ) (now : Time.Instant) :
    (d.run factory now).Appends d.quiet (d.workspace.deploymentLog d.network) some := by
  unfold Deployment.run
  refine .after (.mapError (.look _) _) fun artifact => ?_
  refine .after (.mapError (.ask _) _) fun deployer => ?_
  refine .after (.mapError (.ofExcept _) _) fun arguments => ?_
  refine .after (.status _ _) fun _ => ?_
  refine .after (.mapError (.ask _) _) fun instanceAt => ?_
  exact .after (.status _ _) fun _ => .last rfl _ _

namespace Interaction

theorem keeps_call (token : Token σ) (c : TokenCall) : (call token c).Keeps :=
  .mapError (.ask _) _

theorem keeps_shown (amount : Amount) (decimals : Nat) :
    (shown amount decimals : Run σ Failure String).Keeps :=
  .ofEnding _

theorem keeps_profile (token : Token σ) : (profile token).Keeps := by
  unfold profile
  refine .bind (keeps_call _ _) fun _ => .bind (keeps_call _ _) fun _ => ?_
  exact .bind (keeps_call _ _) fun _ => .bind (keeps_call _ _) fun _ => .pure _

theorem keeps_announce (i : Interaction) (p : Profile) :
    (i.announce p : Run σ Failure Unit).Keeps := by
  unfold announce
  split
  · exact .pure ()
  · exact .bind (keeps_shown _ _) fun _ => .printLine _

theorem keeps_transaction (token : Token σ) (roles : Roles) (stakes : Stakes) (action : Action) :
    (transaction token roles stakes action).Keeps := by
  cases action <;> exact keeps_call _ _

theorem keeps_outcome (i : Interaction) (mode : Mode) (session : Session σ) (stakes : Stakes)
    (action : Action) : (i.outcome mode session stakes action).Keeps := by
  unfold outcome
  split
  · exact .pure _
  · refine .bind (.attempt (keeps_transaction _ _ _ _)) fun result => ?_
    cases result <;> exact .bind (.status _ _) fun _ => .pure _

theorem keeps_gasUsage (i : Interaction) (mode : Mode) (session : Session σ) (stakes : Stakes) :
    (i.gasUsage mode session stakes).Keeps := by
  unfold gasUsage
  refine .bind (keeps_outcome _ _ _ _ _) fun _ => .bind (keeps_outcome _ _ _ _ _) fun _ => ?_
  exact .bind (keeps_outcome _ _ _ _ _) fun _ => .pure _

theorem keeps_balance (token : Token σ) (decimals : Nat) (holder : Address) :
    (balance token decimals holder).Keeps :=
  .bind (keeps_call _ _) fun _ => keeps_shown _ _

theorem keeps_balances (session : Session σ) (decimals : Nat) :
    (balances session decimals).Keeps := by
  unfold balances
  refine .bind (keeps_balance _ _ _) fun _ => .bind (keeps_balance _ _ _) fun _ => ?_
  exact .bind (keeps_balance _ _ _) fun _ => .pure _

theorem keeps_announceBalances (i : Interaction) (p : Profile) (b : Balances) (supply : Amount) :
    (i.announceBalances p b supply : Run σ Failure Unit).Keeps := by
  unfold announceBalances
  split
  · exact .pure ()
  · exact .bind (keeps_shown _ _) fun _ => .printLine _

theorem exercise_appends (i : Interaction) (mode : Mode) (deployment : DeploymentRecord)
    (session : Session σ) (now : Time.Instant) :
    (i.exercise mode deployment session now).Appends i.quiet (i.workspace.reportLog i.network) some := by
  unfold exercise
  refine .after (keeps_profile _) fun profile => ?_
  refine .after (keeps_announce _ _) fun _ => ?_
  refine .after (.ofEnding _) fun stakes => ?_
  refine .after (keeps_gasUsage _ _ _ _) fun gasUsage => ?_
  refine .after (keeps_balances _ _) fun balances => ?_
  refine .after (keeps_call _ _) fun supplyAfter => ?_
  refine .after (keeps_announceBalances _ _ _ _) fun _ => ?_
  refine .after (keeps_shown _ _) fun before => ?_
  exact .after (keeps_shown _ _) fun after => .last rfl _ _

/-- An entry of a run is about the deployment that was given. -/
theorem exercise_gives (i : Interaction) (mode : Mode) (deployment : DeploymentRecord)
    (session : Session σ) (now : Time.Instant) :
    (i.exercise mode deployment session now).Gives fun entry =>
      entry.contract = deployment.contract ∧ entry.address = deployment.address := by
  unfold exercise
  refine .bind _ fun profile => .bind _ fun _ => .bind _ fun stakes => .bind _ fun gasUsage => ?_
  refine .bind _ fun balances => .bind _ fun supplyAfter => .bind _ fun _ => .bind _ fun before => ?_
  exact .bind _ fun after => .bind _ fun _ => .bind _ fun _ => .pure ⟨rfl, rfl⟩

theorem run_appends (i : Interaction) {connect : DeploymentRecord → Run σ Failure (Session σ)}
    (kept : ∀ deployment, (connect deployment).Keeps) (now : Time.Instant) :
    (i.run connect now).Appends i.quiet (i.workspace.reportLog i.network) id := by
  unfold run
  refine .after (.look _) fun deployment => ?_
  refine .after (.status _ _) fun _ => .after (.status _ _) fun _ => ?_
  split
  · exact .after (.status _ _) fun _ => .nothing rfl
  · refine .after (kept deployment) fun session => ?_
    exact .map (exercise_appends _ _ _ _ _) fun _ => rfl

/-- An entry copies the latest record of its network. -/
theorem run_latest (i : Interaction) (connect : DeploymentRecord → Run σ Failure (Session σ))
    (now : Time.Instant) {m : Machine} {w after : World σ} {entry : ReportEntry}
    (success : i.run connect now m w = (.ok (some entry), after)) :
    ∃ record, (i.workspace.deploymentLog i.network).latest w.files = .ok (some record) ∧
      entry.contract = record.contract ∧ entry.address = record.address := by
  unfold run at success
  obtain ⟨record, latest, rest⟩ := Run.look_bind_ok success
  have copies : ∀ given, some entry = some given →
      given.contract = record.contract ∧ given.address = record.address := by
    refine Run.Gives.bind (fun given? => ∀ given, given? = some given →
      given.contract = record.contract ∧ given.address = record.address)
      (fun _ => .bind _ fun _ => ?_) m w (some entry) after rest
    split
    · exact .bind _ fun _ => .pure (by simp)
    · refine .bind _ fun session => .map (exercise_gives _ _ record session _) ?_
      intro given about _ same
      cases same
      exact about
  refine ⟨record, ?_, copies entry rfl⟩
  unfold Workspace.latestDeployment at latest
  dsimp only at latest
  split at latest
  · cases latest
  · split at latest <;> cases latest
    assumption

end Interaction

end TokenDesk
