import TokenDesk.Proofs.Chain.Amount
import TokenDesk.Proofs.Run.Journal
import TokenDesk.Run.Interact

/-!
# The script of an interaction

The category of a network fixes which calls an interaction makes, in which order (`script`). Each part of
a run makes its calls of the script, or is cut by a read that fails; a transaction that fails cuts
nothing. What is told of the operations is what they were answered (`Tells`).
-/

set_option autoImplicit false

namespace TokenDesk

open TokenDesk.Text

namespace Interaction

/-! ## Stakes -/

/-- The stakes of a run in base units; there are stakes for so many places only. -/
theorem stakes_ok {d : Nat} {st : Stakes} (success : stakes d = .ok st) :
    3 ≤ d ∧ d ≤ Amount.maxPlaces + 2 ∧ st.transfer.units = tenTo (d - 3) ∧
      st.mint.units = tenTo (d - 2) := by
  unfold stakes at success
  cases transfer : Amount.parse transferAmount d with
  | failed e =>
    rw [transfer] at success
    cases success
  | aborted =>
    rw [transfer] at success
    cases success
  | ok first =>
    rw [transfer] at success
    cases mint : Amount.parse mintAmount d with
    | failed e =>
      rw [mint] at success
      cases success
    | aborted =>
      rw [mint] at success
      cases success
    | ok second =>
      rw [mint] at success
      cases success
      obtain ⟨low, -, sent⟩ :=
        Amount.parse_one ['0', '0', '1'] (by decide) (by decide) (by decide) transfer
      obtain ⟨-, high, minted⟩ := Amount.parse_one ['0', '1'] (by decide) (by decide) (by decide) mint
      simp only [List.length_cons, List.length_nil] at low high sent minted
      exact ⟨low, by omega, sent, minted⟩

theorem parse_transferAmount (d : Nat) : Amount.parse transferAmount d =
    if d < 3 then .failed (.tooPrecise transferAmount d)
    else if Amount.maxFilled < d then .aborted
    else .ofOption (.outOfRange transferAmount) (Amount.scale? 1 (d - 3)) :=
  Amount.parse_one_eq ['0', '0', '1'] (by decide) (by decide) (by decide) d

theorem parse_mintAmount (d : Nat) : Amount.parse mintAmount d =
    if d < 2 then .failed (.tooPrecise mintAmount d)
    else if Amount.maxFilled < d then .aborted
    else .ofOption (.outOfRange mintAmount) (Amount.scale? 1 (d - 2)) :=
  Amount.parse_one_eq ['0', '1'] (by decide) (by decide) (by decide) d

/-- What is transferred is finer than so few places. -/
theorem stakes_few {d : Nat} (few : d < 3) :
    stakes d = .failed (.amount (.tooPrecise transferAmount d)) := by
  unfold stakes
  rw [parse_transferAmount, if_pos few]
  rfl

theorem stakes_some {d : Nat} (low : 3 ≤ d) (high : d ≤ Amount.maxPlaces + 2) :
    ∃ st, stakes d = .ok st := by
  have bounds : Amount.maxPlaces = 77 ∧ Amount.maxFilled = 65535 := ⟨rfl, rfl⟩
  obtain ⟨sent, transfer⟩ := Amount.exists_scale?_one (show d - 3 ≤ Amount.maxPlaces by omega)
  obtain ⟨minted, mint⟩ := Amount.exists_scale?_one (show d - 2 ≤ Amount.maxPlaces by omega)
  refine ⟨⟨sent, minted⟩, ?_⟩
  unfold stakes
  rw [parse_transferAmount, parse_mintAmount, if_neg (by omega), if_neg (by omega),
    if_neg (by omega), if_neg (by omega), transfer, mint]
  rfl

/-- What is minted, and soon what is transferred, is more base units than a word holds. -/
theorem stakes_many {d : Nat} (many : Amount.maxPlaces + 2 < d) (filled : d ≤ Amount.maxFilled) :
    ∃ text, stakes d = .failed (.amount (.outOfRange text)) := by
  have bound : Amount.maxPlaces = 77 := rfl
  have mint := Amount.scale?_one_eq_none (show Amount.maxPlaces < d - 2 by omega)
  unfold stakes
  rw [parse_transferAmount, parse_mintAmount, if_neg (by omega), if_neg (by omega),
    if_neg (by omega), if_neg (by omega), mint]
  cases Amount.scale? 1 (d - 3) with
  | none => exact ⟨_, rfl⟩
  | some sent => exact ⟨_, rfl⟩

theorem stakes_beyond {d : Nat} (beyond : Amount.maxFilled < d) : stakes d = .aborted := by
  have bound : Amount.maxFilled = 65535 := rfl
  unfold stakes
  rw [parse_transferAmount, if_neg (by omega), if_pos beyond]
  rfl

/-! ## The script -/

/-- All calls of an interaction on a network, in order. -/
def script (roles : Roles) (st : Stakes) : Category → List TokenCall
  | .localNode =>
    [.name, .symbol, .decimals, .totalSupply, .transfer roles.user1 st.transfer,
      .mint roles.user2 st.mint, .transferOwnership roles.user1, .balanceOf roles.owner,
      .balanceOf roles.user1, .balanceOf roles.user2, .totalSupply]
  | .testnet =>
    [.name, .symbol, .decimals, .totalSupply, .transfer roles.user1 st.transfer,
      .balanceOf roles.owner, .balanceOf roles.user1, .balanceOf roles.user2, .totalSupply]
  | .mainnet => []

/-- The calls before the first transaction. -/
def questions : List TokenCall :=
  [.name, .symbol, .decimals, .totalSupply]

/-- The call that performs an operation. -/
def deed (roles : Roles) (st : Stakes) : Action → TokenCall
  | .transfer => .transfer roles.user1 st.transfer
  | .mint => .mint roles.user2 st.mint
  | .transferOwnership => .transferOwnership roles.user1

/-- The call that performs an operation, if the mode permits it. -/
def deed? (roles : Roles) (st : Stakes) (mode : Mode) (action : Action) : List TokenCall :=
  if mode.permits action then [deed roles st action] else []

/-- The transactions that a mode permits. -/
def deeds (roles : Roles) (st : Stakes) (mode : Mode) : List TokenCall :=
  Action.all.flatMap (deed? roles st mode)

def holdings (roles : Roles) : List TokenCall :=
  [.balanceOf roles.owner, .balanceOf roles.user1, .balanceOf roles.user2]

theorem script_eq {category : Category} (open_ : category.mode.writesReport = true) (roles : Roles)
    (st : Stakes) : script roles st category =
      questions ++ (deeds roles st category.mode ++ (holdings roles ++ [.totalSupply])) := by
  cases category with
  | localNode => rfl
  | testnet => rfl
  | mainnet => cases open_

/-! ## Parts of the script -/

variable {m : Machine} {answer : List Answered → (call : TokenCall) → Ending String call.Answer}

theorem call_journal (c : TokenCall) : (call (.ofJournal answer) c).Says m fun said ending =>
    ∃ a, said = [⟨c, a⟩] ∧ ending = a.mapError .chain :=
  fun w => ⟨[⟨c, answer w.chain c⟩], rfl, _, rfl, rfl⟩

theorem call_asks {c : TokenCall} (reads : c.reads = true) :
    (call (.ofJournal answer) c).Asks m [c] fun said a => said = [⟨c, .ok a⟩] := by
  have noGas : ∀ a, Answered.gas? ⟨c, a⟩ = none := by
    intro a
    cases c <;> first | rfl | cases reads
  refine (call_journal c).mono fun said ending ⟨a, only, ends⟩ => ?_
  subst only ends
  cases a with
  | ok a => exact .whole rfl rfl
  | failed e =>
    exact .cut ⟨List.prefix_rfl, _, rfl, .inr ⟨noGas _, e, rfl⟩⟩ (by simp [Ending.mapError])
  | aborted => exact .cut ⟨List.prefix_rfl, _, rfl, .inl rfl⟩ (by simp [Ending.mapError])

theorem call_bind_asks {α : Type} {c : TokenCall} {more : List TokenCall}
    {whole : List Answered → α → Prop} {next : c.Answer → Run (List Answered) Failure α}
    (reads : c.reads = true)
    (rest : ∀ a, (next a).Asks m more fun later b => whole (⟨c, .ok a⟩ :: later) b) :
    (call (.ofJournal answer) c >>= next).Asks m (c :: more) whole := by
  change Run.Asks m _ ([c] ++ more) whole
  refine .bind (call_asks reads) fun said a _ answered => ?_
  subst answered
  exact rest a

/-- What is known after the questions: the places of the token. -/
theorem profile_asks : (profile (.ofJournal answer)).Asks m questions fun said p =>
    ⟨.decimals, .ok p.decimals⟩ ∈ said := by
  unfold profile questions
  refine call_bind_asks rfl fun name => call_bind_asks rfl fun symbol => ?_
  refine call_bind_asks rfl fun d => call_bind_asks rfl fun supply => .pure ?_
  simp

/-! ## What is told of the gas -/

/-- The outcome of an operation. -/
def gasOf (gas : GasUsage) : Action → GasOutcome
  | .transfer => gas.transfer
  | .mint => gas.mint
  | .transferOwnership => gas.transferOwnership

/-- An outcome tells what a journal holds of an operation: the gas that was answered, that it failed, or
that it was not tried. -/
structure Tells (said : List Answered) (action : Action) (o : GasOutcome) : Prop where
  recorded : ∀ g, o = .recorded g ↔ (action, .ok g) ∈ said.filterMap Answered.gas?
  failed : o = .failed ↔ ∃ e, (action, .failed e) ∈ said.filterMap Answered.gas?
  disabled : o = .disabled ↔ ∀ a, (action, a) ∉ said.filterMap Answered.gas?

/-- What is told of an operation, and what the journal holds of it. -/
inductive Told (action : Action) : GasOutcome → List (Action × Ending String UInt64) → Prop
  | recorded (g : UInt64) : Told action (.recorded g) [(action, .ok g)]
  | failed (e : String) : Told action .failed [(action, .failed e)]
  | disabled : Told action .disabled []

theorem Told.other {action other : Action} {o : GasOutcome}
    {said : List (Action × Ending String UInt64)} (told : Told action o said) (ne : other ≠ action)
    (a : Ending String UInt64) : (other, a) ∉ said := by
  cases told <;> simp [ne]

theorem Told.tells {action : Action} {o : GasOutcome} {part : List (Action × Ending String UInt64)}
    {said : List Answered} (told : Told action o part)
    (only : ∀ a, (action, a) ∈ said.filterMap Answered.gas? ↔ (action, a) ∈ part) :
    Tells said action o := by
  constructor
  · intro g
    rw [only]
    cases told <;> simp [eq_comm]
  · simp only [only]
    cases told <;> simp
  · simp only [only]
    cases told <;> simp

/-- What is told stays so where nothing more is told of the gas. -/
theorem Tells.frame {said longer : List Answered} {action : Action} {o : GasOutcome}
    (tells : Tells said action o)
    (same : longer.filterMap Answered.gas? = said.filterMap Answered.gas?) :
    Tells longer action o :=
  ⟨same ▸ tells.recorded, same ▸ tells.failed, same ▸ tells.disabled⟩

theorem transaction_journal (roles : Roles) (st : Stakes) (action : Action) :
    (transaction (.ofJournal answer) roles st action).Says m fun said ending =>
      said.map Answered.call = [deed roles st action] ∧
        ∃ a : Ending String UInt64, said.filterMap Answered.gas? = [(action, a)] ∧
          ending = a.mapError .chain ∧ (a = .aborted → Answered.Cut [deed roles st action] said) := by
  cases action
  all_goals
    refine (call_journal _).mono fun said ending ⟨a, only, ends⟩ => ?_
    subst only
    exact ⟨rfl, a, rfl, ends, fun broken => ⟨List.prefix_rfl, _, rfl, .inl broken⟩⟩

/-- A transaction that fails does not cut the script. -/
theorem attempt_asks (roles : Roles) (st : Stakes) (action : Action) :
    (transaction (.ofJournal answer) roles st action).attempt.Asks m [deed roles st action]
      fun said result => match result with
        | .ok g => Told action (.recorded g) (said.filterMap Answered.gas?)
        | .error _ => Told action .failed (said.filterMap Answered.gas?) := by
  refine .attempt ((transaction_journal roles st action).mono ?_)
  rintro said _ ⟨made, a, told, rfl, broken⟩
  cases a with
  | ok g =>
    refine .whole made ?_
    dsimp only
    rw [told]
    exact .recorded g
  | failed e =>
    refine .whole made ?_
    dsimp only
    rw [told]
    exact .failed e
  | aborted => exact .cut (broken rfl) (by simp [Run.attempted, Ending.mapError])

theorem outcome_asks {i : Interaction} (shows : m.Shows i.quiet) (mode : Mode) (roles : Roles)
    (st : Stakes) (action : Action) :
    (i.outcome mode ⟨.ofJournal answer, roles⟩ st action).Asks m (deed? roles st mode action)
      fun said o => Told action o (said.filterMap Answered.gas?) := by
  unfold outcome deed?
  split
  case isTrue forbidden =>
    rw [if_neg (by simpa using forbidden)]
    exact .pure .disabled
  case isFalse allowed =>
    rw [if_pos (by simpa using allowed), ← List.append_nil [deed roles st action]]
    refine .bind (attempt_asks roles st action) fun said result _ told => ?_
    cases result with
    | ok g => exact .status (by rwa [List.append_nil]) shows _
    | error e => exact .status (by rwa [List.append_nil]) shows _

/-- What is told of all operations. -/
theorem gasUsage_asks {i : Interaction} (shows : m.Shows i.quiet) (mode : Mode) (roles : Roles)
    (st : Stakes) :
    (i.gasUsage mode ⟨.ofJournal answer, roles⟩ st).Asks m (deeds roles st mode)
      fun said gas => ∀ action, Tells said action (gasOf gas action) := by
  unfold gasUsage deeds
  simp only [Action.all, List.flatMap_cons, List.flatMap_nil]
  refine .bind (outcome_asks shows mode roles st .transfer) fun first transfer _ sent => ?_
  refine .bind (outcome_asks shows mode roles st .mint) fun second mint _ minted => ?_
  refine .bind (outcome_asks shows mode roles st .transferOwnership) fun third owner _ passed => ?_
  refine .pure fun action => ?_
  cases action with
  | transfer =>
    refine Told.tells sent fun a => ?_
    simp [minted.other (by decide : Action.transfer ≠ .mint),
      passed.other (by decide : Action.transfer ≠ .transferOwnership)]
  | mint =>
    refine Told.tells minted fun a => ?_
    simp [sent.other (by decide : Action.mint ≠ .transfer),
      passed.other (by decide : Action.mint ≠ .transferOwnership)]
  | transferOwnership =>
    refine Told.tells passed fun a => ?_
    simp [sent.other (by decide : Action.transferOwnership ≠ .transfer),
      minted.other (by decide : Action.transferOwnership ≠ .mint)]

/-! ## Balances -/

theorem shown_eq {σ : Type} {d : Nat} (few : d ≤ Amount.maxPlaces) (amount : Amount) :
    ∃ text, (shown amount d : Run σ Failure String) = pure text := by
  cases form : amount.format? d with
  | none => exact absurd (Amount.format?_eq_none_iff.mp form) (by omega)
  | some text =>
    refine ⟨text, ?_⟩
    unfold shown Run.orAbort
    rw [form]
    rfl

theorem shown_eq_aborted {σ : Type} {d : Nat} (many : Amount.maxPlaces < d) (amount : Amount) :
    (shown amount d : Run σ Failure String) = Run.ofEnding .aborted := by
  unfold shown Run.orAbort
  rw [Amount.format?_eq_none_iff.mpr many]
  rfl

theorem balance_asks {d : Nat} (few : d ≤ Amount.maxPlaces) (holder : Address) :
    (balance (.ofJournal answer) d holder).Asks m [.balanceOf holder] fun _ _ => True := by
  unfold balance
  refine call_bind_asks rfl fun amount => ?_
  obtain ⟨text, same⟩ := shown_eq few amount
  rw [same]
  exact .pure trivial

theorem balances_asks {d : Nat} (few : d ≤ Amount.maxPlaces) (roles : Roles) :
    (balances ⟨.ofJournal answer, roles⟩ d).Asks m (holdings roles) fun _ _ => True := by
  unfold balances
  change Run.Asks m _ ([_] ++ ([_] ++ ([_] ++ []))) _
  refine .bind (balance_asks few _) fun _ _ _ _ => .bind (balance_asks few _) fun _ _ _ _ => ?_
  exact .bind (balance_asks few _) fun _ _ _ _ => .pure trivial

/-- Where no amount can be shown, the first balance is the last call. -/
theorem balances_unshown {d : Nat} (many : Amount.maxPlaces < d) (roles : Roles) :
    (balances ⟨.ofJournal answer, roles⟩ d).Says m fun said ending =>
      (∀ b, ending ≠ .ok b) ∧ (Answered.Cut (holdings roles) said ∨
        ending = .aborted ∧ ∃ amount, said = [⟨.balanceOf roles.owner, .ok amount⟩]) := by
  have first : (balance (.ofJournal answer) d roles.owner).Says m fun said ending =>
      (∀ b, ending ≠ .ok b) ∧ (Answered.Cut [.balanceOf roles.owner] said ∨
        ending = .aborted ∧ ∃ amount, said = [⟨.balanceOf roles.owner, .ok amount⟩]) := by
    unfold balance
    refine .asks (call_asks rfl) (fun said ending cut broken => ⟨broken, .inl cut⟩)
      fun said amount _ only => ?_
    subst only
    rw [shown_eq_aborted many]
    exact .ofEnding ⟨by simp, .inr ⟨rfl, amount, rfl⟩⟩
  unfold balances
  refine .bind first ?_ ?_ ?_
  · rintro said e ⟨-, cut | ⟨⟨⟩, -⟩⟩
    exact ⟨by simp, .inl (cut.longer _)⟩
  · rintro said ⟨-, cut | ⟨-, only⟩⟩
    · exact ⟨by simp, .inl (cut.longer _)⟩
    · exact ⟨by simp, .inr ⟨rfl, only⟩⟩
  · rintro said text ⟨broken, -⟩
    exact absurd rfl (broken text)

end Interaction

end TokenDesk
