import TokenDesk.Proofs.Run.Logs
import TokenDesk.Proofs.Run.Script

/-!
# The course of an interaction

A run makes the first calls of its script. Once it has begun to change the chain, it makes them all unless
a read fails, or a quiet run finds that the balances cannot be shown (`Course`).
-/

set_option autoImplicit false

namespace TokenDesk

open TokenDesk.Text

namespace Interaction

variable {answer : List Answered → (call : TokenCall) → Ending String call.Answer}

/-- The stakes are those of the places that the token has answered. -/
structure Staked (st : Stakes) (d : Nat) (said : List Answered) : Prop where
  known : ⟨.decimals, .ok d⟩ ∈ said
  places : 3 ≤ d
  transfer : st.transfer.units = tenTo (d - 3)
  mint : st.mint.units = tenTo (d - 2)

/-- A quiet run finds only after the transactions that no amount of the token can be shown. -/
structure Unshown (i : Interaction) (roles : Roles) (st : Stakes) (d : Nat) (said : List Answered)
    (ending : Ending Failure ReportEntry) : Prop where
  quiet : i.quiet = true
  places : Amount.maxPlaces < d
  calls : said.map Answered.call =
    questions ++ (deeds roles st (Category.ofNetwork i.network).mode ++ [.balanceOf roles.owner])
  answered : ∃ amount, said.getLast? = some ⟨.balanceOf roles.owner, .ok amount⟩
  aborted : ending = .aborted

/-- How a run uses a connected token. -/
structure Course (i : Interaction) (roles : Roles) (st : Stakes) (said : List Answered)
    (ending : Ending Failure ReportEntry) : Prop where
  /-- The calls are the first of the script. -/
  follows : said.map Answered.call <+: script roles st (Category.ofNetwork i.network)
  /-- Among the questions, only one that fails ends the run. -/
  asks : said.length < questions.length →
    Answered.Cut (script roles st (Category.ofNetwork i.network)) said
  /-- After the first transaction, only a read that fails ends it, or an amount that cannot be shown. -/
  acts : questions.length < said.length → ∃ d, Staked st d said ∧
    (said.map Answered.call = script roles st (Category.ofNetwork i.network) ∧
        d ≤ Amount.maxPlaces ∨
      Answered.Cut (script roles st (Category.ofNetwork i.network)) said ∨
      Unshown i roles st d said ending)
  /-- An entry tells the mode of the network and what was answered. -/
  tells : ∀ entry, ending = .ok entry →
    said.map Answered.call = script roles st (Category.ofNetwork i.network) ∧
      entry.mode = (Category.ofNetwork i.network).mode ∧
      ∀ action, Tells said action (gasOf entry.gasUsage action)

/-! ## Ways to end -/

variable {i : Interaction} {roles : Roles} {st : Stakes} {d : Nat} {said later : List Answered}
  {ending : Ending Failure ReportEntry}

theorem Staked.append (staked : Staked st d said) (more : List Answered) :
    Staked st d (said ++ more) :=
  ⟨List.mem_append_left _ staked.known, staked.places, staked.transfer, staked.mint⟩

variable (writes : (Category.ofNetwork i.network).mode.writesReport = true)

include writes

/-- A run that ends among the questions. -/
theorem Course.asking (first : said.map Answered.call <+: questions)
    (short : said.length < questions.length → Answered.Cut questions said)
    (broken : ∀ entry, ending ≠ .ok entry) : Course i roles st said ending where
  follows := by
    rw [script_eq writes]
    exact first.trans (List.prefix_append _ _)
  asks few := by
    rw [script_eq writes]
    exact (short few).longer _
  acts many := by
    have length := first.length_le
    rw [List.length_map] at length
    omega
  tells entry ends := absurd ends (broken entry)

/-- A run that is cut after the questions. -/
theorem Course.cut (asked : said.map Answered.call = questions) (staked : Staked st d said)
    (cut : Answered.Cut (deeds roles st (Category.ofNetwork i.network).mode ++
      (holdings roles ++ [.totalSupply])) later)
    (broken : ∀ entry, ending ≠ .ok entry) : Course i roles st (said ++ later) ending := by
  have whole : Answered.Cut (script roles st (Category.ofNetwork i.network)) (said ++ later) := by
    rw [script_eq writes]
    exact cut.later asked
  exact ⟨whole.first, fun _ => whole, fun _ => ⟨d, staked.append _, .inr (.inl whole)⟩,
    fun entry ends => absurd ends (broken entry)⟩

/-- A run that makes all calls. -/
theorem Course.whole (asked : said.map Answered.call = questions) (staked : Staked st d said)
    (few : d ≤ Amount.maxPlaces)
    (made : later.map Answered.call = deeds roles st (Category.ofNetwork i.network).mode ++
      (holdings roles ++ [.totalSupply]))
    (tells : ∀ entry, ending = .ok entry → entry.mode = (Category.ofNetwork i.network).mode ∧
      ∀ action, Tells (said ++ later) action (gasOf entry.gasUsage action)) :
    Course i roles st (said ++ later) ending := by
  have whole : (said ++ later).map Answered.call =
      script roles st (Category.ofNetwork i.network) := by
    rw [List.map_append, asked, made, script_eq writes]
  have long : questions.length ≤ (said ++ later).length := by
    rw [← asked, List.length_map, List.length_append]
    omega
  exact ⟨whole ▸ List.prefix_rfl, fun short => absurd short (by omega),
    fun _ => ⟨d, staked.append _, .inl ⟨whole, few⟩⟩,
    fun entry ends => ⟨whole, tells entry ends⟩⟩

/-- A run that aborts at the first balance. -/
theorem Course.unshown (asked : said.map Answered.call = questions) (staked : Staked st d said)
    (quiet : i.quiet = true) (many : Amount.maxPlaces < d)
    (done : later.map Answered.call = deeds roles st (Category.ofNetwork i.network).mode)
    {last : Answered} {amount : Amount} (answered : last = ⟨.balanceOf roles.owner, .ok amount⟩) :
    Course i roles st (said ++ (later ++ [last])) .aborted := by
  have calls : (said ++ (later ++ [last])).map Answered.call =
      questions ++ (deeds roles st (Category.ofNetwork i.network).mode ++
        [.balanceOf roles.owner]) := by
    rw [List.map_append, List.map_append, asked, done, answered]
    rfl
  have long : questions.length ≤ (said ++ (later ++ [last])).length := by
    rw [← asked, List.length_map, List.length_append]
    omega
  refine ⟨?_, fun short => absurd short (by omega), fun _ => ⟨d, staked.append _,
    .inr (.inr ⟨quiet, many, calls, ⟨amount, by simp [answered]⟩, rfl⟩)⟩,
    fun entry ends => by simp at ends⟩
  rw [calls, script_eq writes]
  simp [holdings]

/-! ## The run -/

omit writes

theorem announce_gives (p : Profile) : (i.announce p : Run (List Answered) Failure Unit).Gives
    fun _ => i.quiet = true ∨ p.decimals ≤ Amount.maxPlaces := by
  unfold announce
  split
  case isTrue quiet => exact .pure (.inl quiet)
  case isFalse loud =>
    intro m w a after success
    rcases Nat.lt_or_ge Amount.maxPlaces p.decimals with many | few
    · rw [Run.bind_apply, shown_eq_aborted many] at success
      cases success
    · exact .inr few

/-- A line with an amount leaves the chain. -/
theorem shown_chain (amount : Amount) (d : Nat) (line : String → String) (m : Machine)
    (w : World (List Answered)) :
    ((if i.quiet then pure () else do
      let text ← shown amount d
      Run.printLine (line text) : Run (List Answered) Failure Unit) m w).2.chain = w.chain := by
  unfold shown
  split
  · rfl
  · rw [Run.bind_apply, Run.orAbort]
    cases amount.format? d with
    | none => rfl
    | some text =>
      obtain ⟨after, -, chain, ends | ⟨-, ends⟩⟩ :=
        Run.print_cases (ε := Failure) (line text ++ "\n") m w
      · exact (congrArg (·.2.chain) ends).trans chain
      · exact (congrArg (·.2.chain) ends).trans chain

theorem status_chain (quiet : Bool) (line : String) (m : Machine) (w : World (List Answered)) :
    ((Run.status quiet line : Run (List Answered) Failure Unit) m w).2.chain = w.chain := by
  obtain ⟨after, -, chain, ends | ⟨-, ends⟩⟩ := Run.status_cases (ε := Failure) quiet line m w
  · rwa [ends]
  · rwa [ends]

theorem stakes_gives (d : Nat) : (Run.ofEnding (stakes d) : Run (List Answered) Failure Stakes).Gives
    fun st => 3 ≤ d ∧ st.transfer.units = tenTo (d - 3) ∧ st.mint.units = tenTo (d - 2) := by
  intro m w st after success
  have ends : stakes d = .ok st := congrArg Prod.fst success
  obtain ⟨places, -, sent, minted⟩ := stakes_ok ends
  exact ⟨places, sent, minted⟩

include writes

theorem exercise_course {m : Machine} (shows : m.Shows i.quiet)
    (answer : List Answered → (call : TokenCall) → Ending String call.Answer)
    (deployment : DeploymentRecord) (roles : Roles) (now : Time.Instant) :
    (i.exercise (Category.ofNetwork i.network).mode deployment ⟨.ofJournal answer, roles⟩ now).Says m
      fun said ending => ∃ st, Course i roles st said ending := by
  have none_ : Stakes := ⟨.ofNatLow 0, .ofNatLow 0⟩
  unfold exercise
  refine .asks profile_asks (fun said ending cut broken => ?_) fun said p asked known => ?_
  · exact ⟨none_, .asking writes cut.first (fun _ => cut) broken⟩
  have ready : ∀ ending : Ending Failure ReportEntry, (∀ entry, ending ≠ .ok entry) →
      ∃ st, Course i roles st (said ++ []) ending := by
    intro ending broken
    have length : said.length = questions.length := by rw [← asked, List.length_map]
    rw [List.append_nil]
    exact ⟨none_, .asking writes (asked ▸ List.prefix_rfl) (fun short => by omega) broken⟩
  refine .after (shown_chain _ _ _ m) (announce_gives p) ready fun _ few => ?_
  refine .after (fun _ => rfl) (stakes_gives p.decimals) ready fun st ⟨places, sent, minted⟩ => ?_
  have staked : Staked st p.decimals said := ⟨known, places, sent, minted⟩
  have cut : ∀ (more : List Answered) (ending : Ending Failure ReportEntry),
      Answered.Cut (deeds roles st (Category.ofNetwork i.network).mode ++
        (holdings roles ++ [.totalSupply])) more → (∀ entry, ending ≠ .ok entry) →
      ∃ st, Course i roles st (said ++ more) ending :=
    fun more ending cut broken => ⟨st, .cut writes asked staked cut broken⟩
  refine .asks (gasUsage_asks shows _ roles st) (fun _ _ stopped => cut _ _ (stopped.longer _))
    fun first gas done told => ?_
  rcases Nat.lt_or_ge Amount.maxPlaces p.decimals with many | shown
  case inl =>
    have quiet : i.quiet = true := few.resolve_right (by omega)
    refine .bind (balances_unshown many roles) ?_ ?_ ?_
    · rintro second e ⟨-, stopped | ⟨⟨⟩, -⟩⟩
      exact cut _ _ ((stopped.longer _).later done) (by simp)
    · rintro second ⟨-, stopped | ⟨-, amount, rfl⟩⟩
      · exact cut _ _ ((stopped.longer _).later done) (by simp)
      · exact ⟨st, .unshown writes asked staked quiet many done rfl⟩
    · rintro second b ⟨broken, -⟩
      exact absurd rfl (broken b)
  case inr =>
    refine .asks (balances_asks shown roles)
      (fun _ _ stopped => cut _ _ ((stopped.longer _).later done)) fun second b held _ => ?_
    refine .asks (call_asks rfl)
      (fun _ _ stopped => cut _ _ ((stopped.later held).later done)) fun third supply last _ => ?_
    have made : (first ++ (second ++ third)).map Answered.call =
        deeds roles st (Category.ofNetwork i.network).mode ++ (holdings roles ++ [.totalSupply]) := by
      rw [List.map_append, List.map_append, done, held, last]
    have whole : ∀ ending : Ending Failure ReportEntry,
        (∀ entry, ending = .ok entry → entry.mode = (Category.ofNetwork i.network).mode ∧
          entry.gasUsage = gas) →
        ∃ st, Course i roles st (said ++ (first ++ (second ++ (third ++ [])))) ending := by
      intro ending tells
      rw [List.append_nil]
      refine ⟨st, .whole writes asked staked shown made fun entry ends => ?_⟩
      obtain ⟨mode, same⟩ := tells entry ends
      rw [same]
      refine ⟨mode, fun action => (told action).frame ?_⟩
      simp only [List.filterMap_append, Answered.gas?_eq_nil asked rfl,
        Answered.gas?_eq_nil held rfl, Answered.gas?_eq_nil last rfl, List.nil_append,
        List.append_nil]
    have stops : ∀ ending : Ending Failure ReportEntry, (∀ entry, ending ≠ .ok entry) →
        ∃ st, Course i roles st (said ++ (first ++ (second ++ (third ++ [])))) ending :=
      fun ending broken => whole ending fun entry ends => absurd ends (broken entry)
    refine .after (shown_chain _ _ _ m) .any stops fun _ _ => ?_
    refine .after (fun _ => rfl) .any stops fun before _ => ?_
    refine .after (fun _ => rfl) .any stops fun after _ => ?_
    refine .after (fun _ => rfl) .any stops fun _ _ => ?_
    refine .after (status_chain _ _ m) .any stops fun _ _ => .pure (whole _ ?_)
    intro entry ends
    cases ends
    exact ⟨rfl, rfl⟩

omit writes

/-- A closure that connects the token that keeps a journal. It may look at the files and change them. -/
def opened (answer : List Answered → (call : TokenCall) → Ending String call.Answer)
    (connect : DeploymentRecord → Files → Ending Failure Roles × Files)
    (deployment : DeploymentRecord) : Run (List Answered) Failure (Session (List Answered)) :=
  fun _ w =>
    let (ending, files) := connect deployment w.files
    (ending.map (Session.mk (.ofJournal answer)), { w with files := files })

/-- Once the deployment is known, a run stops before the token is connected, or takes its course. -/
theorem connected_course {record : DeploymentRecord}
    (connect : DeploymentRecord → Files → Ending Failure Roles × Files) (now : Time.Instant)
    (writes : (Category.ofNetwork i.network).mode.writesReport = true) {m : Machine}
    (shows : m.Shows i.quiet) {w : World (List Answered)} (empty : w.chain = [])
    {ending : Ending Failure (Option ReportEntry)} {after : World (List Answered)}
    (ends : (opened answer connect record >>= fun session =>
      i.exercise (Category.ofNetwork i.network).mode record session now >>= fun entry =>
        pure (some entry)) m w = (ending, after)) :
    (after.chain = [] ∧ ∀ given, ending ≠ .ok given) ∨
      ∃ roles connected st part, connect record w.files = (.ok roles, connected) ∧
        ending = part.map some ∧ Course i roles st after.chain part := by
  rw [Run.bind_apply] at ends
  unfold opened at ends
  cases connection : connect record w.files with
  | mk result connected =>
    rw [connection] at ends
    cases result with
    | failed e =>
      cases ends
      exact .inl ⟨empty, by simp⟩
    | aborted =>
      cases ends
      exact .inl ⟨empty, by simp⟩
    | ok roles =>
      dsimp only [Ending.map] at ends
      rw [Run.map_apply] at ends
      cases ends
      obtain ⟨said, added, st, course⟩ :=
        exercise_course writes shows answer record roles now { w with files := connected }
      refine .inr ⟨roles, connected, st, _, rfl, rfl, ?_⟩
      have journal : w.chain ++ said = said := by rw [empty, List.nil_append]
      rw [added, journal]
      exact course

/-- What holds of every run that begins with an empty journal. -/
structure Followed (i : Interaction)
    (connect : DeploymentRecord → Files → Ending Failure Roles × Files) (files : Files)
    (ending : Ending Failure (Option ReportEntry)) (after : World (List Answered)) : Prop where
  /-- On a production network nothing is called and nothing changes. -/
  mainnet : Category.ofNetwork i.network = .mainnet → after.chain = [] ∧ after.files = files ∧
    ∀ record, i.workspace.latestDeployment i.network files = .ok record → ending = .ok none
  /-- Elsewhere a run stops before the token is connected, or takes its course. -/
  course : Category.ofNetwork i.network ≠ .mainnet →
    (after.chain = [] ∧ ∀ given, ending ≠ .ok given) ∨
      ∃ record roles connected st part,
        i.workspace.latestDeployment i.network files = .ok record ∧
          connect record files = (.ok roles, connected) ∧ ending = part.map some ∧
          Course i roles st after.chain part

theorem writesReport_eq_false_iff {category : Category} :
    category.mode.writesReport = false ↔ category = .mainnet := by
  cases category <;> simp [Category.mode, Mode.writesReport]

/-- The course of every run whose lines can be printed, whatever the token answers and the disk refuses. On a
production network it does not even matter how a token would be connected. -/
theorem run_followed (i : Interaction)
    (answer : List Answered → (call : TokenCall) → Ending String call.Answer)
    (connect : DeploymentRecord → Files → Ending Failure Roles × Files) (now : Time.Instant)
    (m : Machine) (shows : i.quiet = false → m.Takes) (files : Files) (output : String) :
    Followed i connect files (i.run (opened answer connect) now m ⟨files, [], output⟩).1
        (i.run (opened answer connect) now m ⟨files, [], output⟩).2 ∧
      (Category.ofNetwork i.network = .mainnet →
        ∀ other, i.run other now = i.run (opened answer connect) now) := by
  have unused : Category.ofNetwork i.network = .mainnet →
      ∀ other, i.run other now = i.run (opened answer connect) now := by
    intro mainnet other
    unfold run
    simp only [mainnet, Category.mode, Mode.writesReport, Bool.not_false, if_true]
  refine ⟨?_, unused⟩
  unfold run
  rw [Run.bind_apply]
  unfold Run.look
  cases latest : i.workspace.latestDeployment i.network files with
  | error e =>
    exact ⟨fun _ => ⟨rfl, rfl, by simp [latest]⟩, fun _ => .inl ⟨rfl, by simp [Ending.ofExcept]⟩⟩
  | ok record =>
    dsimp only [Ending.ofExcept]
    obtain ⟨first, told, sameFiles, sameChain⟩ := Run.status_bind (ε := Failure) shows _ _
      (⟨files, [], output⟩ : World (List Answered))
    rw [told]
    obtain ⟨second, told, files₂, chain₂⟩ := Run.status_bind (ε := Failure) shows _ _ first
    rw [told]
    have filesSame : second.files = files := files₂.trans sameFiles
    have chainEmpty : second.chain = [] := chain₂.trans sameChain
    cases writes : (Category.ofNetwork i.network).mode.writesReport with
    | false =>
      have mainnet := writesReport_eq_false_iff.mp writes
      rw [if_pos (by rfl)]
      obtain ⟨third, told, files₃, chain₃⟩ := Run.status_bind (ε := Failure) shows _ _ second
      rw [told]
      exact ⟨fun _ => ⟨chain₃.trans chainEmpty, files₃.trans filesSame, fun _ _ => rfl⟩,
        fun other => absurd mainnet other⟩
    | true =>
      have other : Category.ofNetwork i.network ≠ .mainnet := fun mainnet => by
        rw [writesReport_eq_false_iff.mpr mainnet] at writes
        cases writes
      refine ⟨fun mainnet => absurd mainnet other, fun _ => ?_⟩
      rw [if_neg (by simp)]
      rcases connected_course connect now writes shows chainEmpty rfl with stopped | course
      · exact .inl stopped
      · obtain ⟨roles, connected, st, part, connection, ends, course⟩ := course
        rw [filesSame] at connection
        exact .inr ⟨record, roles, connected, st, part, latest, connection, ends, course⟩

/-- A token with so many places that answers every call. -/
def obliging (places : Nat) : List Answered → (call : TokenCall) → Ending String call.Answer
  | _, .name | _, .symbol => .ok "T"
  | _, .decimals => .ok places
  | _, .totalSupply | _, .balanceOf _ => .ok (.ofNatLow 0)
  | _, .transfer _ _ | _, .mint _ _ | _, .transferOwnership _ => .ok 21000

/-- A token of the usual places that does everything but mint. -/
def mintless : List Answered → (call : TokenCall) → Ending String call.Answer
  | _, .mint _ _ => .failed "refused"
  | said, call => obliging 18 said call

/-- A log with one deployment. -/
def deployedText : String :=
  "[\x7b\"contract\":\"T\",\"address\":\"\",\"network\":\"\",\"deployer\":\"\"," ++
    "\"timestamp\":\"2024-01-01T00:00:00Z\",\"abi\":[]\x7d]"

/-- One deployment on the local network. -/
def deployedFiles : Files :=
  ⟨⟨[(["deployments"], .directory),
    (["deployments", "deployed-contracts.localhost.json"], .file (octets deployedText))]⟩, []⟩

def nobody : Address :=
  ⟨List.replicate 20 0, List.length_replicate⟩

/-- Gives one account all roles. -/
def oneRole (_ : DeploymentRecord) (files : Files) : Ending Failure Roles × Files :=
  (.ok ⟨nobody, nobody, nobody⟩, files)

/-- The interaction with the one deployment on the local network. -/
def localRun (quiet : Bool) : Interaction :=
  ⟨⟨"/"⟩, "localhost", quiet⟩

/-- A run on a token that answers so, at the turn of a year. -/
def answeredRun (answer : List Answered → (call : TokenCall) → Ending String call.Answer)
    (quiet : Bool) : Ending Failure (Option ReportEntry) × World (List Answered) :=
  (localRun quiet).run (opened answer oneRole) ⟨⟨2024, 1, 1⟩, 0, 0⟩ .steady ⟨deployedFiles, [], ""⟩

/-- A loud run on a token that does not mint. -/
def mintlessRun : Ending Failure (Option ReportEntry) × World (List Answered) :=
  answeredRun mintless false

/-- A mint that fails cuts nothing: all calls are made, and the entry tells of the failure. -/
theorem mintlessRun_followed : Machine.steady.Takes ∧ ∃ entry roles st,
    mintlessRun.1 = .ok (some entry) ∧ entry.gasUsage.mint = .failed ∧
      mintlessRun.2.chain.map Answered.call = script roles st .localNode := by
  have told : (mintlessRun.1.value?.join.map fun entry => entry.gasUsage.mint) = some .failed := by
    decide +kernel
  obtain ⟨entry, given, failed⟩ := Option.map_eq_some_iff.mp told
  have ends := Ending.eq_ok_of_join given
  have followed : Followed (localRun false) oneRole deployedFiles mintlessRun.1 mintlessRun.2 :=
    (run_followed _ mintless oneRole _ .steady (fun _ => Machine.steady_takes) deployedFiles "").1
  have course := followed.course (by decide)
  rw [ends] at course
  rcases course with ⟨-, broken⟩ | ⟨_, roles, _, st, part, -, -, same, course⟩
  · exact absurd rfl (broken _)
  · cases part with
    | ok last => exact ⟨Machine.steady_takes, entry, roles, st, ends, failed, (course.tells last rfl).1⟩
    | failed e => cases same
    | aborted => cases same

/-- A quiet run on a token of 78 places, none of whose calls fails. -/
def unshownRun : Ending Failure (Option ReportEntry) × World (List Answered) :=
  answeredRun (obliging 78) true

/-- That run makes its transactions and then breaks off after eight of eleven calls. -/
theorem unshownRun_breaks :
    (unshownRun.1 matches .aborted) = true ∧ unshownRun.2.chain.length = 8 ∧
      unshownRun.2.chain.all (fun answered => answered.answer matches .ok _) = true := by
  decide +kernel

end Interaction

end TokenDesk
