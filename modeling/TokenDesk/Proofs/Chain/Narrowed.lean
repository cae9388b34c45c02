import TokenDesk.Chain.Client
import TokenDesk.Proofs.Chain.Dialogue
import TokenDesk.Proofs.Text.Hex

/-!
# Numbers that a node reports

A node reports numbers of 256 bits. Three of them are kept in fewer: the identifier of the chain and the
gas of a receipt in 64 bits, the places of a token in 32. What is kept is the reported number without
its upper bits, so it is the reported one just if that has no more bits (`keeps_low_bits`). A chain
whose identifier differs from the expected one in the upper bits alone is taken for it
(`takes_far_numbers`).
-/

set_option autoImplicit false

namespace TokenDesk

open TokenDesk.Text
open TokenDesk.Contract

namespace Client

open Dialogue

variable {σ : Type} {s s' : σ} {c : Client σ} {b : Binding} {function : String}
  {arguments : List Argument}

/-! ## The chain -/

theorem toNat_chainIdOf (reported : Nat) : (chainIdOf reported).toNat = reported % UInt64.size :=
  UInt64.toNat_ofNat'

theorem chainIdOf_eq_iff {expected : UInt64} {reported : Nat} :
    expected = chainIdOf reported ↔ expected.toNat = reported % UInt64.size := by
  rw [← UInt64.toNat_inj, toNat_chainIdOf]

variable {dial : Url → Node σ} {confirm : Confirm σ} {e : Endpoint} {config : Config} {env : Environment}
  {address : Url} {signer : Signer} {reported : Nat} {between : σ} {expected : UInt64}

/-- The node of an endpoint is reached and reports the identifier of its chain. -/
structure Reaches (dial : Url → Node σ) (e : Endpoint) (env : Environment) (s : σ) (address : Url)
    (signer : Signer) (reported : Nat) (between : σ) : Prop where
  parsed : Url.parse (e.resolvedUrl env) = .ok address
  signed : signerOf e env = .ok signer
  answers : Answers (dial address) "eth_chainId" [] Wire.amount? s reported between

/-- What is left of connecting once the chain is the right one. -/
def settle (dial : Url → Node σ) (confirm : Confirm σ) (e : Endpoint) (config : Config)
    (env : Environment) (address : Url) (signer : Signer) (reported : Nat) :
    Dialogue σ Error (Client σ) := do
  let account ← accountOf (dial address) (e.resolvedUrl env) signer
  return ⟨dial address, confirm, signer, account, chainIdOf reported, config.confirmationsAt e,
    config.gasLimit⟩

/-- The reported identifier is compared by its low bits, and nothing is asked where they differ. -/
theorem Reaches.connect (reached : Reaches dial e env s address signer reported between) :
    connect dial confirm e config env s =
      match e.chainId? with
      | some expected =>
        if expected = chainIdOf reported then settle dial confirm e config env address signer reported between
        else (.failed (.wrongChain (e.resolvedUrl env) expected (chainIdOf reported)), between)
      | none => settle dial confirm e config env address signer reported between := by
  have chain : (Dialogue.ask (dial address) "eth_chainId" [] Wire.amount?).mapError
      (Error.connection (e.resolvedUrl env)) s = (.ok reported, between) :=
    mapError_eq_ok_iff.mpr (ask_eq_ok_iff.mpr reached.answers)
  unfold Client.connect
  rw [bind_of_ok (ofExcept_eq_ok_iff.mpr ⟨by rw [reached.parsed]; rfl, rfl⟩),
    bind_of_ok (ofExcept_eq_ok_iff.mpr ⟨reached.signed, rfl⟩), bind_of_ok chain]
  cases e.chainId? with
  | none => rfl
  | some expected =>
    by_cases same : expected = chainIdOf reported
    · simp only [same, ne_eq, not_true_eq_false, if_false, if_true]
      rfl
    · simp only [same, ne_eq, not_false_eq_true, if_false, if_true]
      rfl

theorem exists_reaches_of_connect (connected : connect dial confirm e config env s = (.ok c, s')) :
    ∃ address signer reported between, Reaches dial e env s address signer reported between := by
  unfold connect at connected
  simp only [bind_eq_ok_iff, ofExcept_eq_ok_iff, mapError_eq_ok_iff, ask_eq_ok_iff] at connected
  obtain ⟨address, _, ⟨parsed, rfl⟩, signer, _, ⟨signed, rfl⟩, reported, between, answers, -⟩ :=
    connected
  refine ⟨address, signer, reported, between, ?_, signed, answers⟩
  cases url : Url.parse (e.resolvedUrl env) with
  | ok found =>
    rw [url] at parsed
    cases parsed
    rfl
  | error cause =>
    rw [url] at parsed
    cases parsed

/-- A client is connected just if the low bits of what the chain reports are what is expected. -/
theorem connect_eq_ok_iff : connect dial confirm e config env s = (.ok c, s') ↔
    ∃ address signer reported between, Reaches dial e env s address signer reported between ∧
      settle dial confirm e config env address signer reported between = (.ok c, s') ∧
      ∀ expected, e.chainId? = some expected → expected.toNat = reported % UInt64.size := by
  constructor
  · intro connected
    obtain ⟨address, signer, reported, between, reached⟩ := exists_reaches_of_connect connected
    refine ⟨address, signer, reported, between, reached, ?_⟩
    rw [reached.connect] at connected
    cases chain : e.chainId? with
    | none => exact ⟨by simpa [chain] using connected, by simp⟩
    | some expected =>
      by_cases same : expected = chainIdOf reported
      · refine ⟨by simpa [chain, same] using connected, ?_⟩
        rintro _ ⟨⟩
        exact chainIdOf_eq_iff.mp same
      · simp [chain, same] at connected
  · rintro ⟨address, signer, reported, between, reached, settled, fits⟩
    rw [reached.connect]
    cases chain : e.chainId? with
    | none => exact settled
    | some expected =>
      simpa [chainIdOf_eq_iff.mpr (fits expected chain)] using settled

/-! ## Receipts -/

variable {m : Message} {receipt : Receipt} {called : Function} {data : Octets} {gas : Nat} {g : UInt64}

/-- The receipt of a message is what the wait for its hash gives. -/
theorem send_eq_ok_iff : c.send m s = (.ok receipt, s') ↔
    ∃ hash submitted, c.submit m s = (.ok hash, submitted) ∧
      c.confirm c.node c.confirmations hash submitted = (.ok receipt, s') := by
  unfold send
  exact bind_eq_ok_iff

theorem gasUsed_eq_ok_iff : gasUsed function receipt = .ok g ↔
    receipt.isReverted = false ∧ ∃ gas, receipt.gasUsed? = some gas ∧ UInt64.ofNat gas = g := by
  unfold gasUsed
  cases receipt.isReverted <;> cases receipt.gasUsed? <;> simp

theorem transact_of_sent (call : b.call? function arguments = some (called, data))
    (sent : c.send ⟨some b.address, none, data⟩ s = (.ok receipt, s')) :
    c.transact b function arguments s = (.ofExcept (gasUsed function receipt), s') := by
  unfold transact
  rw [call]
  exact bind_of_ok (mapError_eq_ok_iff.mpr sent)

/-- A transaction gives the low bits of the gas that its receipt tells of. -/
theorem transact_eq_ok_iff : c.transact b function arguments s = (.ok g, s') ↔
    ∃ called data receipt gas, b.call? function arguments = some (called, data) ∧
      c.send ⟨some b.address, none, data⟩ s = (.ok receipt, s') ∧ receipt.isReverted = false ∧
      receipt.gasUsed? = some gas ∧ g.toNat = gas % UInt64.size := by
  constructor
  · intro transacted
    unfold transact at transacted
    cases call : b.call? function arguments with
    | none => simp [call, fail_eq_ok_iff] at transacted
    | some found =>
      obtain ⟨called, data⟩ := found
      simp only [call, bind_eq_ok_iff, mapError_eq_ok_iff, ofExcept_eq_ok_iff] at transacted
      obtain ⟨receipt, _, sent, used, rfl⟩ := transacted
      obtain ⟨kept, gas, told, rfl⟩ := gasUsed_eq_ok_iff.mp used
      exact ⟨called, data, receipt, gas, rfl, sent, kept, told, UInt64.toNat_ofNat'⟩
  · rintro ⟨called, data, receipt, gas, call, sent, kept, told, low⟩
    have narrowed : UInt64.ofNat gas = g := by
      rw [← UInt64.toNat_inj, low]
      exact UInt64.toNat_ofNat'
    rw [transact_of_sent call sent, gasUsed_eq_ok_iff.mpr ⟨kept, gas, told, narrowed⟩]
    rfl

/-! ## Places -/

/-- The node answers the call of a function with bytes that are one value of its result type. -/
def Returns (c : Client σ) (b : Binding) (function : String) (arguments : List Argument) (s : σ)
    (value : Value) (s' : σ) : Prop :=
  ∃ called data bytes, b.call? function arguments = some (called, data) ∧
    Answers c.node "eth_call" [.object [("to", .string b.address.lower),
      ("data", .string (Hex.marked data))], .string "latest"] Wire.data? s bytes s' ∧
    called.results bytes = .ok [value]

variable {α : Type} {accept : Value → Option α} {a : α} {value : Value} {n d : Nat}

theorem query_of_returns (returned : Returns c b function arguments s value s') :
    c.query b function arguments accept s =
      ((Ending.ofOption .outputType (accept value)).mapError (.call function), s') := by
  obtain ⟨called, data, bytes, call, answers, results⟩ := returned
  have asked : (Dialogue.ask c.node "eth_call" [.object [("to", .string b.address.lower),
      ("data", .string (Hex.marked data))], .string "latest"] Wire.data?).mapError CallError.node s =
      (.ok bytes, s') :=
    mapError_eq_ok_iff.mpr (ask_eq_ok_iff.mpr answers)
  unfold query
  apply mapError_of_eq
  rw [call]
  refine (bind_of_ok asked).trans ?_
  rw [results]
  rfl

theorem query_eq_ok_iff : c.query b function arguments accept s = (.ok a, s') ↔
    ∃ value, Returns c b function arguments s value s' ∧ accept value = some a := by
  constructor
  · intro queried
    unfold query at queried
    rw [mapError_eq_ok_iff] at queried
    cases call : b.call? function arguments with
    | none => simp [call, fail_eq_ok_iff] at queried
    | some found =>
      simp only [call, bind_eq_ok_iff, mapError_eq_ok_iff, ask_eq_ok_iff, ofEnding_eq_ok_iff]
        at queried
      obtain ⟨bytes, _, answers, values, _, ⟨results, rfl⟩, accepted⟩ := queried
      match values, accepted with
      | [value], accepted =>
        obtain ⟨accepts, rfl⟩ := ofEnding_eq_ok_iff.mp accepted
        have decoded := Ending.mapError_eq_ok_iff.mp results
        refine ⟨value, ⟨found.1, found.2, bytes, call, answers, decoded⟩, ?_⟩
        cases taken : accept value <;> simp_all [Ending.ofOption]
      | [], accepted => simp [fail_eq_ok_iff] at accepted
      | _ :: _ :: _, accepted => simp [fail_eq_ok_iff] at accepted
  · rintro ⟨value, returned, accepts⟩
    rw [query_of_returns returned, accepts]
    rfl

/-- The places of a token are the low bits of the number that it returns. -/
theorem ask_decimals_eq_ok_iff : c.ask b .decimals s = (.ok d, s') ↔
    ∃ reported, Returns c b "decimals" [] s (.number reported) s' ∧ d = reported % UInt32.size := by
  unfold ask
  simp only [bind_eq_ok_iff, query_eq_ok_iff, pure_eq_ok_iff]
  constructor
  · rintro ⟨reported, _, ⟨value, returned, taken⟩, rfl, rfl⟩
    cases value <;> cases taken
    exact ⟨reported, returned, rfl⟩
  · rintro ⟨reported, returned, rfl⟩
    exact ⟨reported, s', ⟨_, returned, rfl⟩, rfl, rfl⟩

/-! ## The numbers kept -/

/-- What is kept of a reported number: its low bits, so the number itself just if it has no others. -/
structure Keeps (size reported kept : Nat) : Prop where
  low : kept = reported % size
  exact : kept = reported ↔ reported < size

theorem keeps_iff {size reported kept : Nat} (some_ : 0 < size) :
    Keeps size reported kept ↔ kept = reported % size := by
  refine ⟨Keeps.low, fun low => ⟨low, ?_⟩⟩
  rw [low]
  exact ⟨fun same => same ▸ Nat.mod_lt reported some_, Nat.mod_eq_of_lt⟩

/-- Each reported number is kept in its low bits. A client is connected just if they are the expected
identifier, and fails otherwise; a transaction gives those of the gas in its receipt just if that is not
reverted and tells of gas, and fails otherwise; the places of a token are those of the number it
returns. -/
theorem keeps_low_bits (dial : Url → Node σ) (confirm : Confirm σ) (e : Endpoint) (config : Config)
    (env : Environment) (c : Client σ) (b : Binding) (function : String) (arguments : List Argument)
    (s s' : σ) :
    (connect dial confirm e config env s = (.ok c, s') ↔
      ∃ address signer reported between, Reaches dial e env s address signer reported between ∧
        settle dial confirm e config env address signer reported between = (.ok c, s') ∧
        ∀ expected, e.chainId? = some expected → Keeps UInt64.size reported expected.toNat) ∧
    (∀ address signer reported between expected,
      Reaches dial e env s address signer reported between → e.chainId? = some expected →
      ¬Keeps UInt64.size reported expected.toNat →
      connect dial confirm e config env s =
        (.failed (.wrongChain (e.resolvedUrl env) expected (chainIdOf reported)), between)) ∧
    (∀ g, c.transact b function arguments s = (.ok g, s') ↔
      ∃ called data receipt gas, b.call? function arguments = some (called, data) ∧
        c.send ⟨some b.address, none, data⟩ s = (.ok receipt, s') ∧ receipt.isReverted = false ∧
        receipt.gasUsed? = some gas ∧ Keeps UInt64.size gas g.toNat) ∧
    (∀ called data receipt, b.call? function arguments = some (called, data) →
      c.send ⟨some b.address, none, data⟩ s = (.ok receipt, s') →
      receipt.isReverted = true ∨ receipt.gasUsed? = none →
      ∃ cause, c.transact b function arguments s = (.failed cause, s')) ∧
    (∀ d, c.ask b .decimals s = (.ok d, s') ↔
      ∃ reported, Returns c b "decimals" [] s (.number reported) s' ∧
        Keeps UInt32.size reported d) ∧
    (∀ value, Returns c b "decimals" [] s value s' → takeNumber value = none →
      c.ask b .decimals s = (.failed (.call "decimals" .outputType), s')) := by
  have word (reported kept : Nat) : Keeps UInt64.size reported kept ↔ kept = reported % UInt64.size :=
    keeps_iff (by decide)
  have half (reported kept : Nat) : Keeps UInt32.size reported kept ↔ kept = reported % UInt32.size :=
    keeps_iff (by decide)
  simp only [word, half]
  refine ⟨connect_eq_ok_iff, ?_, fun _ => transact_eq_ok_iff, ?_, fun _ => ask_decimals_eq_ok_iff, ?_⟩
  · intro address signer reported between expected reached chain other
    rw [reached.connect, chain]
    exact if_neg fun same => other (chainIdOf_eq_iff.mp same)
  · intro called data receipt call sent useless
    rw [transact_of_sent call sent, gasUsed]
    rcases useless with reverted | untold
    · rw [reverted]
      exact ⟨_, rfl⟩
    · rw [untold]
      cases receipt.isReverted
      · exact ⟨_, rfl⟩
      · exact ⟨_, rfl⟩
  · intro value returned wrong
    have queried : c.query b "decimals" [] takeNumber s =
        (.failed (.call "decimals" .outputType), s') := by
      rw [query_of_returns returned, wrong]
      rfl
    exact bind_of_failed queried

end Client

/-! ## A node that reports numbers -/

theorem Json.isGap_digit {n : Nat} (small : n < 16) : Json.isGap (Hex.digit n) = false :=
  (by decide : ∀ n : Fin 16, Json.isGap (Hex.digit n) = false) ⟨n, small⟩

theorem Wire.pairDigits_encodeChars (bs : Octets) :
    Wire.pairDigits none (Hex.encodeChars bs) = some bs := by
  induction bs with
  | nil => rfl
  | cons b bs ih =>
    have high : b.toNat / 16 < 16 := by have := b.toNat_lt; omega
    have low : b.toNat % 16 < 16 := Nat.mod_lt _ (by decide)
    have whole : b.toNat / 16 * 16 + b.toNat % 16 = b.toNat := Nat.div_add_mod' _ _
    change Wire.pairDigits none (_ :: _ :: Hex.encodeChars bs) = _
    simp [pairDigits, Hex.value?_digit, Json.isGap_digit, high, low, ih, whole]

theorem Wire.bytes?_marked {bs : Octets} {n : Nat} (size : bs.length = n) :
    Wire.bytes? n (.string (Hex.marked bs)) = some bs := by
  have digits : dropHexMark (Hex.marked bs).toList = Hex.encodeChars bs := by
    simp [Hex.marked, Hex.encode, dropHexMark, after?]
  simp [Wire.bytes?, digits, Hex.length_encodeChars, size, Wire.spreadBytes?, pairDigits_encodeChars]

theorem Wire.field?_of_get? {α : Type} {reader : Json → Option α} {key : String} {v w : Json} {a : α}
    (found : v.get? key = some w) (read : reader w = some a) : Wire.field? reader key v = some a := by
  rw [Wire.field?, found, Option.bind_some, read]

theorem Wire.optional?_of_get? {α : Type} {reader : Json → Option α} {key : String} {v w : Json} {a : α}
    (found : v.get? key = some w) (present : w ≠ .null) (read : reader w = some a) :
    Wire.optional? reader key v = some (some a) := by
  rw [Wire.optional?, found]
  cases w with
  | null => exact absurd rfl present
  | bool | whole | double | string | array | object => simp [read]

theorem Wire.optional?_of_absent {α : Type} {reader : Json → Option α} {key : String} {v : Json}
    (absent : v.get? key = none) : Wire.optional? reader key v = some none := by
  rw [Wire.optional?, absent]

/-- The numbers that a node reports: its chain, how its transactions end and what they use, and what its
contracts return. -/
structure Reporting where
  chain : Nat
  status : Nat := 1
  gas : Nat
  number : Nat

namespace Reporting

open Client Dialogue

def account : Address := ⟨List.replicate 20 1, rfl⟩

/-- The digest that goes for every transaction. -/
def hash : Octets := List.replicate 32 17

/-- A receipt on the wire. -/
def receipt (r : Reporting) (events : Octets) : Json :=
  .object [("transactionHash", .string (Hex.marked hash)), ("transactionIndex", .string "0x0"),
    ("cumulativeGasUsed", .string (Hex.quantity r.gas)), ("gasUsed", .string (Hex.quantity r.gas)),
    ("logs", .array []), ("logsBloom", .string (Hex.marked events)),
    ("status", .string (Hex.quantity r.status))]

/-- A node of one account that reports the numbers. -/
def node (r : Reporting) : Node Unit where
  answer request s :=
    (match request.method with
      | "eth_chainId" => .result (.string (Hex.quantity r.chain))
      | "eth_accounts" => .result (.array [.string account.lower])
      | "eth_sendTransaction" => .result (.string (Hex.marked hash))
      | "eth_getTransactionReceipt" => .result (r.receipt (List.replicate 256 0))
      | "eth_call" => .result (.string (Hex.marked (bytes32 r.number)))
      | _ => .garbled, s)

/-- The node is expected on this machine, on the chain 31337. -/
def endpoint : Endpoint := { Endpoint.onThisMachine with chainId? := some 31337 }

def url : Url := ⟨"http", some (.short 2130706433), some 8545⟩

def client (r : Reporting) : Client Unit :=
  ⟨r.node, .prompt, .node, account, chainIdOf r.chain, 0, 3000000⟩

/-- A token that declares the type of its places. -/
def token (places : ValueType) : Binding where
  address := account
  interface := { functions := [⟨"decimals", [], [places]⟩, ⟨"transferOwnership", [.address], []⟩] }

/-- The numbers are read as they are meant. -/
structure Legible (r : Reporting) : Prop where
  chain : Wire.amount? (.string (Hex.quantity r.chain)) = some r.chain
  status : Wire.word? (.string (Hex.quantity r.status)) = some r.status
  gas : Wire.amount? (.string (Hex.quantity r.gas)) = some r.gas
  bytes : Wire.data? (.string (Hex.marked (bytes32 r.number))) = some (bytes32 r.number)
  number : natOf (bytes32 r.number) = r.number

variable {r : Reporting}

theorem Legible.reached (legible : r.Legible) :
    Reaches (fun _ => r.node) endpoint [] () url .node r.chain () where
  parsed := by
    have read : (Url.parse (endpoint.resolvedUrl [])).toOption = some url := by decide +kernel
    cases found : Url.parse (endpoint.resolvedUrl []) with
    | ok address => simpa [found, Except.toOption] using read
    | error cause => simp [found, Except.toOption] at read
  signed := rfl
  answers := ⟨_, rfl, Reply.read_result legible.chain⟩

theorem settled :
    settle (fun _ => r.node) .prompt endpoint {} [] url .node r.chain () = (.ok r.client, ()) := by
  have read : Wire.list? Wire.address? (.array [.string account.lower]) = some [account] := by
    decide +kernel
  have accounts : nodeAccounts r.node () = (.ok [account], ()) :=
    mapError_eq_ok_iff.mpr (ask_eq_ok_iff.mpr ⟨_, rfl, Reply.read_result read⟩)
  have found : accountOf r.node (endpoint.resolvedUrl []) .node () = (.ok account, ()) :=
    (bind_of_ok accounts).trans rfl
  exact (bind_of_ok found).trans rfl

theorem Legible.told (legible : r.Legible) {events : Octets} (size : events.length = 256) :
    Receipt.orPending? (r.receipt events) = some (some ⟨hash, some r.status, some r.gas, none⟩) := by
  have whole : Wire.record? Receipt.fields (r.receipt events) = some (r.receipt events) := rfl
  have digest : Wire.field? Wire.digest? "transactionHash" (r.receipt events) = some hash :=
    Wire.field?_of_get? rfl (Wire.bytes?_marked List.length_replicate)
  have index : Wire.field? Wire.word? "transactionIndex" (r.receipt events) = some 0 :=
    Wire.field?_of_get? rfl (by decide +kernel)
  have total : Wire.field? Wire.amount? "cumulativeGasUsed" (r.receipt events) = some r.gas :=
    Wire.field?_of_get? rfl legible.gas
  have gas : Wire.optional? Wire.amount? "gasUsed" (r.receipt events) = some (some r.gas) :=
    Wire.optional?_of_get? rfl nofun legible.gas
  have logs : Wire.field? (Wire.list? Receipt.log?) "logs" (r.receipt events) = some [] := rfl
  have status : Wire.optional? Wire.word? "status" (r.receipt events) = some (some r.status) :=
    Wire.optional?_of_get? rfl nofun legible.status
  have bloom : Wire.field? (Wire.bytes? 256) "logsBloom" (r.receipt events) = some events :=
    Wire.field?_of_get? rfl (Wire.bytes?_marked size)
  -- The other fields are those that a receipt may lack.
  have sender : Wire.present? Wire.address? "from" (r.receipt events) = some none := rfl
  have absent {α : Type} (reader : Json → Option α) (key : String)
      (other : (r.receipt events).get? key = none) :
      Wire.optional? reader key (r.receipt events) = some none :=
    Wire.optional?_of_absent other
  have read : Receipt.ofJson? (r.receipt events) = some ⟨hash, some r.status, some r.gas, none⟩ := by
    simp only [Receipt.ofJson?, Option.bind_eq_bind, Option.bind_some, whole, digest, index, sender,
      total, gas, logs, status, bloom, absent Wire.digest? "blockHash" rfl,
      absent Wire.word? "blockNumber" rfl, absent Wire.address? "to" rfl,
      absent Wire.address? "contractAddress" rfl, absent Wire.digest? "root" rfl,
      absent Wire.word? "type" rfl, absent Wire.amount? "effectiveGasPrice" rfl]
    rfl
  rw [receipt] at read ⊢
  rw [Receipt.orPending?, read, Option.map_some]
  nofun

theorem Legible.sent (legible : r.Legible) (m : Message) :
    r.client.send m () = (.ok ⟨hash, some r.status, some r.gas, none⟩, ()) := by
  have submitted : r.client.submit m () = (.ok hash, ()) :=
    ask_eq_ok_iff.mpr ⟨_, rfl, Reply.read_result (Wire.bytes?_marked List.length_replicate)⟩
  have told := legible.told (List.length_replicate (n := 256) (a := (0 : UInt8)))
  have asked : Dialogue.ask r.node "eth_getTransactionReceipt" [.string (Hex.marked hash)]
      Receipt.orPending? () = (.ok (some ⟨hash, some r.status, some r.gas, none⟩), ()) :=
    ask_eq_ok_iff.mpr ⟨_, rfl, Reply.read_result told⟩
  have confirmed : Confirm.prompt r.node 0 hash () = (.ok ⟨hash, some r.status, some r.gas, none⟩, ()) :=
    (bind_of_ok asked).trans rfl
  exact send_eq_ok_iff.mpr ⟨hash, (), submitted, confirmed⟩

theorem Legible.word (legible : r.Legible) : Contract.word (bytes32 r.number) 0 = .ok r.number := by
  have cut : slice (bytes32 r.number) 0 32 = .ok (bytes32 r.number) := by
    rw [slice, if_neg (by decide), if_pos (by simp [length_bytes32])]
    simp [← length_bytes32 r.number]
  rw [Contract.word, cut, Ending.map, legible.number]

/-- The places are what the returned word is as a value of their type. -/
theorem Legible.returns (legible : r.Legible) {places : ValueType} {value : Value}
    (read : Contract.value (bytes32 r.number) 0 places = .ok (value, 32)) :
    Returns r.client (token places) "decimals" [] () value () := by
  have some_ : (bytes32 r.number).isEmpty = false := by simp [bytes32]
  refine ⟨⟨"decimals", [], [places]⟩, _, bytes32 r.number, rfl,
    ⟨_, rfl, Reply.read_result legible.bytes⟩, ?_⟩
  simp [Function.results, values, some_, read, Ending.map, Ending.bind]

theorem Legible.read_uint (legible : r.Legible) {bits : Nat} :
    Contract.value (bytes32 r.number) 0 (.uint bits) = .ok (.number r.number, 32) := by
  rw [Contract.value, legible.word]
  rfl

theorem Legible.read_bool (legible : r.Legible) (small : r.number < 256) :
    Contract.value (bytes32 r.number) 0 .bool = .ok (.flag (r.number == 1), 32) := by
  rw [Contract.value, legible.word]
  exact if_pos small

/-- Numbers that fit are kept whole; another chain, a reverted transaction and a flag in the place of a
number are refused. -/
theorem keeps_whole_numbers :
    let plain : Reporting := ⟨31337, 1, 51234, 6⟩
    let other : Reporting := ⟨1, 0, 51234, 6⟩
    connect (fun _ => plain.node) .prompt endpoint {} [] () = (.ok plain.client, ()) ∧
    connect (fun _ => other.node) .prompt endpoint {} [] () =
      (.failed (.wrongChain (endpoint.resolvedUrl []) 31337 1), ()) ∧
    plain.client.transact (token (.uint 8)) "transferOwnership" [.address account] () =
      (.ok 51234, ()) ∧
    (∃ cause, other.client.transact (token (.uint 8)) "transferOwnership" [.address account] () =
      (.failed cause, ())) ∧
    plain.client.ask (token (.uint 8)) .decimals () = (.ok 6, ()) ∧
    plain.client.ask (token .bool) .decimals () = (.failed (.call "decimals" .outputType), ()) := by
  intro plain other
  have kept : plain.Legible := by constructor <;> decide +kernel
  have refused : other.Legible := by constructor <;> decide +kernel
  obtain ⟨connects, -, transacts, -, asks, -⟩ := keeps_low_bits (fun _ => plain.node) .prompt endpoint
    {} [] plain.client (token (.uint 8)) "transferOwnership" [.address account] () ()
  obtain ⟨-, misses, -, fails, -, -⟩ := keeps_low_bits (fun _ => other.node) .prompt endpoint
    {} [] other.client (token (.uint 8)) "transferOwnership" [.address account] () ()
  obtain ⟨-, -, -, -, -, refuses⟩ := keeps_low_bits (fun _ => plain.node) .prompt endpoint
    {} [] plain.client (token .bool) "transferOwnership" [.address account] () ()
  refine ⟨connects.mpr ⟨_, _, _, _, kept.reached, settled, ?_⟩, ?_, ?_, ?_, ?_, ?_⟩
  · rintro _ ⟨⟩
    exact (keeps_iff (by decide)).mpr (by decide)
  · exact misses _ _ _ _ _ refused.reached rfl (by rw [keeps_iff] <;> decide)
  · exact (transacts 51234).mpr ⟨_, _, _, _, rfl, kept.sent _, rfl, rfl,
      (keeps_iff (by decide)).mpr (by decide)⟩
  · exact fails _ _ _ rfl (refused.sent _) (.inl rfl)
  · exact (asks 6).mpr ⟨_, kept.returns kept.read_uint,
      (keeps_iff (by decide)).mpr (by decide)⟩
  · exact refuses _ (kept.returns (kept.read_bool (by decide))) rfl

/-- A chain of another identifier is taken for the expected one, and the gas and the places are others
than the node reports. -/
theorem takes_far_numbers :
    let far : Reporting := ⟨UInt64.size + 31337, 1, UInt64.size + 51234, UInt32.size + 6⟩
    connect (fun _ => far.node) .prompt endpoint {} [] () = (.ok far.client, ()) ∧
    far.client.transact (token (.uint 8)) "transferOwnership" [.address account] () =
      (.ok 51234, ()) ∧
    far.client.ask (token (.uint 8)) .decimals () = (.ok 6, ()) := by
  intro far
  have legible : far.Legible := by constructor <;> decide +kernel
  refine ⟨connect_eq_ok_iff.mpr ⟨_, _, _, _, legible.reached, settled, ?_⟩,
    transact_eq_ok_iff.mpr ⟨_, _, _, _, rfl, legible.sent _, rfl, rfl, by decide⟩,
    ask_decimals_eq_ok_iff.mpr ⟨_, legible.returns legible.read_uint, by decide⟩⟩
  rintro _ ⟨⟩
  decide

end Reporting

end TokenDesk
