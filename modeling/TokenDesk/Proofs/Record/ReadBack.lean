import TokenDesk.Proofs.Json.Typed
import TokenDesk.Proofs.Record.Written

/-!
# Deployment records read back

A deployment record is read where it was written, as long as its nesting is within what is allowed
(`DeploymentRecord.read_document`), and it is read again where its text was carried over by an append
(`DeploymentRecord.read_stable`), which has the nesting that it was written with
(`DeploymentRecord.depth_of_carried`).
-/

set_option autoImplicit false

namespace TokenDesk

open TokenDesk.Json

namespace Json

section Fields

variable {α β δ : Type} {layout : Layout δ α} {n : Nat} {key : String} {draft middle after : δ}
  {entries others : List (String × Json)}

/-- Reading these entries brings a draft on to another, whatever follows. -/
def Takes (layout : Layout δ α) (n : Nat) (draft : δ) (entries : List (String × Json)) (after : δ) :
    Prop :=
  ∀ rest, readFields layout n draft (documentEntries (entries ++ rest)) =
    readFields layout n after (documentEntries rest)

theorem Takes.readFields (takes : Takes layout n draft entries after) :
    Json.readFields layout n draft (documentEntries entries) = .ok after := by
  rw [← List.append_nil entries, takes]
  rfl

theorem Takes.append (first : Takes layout n draft entries middle)
    (second : Takes layout n middle others after) :
    Takes layout n draft (entries ++ others) after := by
  intro rest
  rw [List.append_assoc, first, second]

/-- A field that has not been met yet is taken. -/
theorem Takes.field {v : Json} (known : key ∈ layout.names) (fresh : layout.has key draft = false)
    (taken : layout.field key draft n v.document = .ok after) :
    Takes layout n draft [(key, v)] after := by
  intro rest
  rw [List.singleton_append, documentEntries, Json.readFields, if_pos known, fresh]
  simp [taken]

/-- Entries that supply these fields one after the other, and what they bring a draft on to. -/
inductive Supplies (n : Nat) : List (RecordField δ) → List (String × Json) → δ → δ → Prop where
  | nil {draft : δ} : Supplies n [] [] draft draft
  | cons {slot : RecordField δ} {slots : List (RecordField δ)} {entries : List (String × Json)}
      {draft after : δ} {v : Json} {a : slot.Value} (fresh : slot.has draft = false)
      (read : slot.read n v.document = .ok a)
      (others : Supplies n slots entries (slot.put draft a) after) :
      Supplies n (slot :: slots) ((slot.name, v) :: entries) draft after

theorem Supplies.takes {slots chosen : List (RecordField δ)} (made : layout.Made slots)
    (among : ∀ slot ∈ chosen, slot ∈ slots) (supplies : Supplies n chosen entries draft after) :
    Takes layout n draft entries after := by
  induction supplies with
  | nil => exact fun rest => rfl
  | cons fresh read others ih =>
    obtain ⟨member, behind⟩ := List.forall_mem_cons.mp among
    refine .append (.field (made.known member) ?_ ?_) (ih behind)
    · rw [made.has _ member, fresh]
    · rw [made.field _ member, read]
      rfl

/-- A record is read where all its fields were written in declared order. -/
theorem Supplies.readRecord {slots : List (RecordField δ)} (made : layout.Made slots)
    (supplies : Supplies n slots entries layout.start after) :
    Json.readRecord layout (n + 1) (Json.object entries).document = layout.finish after := by
  have fields := (supplies.takes made fun _ member => member).readFields
  rw [document, Json.readRecord, fields]
  rfl

/-- How a value that may be absent is written, for a reader that gives it back. -/
structure Reads (reader : Reader (Option β)) (n : Nat) (b? : Option β) (v? : Option Json) : Prop where
  absent : v? = none ↔ b? = none
  present : ∀ v, v? = some v → reader n v.document = .ok b?

/-- A field that may be absent is taken if it is written. -/
theorem Takes.optional (put : Option (Option β) → δ) {reader : Reader (Option β)} {b? : Option β}
    {v? : Option Json} (reads : Reads reader n b? v?) (known : key ∈ layout.names)
    (fresh : layout.has key (put none) = false)
    (taken : ∀ d, layout.field key (put none) n d = (reader n d).map fun b? => put (some b?)) :
    Takes layout n (put none) (Json.optional key v?) (put (b?.map some)) := by
  cases v? with
  | none =>
    rw [reads.absent.mp rfl]
    exact fun rest => rfl
  | some v =>
    cases b? with
    | none => exact absurd (reads.absent.mpr rfl) (Option.some_ne_none v)
    | some b =>
      apply Takes.field known fresh
      rw [taken, reads.present v rfl]
      rfl

end Fields

theorem Reads.text (n : Nat) (text? : Option String) :
    Reads (readOptional readString) n text? (text?.map .string) where
  absent := Option.map_eq_none_iff
  present v found := by
    obtain ⟨text, rfl, rfl⟩ := Option.map_eq_some_iff.mp found
    rfl

theorem Reads.flag (n : Nat) (flag? : Option Bool) :
    Reads (readOptional readBool) n flag? (flag?.map .bool) where
  absent := Option.map_eq_none_iff
  present v found := by
    obtain ⟨flag, rfl, rfl⟩ := Option.map_eq_some_iff.mp found
    rfl

theorem getD_map_some {α : Type} (a? : Option α) : (a?.map some).getD none = a? := by
  cases a? <;> rfl

end Json

namespace Parameter

/-! ## Parameters -/

/-- The fields of a parameter, given how its components are read. -/
def slots (components : Reader (Option (List Parameter))) : List (RecordField Draft) :=
  [⟨"name", _, readString, fun d a => { d with name := some a }, fun d => d.name.isSome⟩,
    ⟨"type", _, readString, fun d a => { d with kind := some a }, fun d => d.kind.isSome⟩,
    ⟨"internalType", _, readOptional readString, fun d a => { d with internalType := some a },
      fun d => d.internalType.isSome⟩,
    ⟨"indexed", _, readOptional readBool, fun d a => { d with indexed := some a },
      fun d => d.indexed.isSome⟩,
    ⟨"components", _, components, fun d a => { d with components := some a },
      fun d => d.components.isSome⟩]

theorem layout_made {components : Reader (Option (List Parameter))} (stable : Stable components) :
    (layout components).Made (slots components) where
  names := rfl
  field := by
    simp only [slots, List.forall_mem_cons]
    exact ⟨fun _ _ _ => rfl, fun _ _ _ => rfl, fun _ _ _ => rfl, fun _ _ _ => rfl, fun _ _ _ => rfl,
      nofun⟩
  has := by
    simp only [slots, List.forall_mem_cons]
    exact ⟨fun _ => rfl, fun _ => rfl, fun _ => rfl, fun _ => rfl, fun _ => rfl, nofun⟩
  fills := by
    simp only [slots, List.forall_mem_cons]
    exact ⟨fun _ _ => rfl, fun _ _ => rfl, fun _ _ => rfl, fun _ _ => rfl, fun _ _ => rfl, nofun⟩
  stable := by
    simp only [slots, List.forall_mem_cons]
    exact ⟨.string, .string, .optional .string, .optional .bool, stable, nofun⟩
  apart := by
    simp only [slots, List.pairwise_cons, List.forall_mem_cons]
    and_intros <;> first | exact ⟨fun _ _ _ => rfl, fun _ _ => rfl, fun _ _ => rfl⟩ | simp

theorem readLevels_stable (levels : Nat) : Stable (readLevels levels) := by
  induction levels with
  | zero => exact fun n d a v success => nomatch success
  | succ levels ih => exact (layout_made ih.list.optional).record

theorem read_stable : Stable Parameter.read :=
  fun n d a v success written => readLevels_stable (n + 1) n d a v success written

/-- The components of a tuple. -/
def components? : Parameter → Option (List Parameter)
  | mk _ _ _ _ components? => components?

/-- A parameter is read where it was written, if its components are. -/
theorem readRecord_document {components : Reader (Option (List Parameter))} {n : Nat}
    {p : Parameter} (parts : Reads components n p.components? (optionToJson p.components?)) :
    readRecord (layout components) (n + 1) p.toJson.document = .ok p := by
  obtain ⟨name, kind, internalType?, indexed?, components?⟩ := p
  have first : Takes (layout components) n {} [("name", .string name), ("type", .string kind)]
      ⟨some name, some kind, none, none, none⟩ :=
    .append (.field (by simp [layout]) rfl rfl) (.field (by simp [layout]) rfl rfl)
  have second : Takes (layout components) n ⟨some name, some kind, none, none, none⟩
      (Json.optional "internalType" (internalType?.map .string))
      ⟨some name, some kind, internalType?.map some, none, none⟩ :=
    .optional (fun x => (⟨some name, some kind, x, none, none⟩ : Draft)) (.text n internalType?)
      (by simp [layout]) rfl fun _ => rfl
  have third : Takes (layout components) n ⟨some name, some kind, internalType?.map some, none, none⟩
      (Json.optional "indexed" (indexed?.map .bool))
      ⟨some name, some kind, internalType?.map some, indexed?.map some, none⟩ :=
    .optional (fun x => (⟨some name, some kind, internalType?.map some, x, none⟩ : Draft))
      (.flag n indexed?) (by simp [layout]) rfl fun _ => rfl
  have fourth : Takes (layout components) n
      ⟨some name, some kind, internalType?.map some, indexed?.map some, none⟩
      (Json.optional "components" (optionToJson components?))
      ⟨some name, some kind, internalType?.map some, indexed?.map some, components?.map some⟩ :=
    .optional
      (fun x => (⟨some name, some kind, internalType?.map some, indexed?.map some, x⟩ : Draft)) parts
      (by simp [layout]) rfl fun _ => rfl
  have fields := (((first.append second).append third).append fourth).readFields
  have start : (layout components).start = {} := rfl
  rw [toJson, document, readRecord, start, fields]
  simp [layout, required, Except.map, getD_map_some]

mutual

/-- A parameter is read where it was written, if as many levels are allowed as it nests. -/
theorem readLevels_document (p : Parameter) {levels n : Nat} (shallow : p.toJson.depth ≤ n)
    (enough : p.toJson.depth ≤ levels) : readLevels levels n p.toJson.document = .ok p := by
  match p with
  | mk name kind internalType? indexed? components? =>
    rw [toJson, depth] at shallow enough
    have inner {m : Nat} (bound : depthEntries ([("name", .string name), ("type", .string kind)] ++
        Json.optional "internalType" (internalType?.map .string) ++
        Json.optional "indexed" (indexed?.map .bool) ++
        Json.optional "components" (optionToJson components?)) ≤ m) (v : Json)
        (found : optionToJson components? = some v) : v.depth ≤ m :=
      depthEntries_le.mp bound ("components", v)
        (List.mem_append_right _ (by simp [found, Json.optional]))
    match n, levels with
    | n + 1, levels + 1 =>
      have reads := readOptional_document components? (inner (Nat.le_of_succ_le_succ shallow))
        (inner (Nat.le_of_succ_le_succ enough))
      exact readRecord_document reads

theorem readOptional_document (ps? : Option (List Parameter)) {levels n : Nat}
    (shallow : ∀ v, optionToJson ps? = some v → v.depth ≤ n)
    (enough : ∀ v, optionToJson ps? = some v → v.depth ≤ levels) :
    Reads (readOptional (readList (readLevels levels))) n ps? (optionToJson ps?) := by
  match ps? with
  | none => exact ⟨by simp [optionToJson], nofun⟩
  | some ps =>
    refine ⟨by simp [optionToJson], ?_⟩
    rintro v ⟨rfl⟩
    have within := shallow _ rfl
    have levelled := enough _ rfl
    rw [depth] at within levelled
    match n with
    | n + 1 =>
      have each := readEach_listToJson ps (Nat.le_of_succ_le_succ within)
        (Nat.le_trans (Nat.le_succ _) levelled)
      simp [document, readOptional, readList, each, Except.map]

theorem readEach_listToJson (ps : List Parameter) {levels n : Nat}
    (shallow : depthItems (listToJson ps) ≤ n) (enough : depthItems (listToJson ps) ≤ levels) :
    readEach (readLevels levels n) (documentItems (listToJson ps)) = .ok ps := by
  match ps with
  | [] => rfl
  | p :: ps =>
    rw [listToJson, depthItems] at shallow enough
    have head := readLevels_document p (Nat.le_trans (Nat.le_max_left ..) shallow)
      (Nat.le_trans (Nat.le_max_left ..) enough)
    have tail := readEach_listToJson ps (Nat.le_trans (Nat.le_max_right ..) shallow)
      (Nat.le_trans (Nat.le_max_right ..) enough)
    simp [listToJson, documentItems, readEach, head, tail]

end

/-- Components need no more levels than there is nesting. -/
theorem reads_list (ps? : Option (List Parameter)) {n : Nat}
    (shallow : ∀ v, optionToJson ps? = some v → v.depth ≤ n) :
    Reads (readOptional (readList Parameter.read)) n ps? (optionToJson ps?) := by
  have reads := readOptional_document ps? shallow shallow
  refine ⟨reads.absent, ?_⟩
  intro v found
  match ps?, n with
  | some ps, 0 =>
    cases found
    exact absurd (shallow _ rfl) (by simp [depth])
  | some ps, n + 1 =>
    cases found
    have again := reads.present _ rfl
    simp only [document, readOptional, readList, Parameter.read] at again ⊢
    exact again

end Parameter

namespace AbiItem

/-! ## Entries of an interface -/

/-- The fields of an entry. -/
def slots : List (RecordField Draft) :=
  [⟨"type", _, readString, fun d a => { d with kind := some a }, fun d => d.kind.isSome⟩,
    ⟨"name", _, readOptional readString, fun d a => { d with name := some a },
      fun d => d.name.isSome⟩,
    ⟨"inputs", _, readOptional (readList Parameter.read), fun d a => { d with inputs := some a },
      fun d => d.inputs.isSome⟩,
    ⟨"outputs", _, readOptional (readList Parameter.read), fun d a => { d with outputs := some a },
      fun d => d.outputs.isSome⟩,
    ⟨"stateMutability", _, readOptional readString, fun d a => { d with stateMutability := some a },
      fun d => d.stateMutability.isSome⟩,
    ⟨"anonymous", _, readOptional readBool, fun d a => { d with anonymous := some a },
      fun d => d.anonymous.isSome⟩]

theorem layout_made : layout.Made slots where
  names := rfl
  field := by
    simp only [slots, List.forall_mem_cons]
    exact ⟨fun _ _ _ => rfl, fun _ _ _ => rfl, fun _ _ _ => rfl, fun _ _ _ => rfl, fun _ _ _ => rfl,
      fun _ _ _ => rfl, nofun⟩
  has := by
    simp only [slots, List.forall_mem_cons]
    exact ⟨fun _ => rfl, fun _ => rfl, fun _ => rfl, fun _ => rfl, fun _ => rfl, fun _ => rfl, nofun⟩
  fills := by
    simp only [slots, List.forall_mem_cons]
    exact ⟨fun _ _ => rfl, fun _ _ => rfl, fun _ _ => rfl, fun _ _ => rfl, fun _ _ => rfl,
      fun _ _ => rfl, nofun⟩
  stable := by
    simp only [slots, List.forall_mem_cons]
    exact ⟨.string, .optional .string, .optional Parameter.read_stable.list,
      .optional Parameter.read_stable.list, .optional .string, .optional .bool, nofun⟩
  apart := by
    simp only [slots, List.pairwise_cons, List.forall_mem_cons]
    and_intros <;> first | exact ⟨fun _ _ _ => rfl, fun _ _ => rfl, fun _ _ => rfl⟩ | simp

theorem read_stable : Stable AbiItem.read :=
  layout_made.record

/-- An entry is read where it was written. -/
theorem read_document (item : AbiItem) {n : Nat} (shallow : item.toJson.depth ≤ n) :
    AbiItem.read n item.toJson.document = .ok item := by
  obtain ⟨kind, name?, inputs?, outputs?, stateMutability?, anonymous?⟩ := item
  rw [toJson, depth] at shallow
  match n with
  | n + 1 =>
    have within := depthEntries_le.mp (Nat.le_of_succ_le_succ shallow)
    have inputs (v : Json) (found : Parameter.optionToJson inputs? = some v) : v.depth ≤ n :=
      within ("inputs", v) (by simp [found, Json.optional])
    have outputs (v : Json) (found : Parameter.optionToJson outputs? = some v) : v.depth ≤ n :=
      within ("outputs", v) (by simp [found, Json.optional])
    have first : Takes layout n {} [("type", .string kind)] ⟨some kind, none, none, none, none, none⟩ :=
      .field (by simp [layout]) rfl rfl
    have second : Takes layout n ⟨some kind, none, none, none, none, none⟩
        (Json.optional "name" (name?.map .string))
        ⟨some kind, name?.map some, none, none, none, none⟩ :=
      .optional (fun x => (⟨some kind, x, none, none, none, none⟩ : Draft)) (.text n name?)
        (by simp [layout]) rfl fun _ => rfl
    have third : Takes layout n ⟨some kind, name?.map some, none, none, none, none⟩
        (Json.optional "inputs" (Parameter.optionToJson inputs?))
        ⟨some kind, name?.map some, inputs?.map some, none, none, none⟩ :=
      .optional (fun x => (⟨some kind, name?.map some, x, none, none, none⟩ : Draft))
        (Parameter.reads_list inputs? inputs) (by simp [layout]) rfl fun _ => rfl
    have fourth : Takes layout n ⟨some kind, name?.map some, inputs?.map some, none, none, none⟩
        (Json.optional "outputs" (Parameter.optionToJson outputs?))
        ⟨some kind, name?.map some, inputs?.map some, outputs?.map some, none, none⟩ :=
      .optional (fun x => (⟨some kind, name?.map some, inputs?.map some, x, none, none⟩ : Draft))
        (Parameter.reads_list outputs? outputs) (by simp [layout]) rfl fun _ => rfl
    have fifth : Takes layout n
        ⟨some kind, name?.map some, inputs?.map some, outputs?.map some, none, none⟩
        (Json.optional "stateMutability" (stateMutability?.map .string))
        ⟨some kind, name?.map some, inputs?.map some, outputs?.map some, stateMutability?.map some,
          none⟩ :=
      .optional (fun x =>
        (⟨some kind, name?.map some, inputs?.map some, outputs?.map some, x, none⟩ : Draft))
        (.text n stateMutability?) (by simp [layout]) rfl fun _ => rfl
    have sixth : Takes layout n
        ⟨some kind, name?.map some, inputs?.map some, outputs?.map some, stateMutability?.map some,
          none⟩
        (Json.optional "anonymous" (anonymous?.map .bool))
        ⟨some kind, name?.map some, inputs?.map some, outputs?.map some, stateMutability?.map some,
          anonymous?.map some⟩ :=
      .optional (fun x =>
        (⟨some kind, name?.map some, inputs?.map some, outputs?.map some,
          stateMutability?.map some, x⟩ : Draft))
        (.flag n anonymous?) (by simp [layout]) rfl fun _ => rfl
    have fields :=
      (((((first.append second).append third).append fourth).append fifth).append sixth).readFields
    have start : layout.start = {} := rfl
    rw [toJson, document, AbiItem.read, readRecord, start, fields]
    simp [layout, required, Except.map, getD_map_some]

theorem readEach_toJson (abi : List AbiItem) {n : Nat} (shallow : depthItems (abi.map toJson) ≤ n) :
    readEach (AbiItem.read n) (documentItems (abi.map toJson)) = .ok abi := by
  induction abi with
  | nil => rfl
  | cons item abi ih =>
    rw [List.map_cons, depthItems] at shallow
    have head := read_document item (Nat.le_trans (Nat.le_max_left ..) shallow)
    have tail := ih (Nat.le_trans (Nat.le_max_right ..) shallow)
    simp [documentItems, readEach, head, tail]

/-- An interface is read where it was written. -/
theorem readList_document (abi : List AbiItem) {n : Nat} (shallow : (listToJson abi).depth ≤ n) :
    readList AbiItem.read n (listToJson abi).document = .ok abi := by
  rw [listToJson, depth] at shallow
  match n with
  | n + 1 =>
    have each := readEach_toJson abi (Nat.le_of_succ_le_succ shallow)
    simp [listToJson, document, readList, each]

end AbiItem

namespace DeploymentRecord

/-! ## Deployment records -/

theorem stable_instant : Stable Time.Instant.read :=
  .flat nofun nofun nofun

/-- The fields of a deployment record. -/
def slots : List (RecordField Draft) :=
  [⟨"contract", _, readString, fun d a => { d with contract := some a }, fun d => d.contract.isSome⟩,
    ⟨"address", _, readString, fun d a => { d with address := some a }, fun d => d.address.isSome⟩,
    ⟨"network", _, readString, fun d a => { d with network := some a }, fun d => d.network.isSome⟩,
    ⟨"timestamp", _, Time.Instant.read, fun d a => { d with timestamp := some a },
      fun d => d.timestamp.isSome⟩,
    ⟨"deployer", _, readString, fun d a => { d with deployer := some a }, fun d => d.deployer.isSome⟩,
    ⟨"abi", _, readList AbiItem.read, fun d a => { d with abi := some a }, fun d => d.abi.isSome⟩]

theorem layout_made : layout.Made slots where
  names := rfl
  field := by
    simp only [slots, List.forall_mem_cons]
    exact ⟨fun _ _ _ => rfl, fun _ _ _ => rfl, fun _ _ _ => rfl, fun _ _ _ => rfl, fun _ _ _ => rfl,
      fun _ _ _ => rfl, nofun⟩
  has := by
    simp only [slots, List.forall_mem_cons]
    exact ⟨fun _ => rfl, fun _ => rfl, fun _ => rfl, fun _ => rfl, fun _ => rfl, fun _ => rfl, nofun⟩
  fills := by
    simp only [slots, List.forall_mem_cons]
    exact ⟨fun _ _ => rfl, fun _ _ => rfl, fun _ _ => rfl, fun _ _ => rfl, fun _ _ => rfl,
      fun _ _ => rfl, nofun⟩
  stable := by
    simp only [slots, List.forall_mem_cons]
    exact ⟨.string, .string, .string, stable_instant, .string, .list AbiItem.read_stable, nofun⟩
  apart := by
    simp only [slots, List.pairwise_cons, List.forall_mem_cons]
    and_intros <;> first | exact ⟨fun _ _ _ => rfl, fun _ _ => rfl, fun _ _ => rfl⟩ | simp

/-- A record is found again where its text was carried over. -/
theorem read_stable : Stable DeploymentRecord.read :=
  layout_made.record

/-- The nesting of a record is that of its interface and one more. -/
theorem depth_toJson (r : DeploymentRecord) :
    r.toJson.depth = (AbiItem.listToJson r.abi).depth + 1 := by
  simp [toJson, depth, depthEntries, Time.Instant.toJson]

/-- A record is read where it was written, if its point in time is. -/
theorem read_document (r : DeploymentRecord) {n : Nat} (shallow : r.toJson.depth ≤ n)
    (dated : Time.Instant.parse? r.timestamp.millisText = some r.timestamp) :
    DeploymentRecord.read n r.toJson.document = .ok r := by
  rw [depth_toJson] at shallow
  match n with
  | n + 1 =>
    have interface := AbiItem.readList_document r.abi (Nat.le_of_succ_le_succ shallow)
    have instant : Time.Instant.read n r.timestamp.toJson.document = .ok r.timestamp := by
      simp [Time.Instant.toJson, document, Time.Instant.read, dated]
    have fields : Supplies n slots [("contract", .string r.contract), ("address", .string r.address),
        ("network", .string r.network), ("timestamp", r.timestamp.toJson),
        ("deployer", .string r.deployer), ("abi", AbiItem.listToJson r.abi)] layout.start
        ⟨some r.contract, some r.address, some r.network, some r.timestamp, some r.deployer,
          some r.abi⟩ :=
      .cons rfl rfl <| .cons rfl rfl <| .cons rfl rfl <| .cons rfl (by simp only [instant]) <|
        .cons rfl rfl <| .cons rfl (by simp only [interface]) .nil
    rw [DeploymentRecord.read, toJson, fields.readRecord layout_made]
    rfl

/-- A record is read from the form in which an append writes it. -/
theorem read_carried (r : DeploymentRecord) {n : Nat} (shallow : r.toJson.depth ≤ n)
    (dated : Time.Instant.parse? r.timestamp.millisText = some r.timestamp) :
    DeploymentRecord.read n (carried r.toJson) = .ok r :=
  read_stable.carried r.toJson_plain shallow (read_document r shallow dated)

end DeploymentRecord

/-! ## Too deep to be read -/

namespace Json

variable {α : Type} {reader : Reader α} {n : Nat}

theorem readList_carried_array {items : List Json} {as : List α}
    (success : readList reader n (carried (.array items)) = .ok as) :
    ∃ m, n = m + 1 ∧ readEach (reader m) (items.map carried) = .ok as := by
  rw [carried_array] at success
  cases n with
  | zero => simp [readList] at success
  | succ m =>
    refine ⟨m, rfl, ?_⟩
    rw [readList] at success
    split at success
    case h_1 => cases success
    case h_2 bs each =>
      cases success
      exact each

theorem mem_optional {key : String} {v? : Option Json} {entry : String × Json} :
    entry ∈ Json.optional key v? ↔ ∃ v, v? = some v ∧ entry = (key, v) := by
  cases v? <;> simp [Json.optional]

/-- Texts and flags do not nest. -/
theorem depth_of_text {text? : Option String} {v : Json} (written : text?.map Json.string = some v) :
    v.depth = 0 := by
  obtain ⟨text, -, rfl⟩ := Option.map_eq_some_iff.mp written
  rfl

theorem depth_of_flag {flag? : Option Bool} {v : Json} (written : flag?.map Json.bool = some v) :
    v.depth = 0 := by
  obtain ⟨flag, -, rfl⟩ := Option.map_eq_some_iff.mp written
  rfl

theorem readOptional_carried_array {items : List Json} {as? : Option (List α)}
    (success : readOptional (readList reader) n (carried (.array items)) = .ok as?) :
    ∃ m as, n = m + 1 ∧ readEach (reader m) (items.map carried) = .ok as := by
  have unfolded : readOptional (readList reader) n (carried (.array items)) =
      (readList reader n (carried (.array items))).map some := by
    rw [carried_array]
    rfl
  rw [unfolded] at success
  obtain ⟨as, read, -⟩ := map_eq_ok.mp success
  obtain ⟨m, rfl, each⟩ := readList_carried_array read
  exact ⟨m, as, rfl, each⟩

end Json

namespace Parameter

mutual

/-- A parameter that is read nests no deeper than is allowed. -/
theorem depth_of_carried (p : Parameter) {levels n : Nat} {q : Parameter}
    (success : readLevels levels n (carried p.toJson) = .ok q) : p.toJson.depth ≤ n := by
  have keys := p.toJson_distinct
  match p, levels with
  | mk name kind internalType? indexed? components?, levels + 1 =>
    rw [toJson] at success keys ⊢
    rw [readLevels] at success
    have made := layout_made (readLevels_stable levels).list.optional
    obtain ⟨m, rfl, read⟩ := made.read_of_carried keys.1 success
    refine Nat.succ_le_succ (depthEntries_le.mpr ?_)
    rintro ⟨key, v⟩ member
    simp only [List.mem_append, mem_optional, List.mem_cons, List.not_mem_nil, or_false,
      Prod.mk.injEq] at member
    rcases member with (((⟨-, rfl⟩ | ⟨-, rfl⟩) | ⟨v, written, -, rfl⟩) | ⟨v, written, -, rfl⟩) |
      ⟨v, written, rfl, rfl⟩
    · exact Nat.zero_le m
    · exact Nat.zero_le m
    · rw [depth_of_text written]
      exact Nat.zero_le m
    · rw [depth_of_flag written]
      exact Nat.zero_le m
    · cases components? with
      | none => cases written
      | some ps =>
        cases written
        obtain ⟨b, found⟩ := read _ (.tail _ (.tail _ (.tail _ (.tail _ (.head _)))))
          (.array (listToJson ps)) (List.mem_append_right _ (mem_optional.mpr ⟨_, rfl, rfl⟩))
        obtain ⟨k, qs, rfl, each⟩ := readOptional_carried_array found
        exact Nat.succ_le_succ (depthItems_of_carried ps each)

theorem depthItems_of_carried (ps : List Parameter) {levels n : Nat} {qs : List Parameter}
    (success : readEach (readLevels levels n) ((listToJson ps).map carried) = .ok qs) :
    depthItems (listToJson ps) ≤ n := by
  match ps with
  | [] => exact Nat.zero_le n
  | p :: ps =>
    rw [listToJson, List.map_cons] at success
    obtain ⟨a, bs, head, tail, -⟩ := readEach_cons success
    rw [listToJson, depthItems]
    exact Nat.max_le.mpr ⟨depth_of_carried p head, depthItems_of_carried ps tail⟩

end

end Parameter

namespace AbiItem

theorem depth_of_carried {item : AbiItem} {n : Nat} {other : AbiItem}
    (success : AbiItem.read n (carried item.toJson) = .ok other) : item.toJson.depth ≤ n := by
  have keys := item.toJson_distinct
  obtain ⟨kind, name?, inputs?, outputs?, stateMutability?, anonymous?⟩ := item
  rw [toJson] at success keys ⊢
  obtain ⟨m, rfl, read⟩ := layout_made.read_of_carried keys.1 success
  -- Only the parameters nest; both lists of them are read in the same way.
  have parameters {ps? : Option (List Parameter)} {v : Json}
      (written : Parameter.optionToJson ps? = some v) {qs? : Option (List Parameter)}
      (found : readOptional (readList Parameter.read) m (carried v) = .ok qs?) : v.depth ≤ m := by
    cases ps? with
    | none => cases written
    | some ps =>
      cases written
      obtain ⟨k, qs, rfl, each⟩ := readOptional_carried_array found
      exact Nat.succ_le_succ (Parameter.depthItems_of_carried ps each)
  refine Nat.succ_le_succ (depthEntries_le.mpr ?_)
  rintro ⟨key, v⟩ member
  have there := member
  simp only [List.mem_append, mem_optional, List.mem_cons, List.not_mem_nil, or_false,
    Prod.mk.injEq] at member
  rcases member with ((((⟨-, rfl⟩ | ⟨v, written, -, rfl⟩) | ⟨v, written, rfl, rfl⟩) |
    ⟨v, written, rfl, rfl⟩) | ⟨v, written, -, rfl⟩) | ⟨v, written, -, rfl⟩
  · exact Nat.zero_le m
  · rw [depth_of_text written]
    exact Nat.zero_le m
  · obtain ⟨b, found⟩ := read _ (.tail _ (.tail _ (.head _))) v there
    exact parameters written found
  · obtain ⟨b, found⟩ := read _ (.tail _ (.tail _ (.tail _ (.head _)))) v there
    exact parameters written found
  · rw [depth_of_text written]
    exact Nat.zero_le m
  · rw [depth_of_flag written]
    exact Nat.zero_le m

theorem depthItems_of_carried (abi : List AbiItem) {n : Nat} {others : List AbiItem}
    (success : readEach (AbiItem.read n) ((abi.map toJson).map carried) = .ok others) :
    depthItems (abi.map toJson) ≤ n := by
  induction abi generalizing others with
  | nil => exact Nat.zero_le n
  | cons item abi ih =>
    simp only [List.map_cons] at success ⊢
    obtain ⟨a, bs, head, tail, -⟩ := readEach_cons success
    rw [depthItems]
    exact Nat.max_le.mpr ⟨depth_of_carried head, ih tail⟩

end AbiItem

/-- A record that is read from the form in which an append writes it nests no deeper than is allowed. -/
theorem DeploymentRecord.depth_of_carried {r : DeploymentRecord} {n : Nat} {other : DeploymentRecord}
    (success : DeploymentRecord.read n (carried r.toJson) = .ok other) : r.toJson.depth ≤ n := by
  have keys := r.toJson_distinct
  rw [depth_toJson]
  rw [toJson] at success keys
  obtain ⟨m, rfl, read⟩ := layout_made.read_of_carried keys.1 success
  obtain ⟨abi, found⟩ := read _ (.tail _ (.tail _ (.tail _ (.tail _ (.tail _ (.head _))))))
    (AbiItem.listToJson r.abi) (by simp)
  obtain ⟨k, rfl, each⟩ := readList_carried_array found
  exact Nat.succ_le_succ (Nat.succ_le_succ (AbiItem.depthItems_of_carried r.abi each))

end TokenDesk
