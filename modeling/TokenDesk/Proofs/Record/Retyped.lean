import TokenDesk.Proofs.Json.Orderless
import TokenDesk.Proofs.Record.Reported
import TokenDesk.Proofs.Time.Instant

/-!
# Values and records

A record is found in the value that it is written as, with keys in whatever order, and an entry of an
interface that has known keys only is written as the value in which it was found
(`read_toJson_and_toJson_read`). The second half asks each parameter for its name, at every depth: a
parameter without one is found too, and written with an empty name.
-/

set_option autoImplicit false

namespace TokenDesk

open TokenDesk.Json

namespace Json

/-- The reader finds this in the value as soon as its nesting is allowed: with the keys as they stand,
and with ascending keys. -/
def Finds {α : Type} (reader : Reader α) (v : Json) (a : α) : Prop :=
  ∀ n, v.depth ≤ n → reader n v.document = .ok a ∧ reader n (carried v) = .ok a

theorem Finds.unique {α : Type} {reader : Reader α} {v : Json} {a b : α} (first : Finds reader v a)
    (second : Finds reader v b) : a = b := by
  have read := (first v.depth (Nat.le_refl _)).1
  rw [(second v.depth (Nat.le_refl _)).1] at read
  cases read
  rfl

theorem Stable.finds {α : Type} {reader : Reader α} (stable : Stable reader) {v : Json} {a : α}
    (plain : v.Plain) (read : ∀ n, v.depth ≤ n → reader n v.document = .ok a) : Finds reader v a :=
  fun n shallow => ⟨read n shallow, stable.carried plain shallow (read n shallow)⟩

def IsText : Json → Prop
  | .string _ => True
  | _ => False

def IsFlag : Json → Prop
  | .bool _ => True
  | _ => False

section Typed

variable {texts flags lists : List String} {IsList : Json → Prop} {entries : List (String × Json)}
  {key : String} {v : Json}

/-- Entries with these keys only, texts under some, flags under others and lists under the rest. -/
def Typed (texts flags lists : List String) (IsList : Json → Prop) (entries : List (String × Json)) :
    Prop :=
  ∀ entry ∈ entries, entry.1 ∈ texts ∧ entry.2.IsText ∨ entry.1 ∈ flags ∧ entry.2.IsFlag ∨
    entry.1 ∈ lists ∧ IsList entry.2

theorem Typed.known (typed : Typed texts flags lists IsList entries) :
    ∀ entry ∈ entries, entry.1 ∈ texts ++ flags ++ lists := by
  intro entry member
  rw [List.mem_append, List.mem_append, or_assoc]
  exact (typed entry member).imp And.left (Or.imp And.left And.left)

variable (apart : (texts ++ flags ++ lists).Nodup)
include apart

theorem Typed.text (typed : Typed texts flags lists IsList entries) (among : key ∈ texts)
    (member : (key, v) ∈ entries) : v.IsText := by
  rw [List.append_assoc] at apart
  have other := List.disjoint_of_nodup_append apart among
  rcases typed _ member with ⟨-, isText⟩ | ⟨flag, -⟩ | ⟨list, -⟩
  · exact isText
  · exact absurd (List.mem_append_left _ flag) other
  · exact absurd (List.mem_append_right _ list) other

theorem Typed.flag (typed : Typed texts flags lists IsList entries) (among : key ∈ flags)
    (member : (key, v) ∈ entries) : v.IsFlag := by
  rcases typed _ member with ⟨text, -⟩ | ⟨-, isFlag⟩ | ⟨list, -⟩
  · exact absurd among (List.disjoint_of_nodup_append apart.of_append_left text)
  · exact isFlag
  · exact absurd list (List.disjoint_of_nodup_append apart (List.mem_append_right _ among))

theorem Typed.list (typed : Typed texts flags lists IsList entries) (among : key ∈ lists)
    (member : (key, v) ∈ entries) : IsList v := by
  rcases typed _ member with ⟨text, -⟩ | ⟨flag, -⟩ | ⟨-, isList⟩
  · exact absurd among (List.disjoint_of_nodup_append apart (List.mem_append_left _ text))
  · exact absurd among (List.disjoint_of_nodup_append apart (List.mem_append_right _ flag))
  · exact isList

variable (key) in
theorem Typed.exists_text (typed : Typed texts flags lists IsList entries) (among : key ∈ texts) :
    ∃ text? : Option String, lookup key entries = text?.map .string := by
  cases found : lookup key entries with
  | none => exact ⟨none, rfl⟩
  | some v =>
    match v, typed.text apart among (mem_of_lookup found) with
    | .string s, _ => exact ⟨some s, rfl⟩

variable (key) in
theorem Typed.exists_required (typed : Typed texts flags lists IsList entries) (among : key ∈ texts)
    (there : key ∈ entries.map Prod.fst) :
    ∃ text : String, lookup key entries = some (.string text) := by
  obtain ⟨v, found⟩ := exists_lookup there
  obtain ⟨text?, same⟩ := typed.exists_text key apart among
  rw [same] at found
  obtain ⟨text, rfl, -⟩ := Option.map_eq_some_iff.mp found
  exact ⟨text, same⟩

variable (key) in
theorem Typed.exists_flag (typed : Typed texts flags lists IsList entries) (among : key ∈ flags) :
    ∃ flag? : Option Bool, lookup key entries = flag?.map .bool := by
  cases found : lookup key entries with
  | none => exact ⟨none, rfl⟩
  | some v =>
    match v, typed.flag apart among (mem_of_lookup found) with
    | .bool b, _ => exact ⟨some b, rfl⟩

end Typed

end Json

namespace Parameter

/-! ## Parameters -/

mutual

/-- A parameter with known keys only, among them its name and its type, and so on for its components. -/
def Shaped : Json → Prop
  | .object entries =>
    "name" ∈ entries.map Prod.fst ∧ "type" ∈ entries.map Prod.fst ∧ ShapedEntries entries
  | _ => False

def ShapedList : Json → Prop
  | .array items => ShapedItems items
  | _ => False

def ShapedItems : List Json → Prop
  | [] => True
  | item :: items => Shaped item ∧ ShapedItems items

def ShapedEntries : List (String × Json) → Prop
  | [] => True
  | (key, v) :: entries =>
    (key ∈ ["name", "type", "internalType"] ∧ v.IsText ∨ key ∈ ["indexed"] ∧ v.IsFlag ∨
      key ∈ ["components"] ∧ ShapedList v) ∧ ShapedEntries entries

end

theorem shapedEntries_iff {entries : List (String × Json)} : ShapedEntries entries ↔
    Typed ["name", "type", "internalType"] ["indexed"] ["components"] ShapedList entries := by
  rw [Typed]
  induction entries with
  | nil => simp [ShapedEntries]
  | cons entry entries ih => rw [ShapedEntries, ih, List.forall_mem_cons]

/-- The object of a parameter, field by field. -/
theorem toJson_eq_present (name kind : String) (internalType? : Option String)
    (indexed? : Option Bool) (components? : Option (List Parameter)) :
    (mk name kind internalType? indexed? components?).toJson =
      .object (present [("name", some (.string name)), ("type", some (.string kind)),
        ("internalType", internalType?.map .string), ("indexed", indexed?.map .bool),
        ("components", optionToJson components?)]) := by
  simp [toJson, present, Json.optional]

/-- A list of parameters is known up to the order of keys, if each one that the key may have is. -/
theorem exists_lookup_list {key : String} {entries : List (String × Json)}
    (lists : ∀ v, (key, v) ∈ entries → ∃ ps, (Json.array (listToJson ps)).sorted = v.sorted) :
    ∃ ps? : Option (List Parameter),
      (lookup key entries).map sorted = (optionToJson ps?).map sorted := by
  cases found : lookup key entries with
  | none => exact ⟨none, rfl⟩
  | some v =>
    obtain ⟨ps, same⟩ := lists v (mem_of_lookup found)
    exact ⟨some ps, by rw [optionToJson, Option.map_some, Option.map_some, same]⟩

/-- A parameter is known up to the order of keys, if its components are. -/
theorem exists_of_fields {entries : List (String × Json)} (named : "name" ∈ entries.map Prod.fst)
    (kinded : "type" ∈ entries.map Prod.fst) (fields : ShapedEntries entries)
    (components : ∀ v, ("components", v) ∈ entries →
      ∃ ps, (Json.array (listToJson ps)).sorted = v.sorted) :
    ∃ p : Parameter, p.toJson.sorted = (Json.object entries).sorted := by
  have typed := shapedEntries_iff.mp fields
  have apart : (["name", "type", "internalType"] ++ ["indexed"] ++ ["components"]).Nodup := by decide
  obtain ⟨name, foundName⟩ := typed.exists_required "name" apart (by simp) named
  obtain ⟨kind, foundKind⟩ := typed.exists_required "type" apart (by simp) kinded
  obtain ⟨internalType?, foundInternal⟩ := typed.exists_text "internalType" apart (by simp)
  obtain ⟨indexed?, foundIndexed⟩ := typed.exists_flag "indexed" apart (by simp)
  obtain ⟨components?, foundComponents⟩ := exists_lookup_list components
  refine ⟨mk name kind internalType? indexed? components?, ?_⟩
  rw [toJson_eq_present]
  apply sorted_object_present
  · exact apart
  · exact typed.known
  · simp only [List.forall_mem_cons]
    exact ⟨by rw [foundName], by rw [foundKind], by rw [foundInternal], by rw [foundIndexed],
      foundComponents, List.forall_mem_nil _⟩

mutual

theorem exists_of_shaped {v : Json} (shaped : Shaped v) :
    ∃ p : Parameter, p.toJson.sorted = v.sorted := by
  match v with
  | .object entries =>
    obtain ⟨named, typed, fields⟩ := shaped
    exact exists_of_fields named typed fields (exists_of_shapedEntries fields)

theorem exists_of_shapedList {v : Json} (shaped : ShapedList v) :
    ∃ ps, (Json.array (listToJson ps)).sorted = v.sorted := by
  match v with
  | .array items =>
    have each : ShapedItems items := shaped
    obtain ⟨ps, same⟩ := exists_of_shapedItems each
    exact ⟨ps, by rw [sorted, sorted, same]⟩

theorem exists_of_shapedItems {items : List Json} (shaped : ShapedItems items) :
    ∃ ps, sortedItems (listToJson ps) = sortedItems items := by
  match items with
  | [] => exact ⟨[], rfl⟩
  | item :: items =>
    obtain ⟨p, head⟩ := exists_of_shaped shaped.1
    obtain ⟨ps, tail⟩ := exists_of_shapedItems shaped.2
    exact ⟨p :: ps, by rw [listToJson, sortedItems, sortedItems, head, tail]⟩

theorem exists_of_shapedEntries {entries : List (String × Json)} (shaped : ShapedEntries entries) :
    ∀ v, ("components", v) ∈ entries → ∃ ps, (Json.array (listToJson ps)).sorted = v.sorted := by
  match entries with
  | [] => simp
  | (key, value) :: entries =>
    intro v member
    rcases List.mem_cons.mp member with here | behind
    · cases here
      rcases shaped.1 with ⟨text, -⟩ | ⟨flag, -⟩ | ⟨-, list⟩
      · simp at text
      · simp at flag
      · exact exists_of_shapedList list
    · exact exists_of_shapedEntries shaped.2 v behind

end

theorem readLevels_orderless (levels : Nat) : Orderless (readLevels levels) := by
  induction levels with
  | zero =>
    intro n v a _ success
    cases success
  | succ levels ih =>
    refine (layout_made (readLevels_stable levels).list.optional).orderless ?_
    simp only [slots, List.forall_mem_cons]
    exact ⟨.string, .string, .optional .string, .optional .bool, ih.list.optional,
      List.forall_mem_nil _⟩

theorem read_orderless : Orderless Parameter.read :=
  fun n v a distinct success => readLevels_orderless (n + 1) n v a distinct success

end Parameter

namespace AbiItem

/-! ## Entries of an interface -/

/-- An entry of an interface with known keys only, among them its type, and with parameters that have
known keys only and a name. -/
def Shaped : Json → Prop
  | .object entries => "type" ∈ entries.map Prod.fst ∧
    Typed ["type", "name", "stateMutability"] ["anonymous"] ["inputs", "outputs"] Parameter.ShapedList
      entries
  | _ => False

/-- The object of an entry, field by field. -/
theorem toJson_eq_present (item : AbiItem) :
    item.toJson = .object (present [("type", some (.string item.kind)),
      ("name", item.name?.map .string), ("inputs", Parameter.optionToJson item.inputs?),
      ("outputs", Parameter.optionToJson item.outputs?),
      ("stateMutability", item.stateMutability?.map .string),
      ("anonymous", item.anonymous?.map .bool)]) := by
  simp [toJson, present, Json.optional]

theorem exists_of_shaped {v : Json} (shaped : Shaped v) :
    ∃ item : AbiItem, item.toJson.sorted = v.sorted := by
  match v with
  | .object entries =>
    obtain ⟨kinded, typed⟩ := shaped
    have apart : (["type", "name", "stateMutability"] ++ ["anonymous"] ++
        ["inputs", "outputs"]).Nodup := by decide
    have lists {key : String} (among : key ∈ ["inputs", "outputs"]) (v : Json)
        (member : (key, v) ∈ entries) :
        ∃ ps, (Json.array (Parameter.listToJson ps)).sorted = v.sorted :=
      Parameter.exists_of_shapedList (typed.list apart among member)
    obtain ⟨kind, foundKind⟩ := typed.exists_required "type" apart (by simp) kinded
    obtain ⟨name?, foundName⟩ := typed.exists_text "name" apart (by simp)
    obtain ⟨inputs?, foundInputs⟩ := Parameter.exists_lookup_list (lists (.head _))
    obtain ⟨outputs?, foundOutputs⟩ := Parameter.exists_lookup_list (lists (.tail _ (.head _)))
    obtain ⟨mutability?, foundMutability⟩ := typed.exists_text "stateMutability" apart (by simp)
    obtain ⟨anonymous?, foundAnonymous⟩ := typed.exists_flag "anonymous" apart (by simp)
    refine ⟨⟨kind, name?, inputs?, outputs?, mutability?, anonymous?⟩, ?_⟩
    have among : ["type", "name", "stateMutability"] ++ ["anonymous"] ++ ["inputs", "outputs"] ⊆
        ["type", "name", "inputs", "outputs", "stateMutability", "anonymous"] := by decide
    rw [toJson_eq_present]
    apply sorted_object_present
    · simp
    · exact fun entry member => among (typed.known entry member)
    · simp only [List.forall_mem_cons]
      exact ⟨by rw [foundKind], by rw [foundName], foundInputs, foundOutputs,
        by rw [foundMutability], by rw [foundAnonymous], List.forall_mem_nil _⟩

theorem read_orderless : Orderless AbiItem.read := by
  refine layout_made.orderless ?_
  simp only [slots, List.forall_mem_cons]
  exact ⟨.string, .optional .string, .optional Parameter.read_orderless.list,
    .optional Parameter.read_orderless.list, .optional .string, .optional .bool, List.forall_mem_nil _⟩

/-- An entry is found in every value that it is written as, up to the order of keys. -/
theorem finds {item : AbiItem} {v : Json} (distinct : v.Distinct)
    (same : item.toJson.sorted = v.sorted) : Finds AbiItem.read v item := by
  intro n shallow
  have deep : item.toJson.depth ≤ n := by
    calc item.toJson.depth
      _ ≤ item.toJson.sorted.depth := item.toJson_distinct.depth_le_sorted
      _ = v.sorted.depth := by rw [same]
      _ ≤ v.depth := depth_sorted_le v
      _ ≤ n := shallow
  -- With ascending keys the value is the one that the entry is written as.
  have found : AbiItem.read n (carried v) = .ok item := by
    rw [carried, ← same]
    exact read_stable.carried item.toJson_plain deep (read_document item deep)
  exact ⟨read_orderless n v item distinct found, found⟩

end AbiItem

/-! ## Both ways -/

/-- A record and a report entry with a date of four-digit year and whole milliseconds are found in the
values that they are written as, so that the interface of the record has the text that it had. An entry
of an interface that has no key twice, known keys only and a name for every parameter is found, and is
written as the value in which it was found. -/
theorem read_toJson_and_toJson_read :
    (∀ r : DeploymentRecord, r.timestamp.OfClock → r.timestamp.truncate = r.timestamp →
      Finds DeploymentRecord.read r.toJson r ∧
      ∀ s, Finds DeploymentRecord.read r.toJson s → s.abiText = r.abiText) ∧
    (∀ e : ReportEntry, e.timestamp.OfClock → e.timestamp.truncate = e.timestamp →
      Finds ReportEntry.read e.toJson e) ∧
    (∀ v : Json, v.Distinct → AbiItem.Shaped v →
      ∃ item, Finds AbiItem.read v item ∧ item.toJson.sorted = v.sorted) := by
  refine ⟨fun r clock whole => ?_, fun e clock whole => ?_, fun v distinct shaped => ?_⟩
  · have dated := Time.Instant.parse?_millisText clock whole
    have finds := DeploymentRecord.read_stable.finds r.toJson_plain fun n shallow =>
      r.read_document shallow dated
    exact ⟨finds, fun s other => by rw [other.unique finds]⟩
  · have dated := Time.Instant.parse?_millisText clock whole
    refine ReportEntry.read_stable.finds e.toJson_plain fun n shallow => ?_
    rw [e.depth_toJson] at shallow
    obtain ⟨m, rfl⟩ := Nat.exists_eq_add_of_le' shallow
    exact e.read_document m dated
  · obtain ⟨item, same⟩ := AbiItem.exists_of_shaped shaped
    exact ⟨item, AbiItem.finds distinct same, same⟩

/-- An event with a tuple among its parameters. -/
def sentEvent : AbiItem :=
  ⟨"event", some "Sent", some [.mk "" "tuple" none (some true) (some [.plain "to" "address"])], none,
    none, some false⟩

/-- The event with its keys out of order. -/
def sentWritten : Json :=
  .object [("type", .string "event"), ("inputs", .array [.object [("components", .array
    [.object [("type", .string "address"), ("name", .string "to")]]), ("indexed", .bool true),
      ("name", .string ""), ("type", .string "tuple")]]), ("name", .string "Sent"),
    ("anonymous", .bool false)]

/-- The token with the event, deployed inside a leap second. -/
def sentRecord : DeploymentRecord :=
  ⟨"Token", "0x01", "local", ⟨⟨2016, 12, 31⟩, 86399, 1500000000⟩, "0x02", [sentEvent]⟩

/-- A run on the token with the largest gas that there is. -/
def sentEntry : ReportEntry :=
  ⟨sentRecord.timestamp, "local", .full, "Token", "0x01",
    ⟨.recorded 18446744073709551615, .failed, .disabled⟩, ⟨"1", "2", "3"⟩, "6", "6"⟩

theorem read_toJson_and_toJson_read_sent :
    Finds DeploymentRecord.read sentRecord.toJson sentRecord ∧
      Finds ReportEntry.read sentEntry.toJson sentEntry ∧
      ∃ item, Finds AbiItem.read sentWritten item ∧ item.toJson.sorted = sentWritten.sorted := by
  have clock : sentRecord.timestamp.OfClock :=
    ⟨by decide, by decide, by decide, by decide, by decide, by decide⟩
  have whole : sentRecord.timestamp.truncate = sentRecord.timestamp := by decide
  have distinct : sentWritten.Distinct := by
    simp [sentWritten, Distinct, DistinctEntries, DistinctItems]
  have shaped : AbiItem.Shaped sentWritten := by
    simp [sentWritten, AbiItem.Shaped, Typed, Parameter.ShapedList, Parameter.ShapedItems,
      Parameter.Shaped, Parameter.ShapedEntries, IsText, IsFlag]
  obtain ⟨records, entries, items⟩ := read_toJson_and_toJson_read
  exact ⟨(records sentRecord clock whole).1, entries sentEntry clock whole,
    items sentWritten distinct shaped⟩

/-- A parameter without a name comes back with an empty one. -/
example : (Parameter.read 1 (Json.object [("type", .string "bool")]).document).toOption.map
    Parameter.name = some "" := by
  rfl

end TokenDesk
