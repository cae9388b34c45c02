import Mathlib.Data.List.Pairwise
import TokenDesk.Proofs.Json.ReadBack

/-!
# Records in carried texts

A text that is read without a type and written again holds the same records as before: keys may stand in
another order, repeated keys that no record knows may be gone and numbers may be rounded, but a record holds
no number and takes its fields in any order. `Stable` says so of a reader; each way to build a reader
keeps it, and so does a record type whose fields do not depend on each other (`Layout.Made.record`).
-/

set_option autoImplicit false

namespace TokenDesk.Json

variable {α β δ : Type}

/-- A value as it stands in a file after it was read without a type. -/
def carried (v : Json) : Document :=
  v.sorted.document

/-- What the reader finds in a text it finds again where the text was carried over. -/
def Stable (reader : Reader α) : Prop :=
  ∀ n d a v, reader n d = .ok a → readAsWritten n d = .ok v → reader n (carried v) = .ok a

/-- What the reader finds in a value as it stands it finds under ascending keys. -/
theorem Stable.carried {reader : Reader α} (stable : Stable reader) {v : Json} (plain : v.Plain)
    {n : Nat} {a : α} (shallow : v.depth ≤ n) (read : reader n v.document = .ok a) :
    reader n (Json.carried v) = .ok a := by
  have untyped : readAsWritten n v.document = .ok v := by
    rw [readAsWritten_document plain.readable, if_pos shallow, reread_of_plain plain]
  exact stable n _ a v read untyped

/-! ## Values without a type -/

theorem readAsWritten_array {n : Nat} {ds : List Document} {closed : Bool} {v : Json}
    (success : readAsWritten (n + 1) (.array ds closed) = .ok v) :
    closed = true ∧ ∃ items, readItems n ds = .ok items ∧ v = .array items := by
  rw [readAsWritten] at success
  split at success
  case h_1 => cases success
  case h_2 items read =>
    split at success <;> cases success
    exact ⟨‹_›, items, read, rfl⟩

theorem readAsWritten_object {n : Nat} {es : List (Option String × Document)} {closed : Bool}
    {v : Json} (success : readAsWritten (n + 1) (.object es closed) = .ok v) :
    closed = true ∧ ∃ entries, readEntries n es = .ok entries ∧ v = .object entries := by
  rw [readAsWritten] at success
  split at success
  case h_1 => cases success
  case h_2 entries read =>
    split at success <;> cases success
    exact ⟨‹_›, entries, read, rfl⟩

theorem readItems_cons {n : Nat} {d : Document} {ds : List Document} {items : List Json}
    (success : readItems n (d :: ds) = .ok items) :
    ∃ v rest, readAsWritten n d = .ok v ∧ readItems n ds = .ok rest ∧ items = v :: rest := by
  rw [readItems] at success
  split at success
  case h_1 => cases success
  case h_2 v read =>
    split at success <;> cases success
    exact ⟨v, _, read, ‹_›, rfl⟩

theorem readEntries_cons {n : Nat} {key? : Option String} {d : Document}
    {es : List (Option String × Document)} {entries : List (String × Json)}
    (success : readEntries n ((key?, d) :: es) = .ok entries) :
    ∃ key v rest, key? = some key ∧ readAsWritten n d = .ok v ∧ readEntries n es = .ok rest ∧
      entries = (key, v) :: rest := by
  cases key? with
  | none => cases success
  | some key =>
    rw [readEntries] at success
    split at success
    case h_1 => cases success
    case h_2 v read =>
      split at success <;> cases success
      exact ⟨key, v, _, rfl, read, ‹_›, rfl⟩

theorem readEach_cons {item : Document → Except Fault α} {d : Document} {ds : List Document}
    {as : List α} (success : readEach item (d :: ds) = .ok as) :
    ∃ a rest, item d = .ok a ∧ readEach item ds = .ok rest ∧ as = a :: rest := by
  rw [readEach] at success
  split at success
  case h_1 => cases success
  case h_2 a head =>
    split at success <;> cases success
    exact ⟨a, _, head, ‹_›, rfl⟩

theorem carried_array (items : List Json) :
    carried (.array items) = .array (items.map carried) true := by
  rw [carried, sorted, document, sortedItems_eq_map, documentItems_eq_map, List.map_map]
  rfl

theorem documentEntries_eq_map (entries : List (String × Json)) :
    documentEntries entries = entries.map fun entry => (some entry.1, entry.2.document) := by
  induction entries with
  | nil => rfl
  | cons entry entries ih => rw [documentEntries, ih, List.map_cons]

/-- Only null is carried over as null. -/
theorem carried_ne_null {n : Nat} {d : Document} {v : Json} (present : d ≠ .null)
    (written : readAsWritten n d = .ok v) : carried v ≠ .null := by
  match n, d with
  | _, .null => exact absurd rfl present
  | _, .bool b =>
    cases written
    simp [carried, sorted, document]
  | _, .string (some s) =>
    cases written
    simp [carried, sorted, document]
  | _, .string none | _, .broken | 0, .array _ _ | 0, .object _ _ => cases written
  | _, .number m =>
    rw [readAsWritten] at written
    split at written <;> cases written
    case h_1 read =>
      unfold Numeral.value? at read
      dsimp only at read
      split at read
      · cases read
        simp [carried, sorted, document]
      · split at read
        · cases read
          simp [carried, sorted, document]
        · obtain ⟨d, -, rfl⟩ := Option.map_eq_some_iff.mp read
          simp [carried, sorted, document]
  | n + 1, .array ds closed =>
    obtain ⟨-, items, -, rfl⟩ := readAsWritten_array written
    simp [carried, sorted, document]
  | n + 1, .object es closed =>
    obtain ⟨-, entries, -, rfl⟩ := readAsWritten_object written
    simp [carried, sorted, document]

/-! ## Plain types -/

/-- A reader that finds nothing in numbers, arrays and objects finds in a carried text what it found. -/
theorem Stable.flat {reader : Reader α} (number : ∀ n m a, reader n (.number m) ≠ .ok a)
    (array : ∀ n items closed a, reader n (.array items closed) ≠ .ok a)
    (object : ∀ n entries closed a, reader n (.object entries closed) ≠ .ok a) : Stable reader := by
  intro n d a v success written
  match d with
  | .null | .bool _ | .string (some _) =>
    cases written
    exact success
  | .string none | .broken => cases written
  | .number m => exact absurd success (number n m a)
  | .array items closed => exact absurd success (array n items closed a)
  | .object entries closed => exact absurd success (object n entries closed a)

theorem Stable.string : Stable readString :=
  .flat nofun nofun nofun

theorem Stable.bool : Stable readBool :=
  .flat nofun nofun nofun

theorem Stable.map {reader : Reader α} (stable : Stable reader) (f : α → β) :
    Stable fun n d => (reader n d).map f := by
  intro n d b v success written
  dsimp only at success ⊢
  cases read : reader n d with
  | error e =>
    rw [read] at success
    cases success
  | ok a =>
    rw [read] at success
    rw [stable n d a v read written]
    exact success

theorem Stable.optional {reader : Reader α} (stable : Stable reader) :
    Stable (readOptional reader) := by
  have present {n : Nat} {d : Document} (notNull : d ≠ .null) :
      readOptional reader n d = (reader n d).map some := by
    cases d <;> first | exact absurd rfl notNull | rfl
  intro n d a v success written
  by_cases null : d = .null
  · subst null
    cases written
    exact success
  · rw [present null] at success
    rw [present (carried_ne_null null written)]
    exact stable.map some n d a v success written

theorem readEach_carried {reader : Reader α} (stable : Stable reader) {n : Nat} {ds : List Document}
    {as : List α} {items : List Json} (success : readEach (reader n) ds = .ok as)
    (written : readItems n ds = .ok items) :
    readEach (reader n) (items.map carried) = .ok as := by
  induction ds generalizing as items with
  | nil =>
    cases written
    exact success
  | cons d ds ih =>
    obtain ⟨v, rest, first, others, rfl⟩ := readItems_cons written
    obtain ⟨a, bs, read, behind, rfl⟩ := readEach_cons success
    simp [readEach, stable n d a v read first, ih behind others]

theorem Stable.list {reader : Reader α} (stable : Stable reader) : Stable (readList reader) := by
  intro n d as v success written
  match n, d with
  | n + 1, .array ds closed =>
    obtain ⟨rfl, items, others, rfl⟩ := readAsWritten_array written
    rw [carried_array]
    rw [readList] at success ⊢
    split at success
    case h_1 => cases success
    case h_2 bs read =>
      rw [readEach_carried stable read others]
      exact success
  | 0, _ | n + 1, .string _ | n + 1, .null | n + 1, .bool _ | n + 1, .number _ | n + 1, .object _ _
  | n + 1, .broken => simp [readList] at success

/-! ## Record types -/

theorem toOption_eq_some {result : Except Fault α} {a : α} :
    result.toOption = some a ↔ result = .ok a := by
  cases result <;> simp [Except.toOption]

theorem map_eq_ok {f : α → β} {result : Except Fault α} {b : β} :
    result.map f = .ok b ↔ ∃ a, result = .ok a ∧ f a = b := by
  cases result <;> simp [Except.map]

/-- One field of a record: how its value is read, and where a draft keeps it. -/
structure RecordField (δ : Type) where
  name : String
  Value : Type
  read : Reader Value
  put : δ → Value → δ
  has : δ → Bool

/-- Two fields that a draft keeps apart. -/
structure RecordField.Apart (s t : RecordField δ) : Prop where
  commute : ∀ draft a b, t.put (s.put draft a) b = s.put (t.put draft b) a
  left : ∀ draft a, t.has (s.put draft a) = t.has draft
  right : ∀ draft b, s.has (t.put draft b) = s.has draft

instance : Std.Symm (RecordField.Apart (δ := δ)) where
  symm _ _ apart := ⟨fun draft b a => (apart.commute draft a b).symm, apart.right, apart.left⟩

/-- A layout that is made of slots which do not depend on each other. -/
structure Layout.Made (layout : Layout δ α) (slots : List (RecordField δ)) : Prop where
  names : layout.names = slots.map RecordField.name
  field : ∀ slot ∈ slots, ∀ draft n v,
    layout.field slot.name draft n v = (slot.read n v).map (slot.put draft)
  has : ∀ slot ∈ slots, ∀ draft, layout.has slot.name draft = slot.has draft
  fills : ∀ slot ∈ slots, ∀ draft a, slot.has (slot.put draft a) = true
  stable : ∀ slot ∈ slots, Stable slot.read
  apart : slots.Pairwise RecordField.Apart

namespace Layout

variable {layout : Layout δ α} {n : Nat}

/-- The draft after one more entry, if there is no fault. -/
def take? (layout : Layout δ α) (n : Nat) (draft? : Option δ) (entry : String × Document) :
    Option δ :=
  draft?.bind fun draft =>
    if entry.1 ∈ layout.names then
      if layout.has entry.1 draft then none else (layout.field entry.1 draft n entry.2).toOption
    else some draft

theorem take?_unknown {entry : String × Document} (unknown : entry.1 ∉ layout.names)
    (draft? : Option δ) : layout.take? n draft? entry = draft? := by
  cases draft? <;> simp [take?, unknown]

theorem foldl_none (layout : Layout δ α) (n : Nat) (entries : List (String × Document)) :
    entries.foldl (layout.take? n) none = none := by
  induction entries with
  | nil => rfl
  | cons entry entries ih => exact ih

theorem readFields_toOption (layout : Layout δ α) (n : Nat) (draft : δ)
    (entries : List (String × Document)) :
    (readFields layout n draft (entries.map fun entry => (some entry.1, entry.2))).toOption =
      entries.foldl (layout.take? n) (some draft) := by
  induction entries generalizing draft with
  | nil => rfl
  | cons entry entries ih =>
    obtain ⟨key, v⟩ := entry
    rw [List.map_cons, List.foldl_cons, readFields]
    by_cases known : key ∈ layout.names
    · by_cases repeated : layout.has key draft = true
      · simp [take?, known, repeated, foldl_none, Except.toOption]
      · cases read : layout.field key draft n v with
        | error fault => simp [take?, known, repeated, read, foldl_none, Except.toOption]
        | ok draft' =>
        simp only [known, repeated, read, ↓reduceIte, Bool.false_eq_true, take?, Option.bind_some]
        exact ih draft'
    · simp [take?, known, ih]

section Made

variable {slots : List (RecordField δ)} {s t : RecordField δ}

theorem Made.slot_of_known (made : layout.Made slots) {key : String} (known : key ∈ layout.names) :
    ∃ slot ∈ slots, slot.name = key := by
  rw [made.names] at known
  exact List.mem_map.mp known

theorem Made.known (made : layout.Made slots) (member : s ∈ slots) : s.name ∈ layout.names := by
  rw [made.names]
  exact List.mem_map_of_mem member

theorem Made.field_eq (made : layout.Made slots) (member : s ∈ slots) (draft : δ) :
    layout.field s.name draft = fun n v => (s.read n v).map (s.put draft) := by
  funext n v
  exact made.field s member draft n v

theorem Made.field_stable (made : layout.Made slots) {key : String} (known : key ∈ layout.names)
    (draft : δ) : Stable (layout.field key draft) := by
  obtain ⟨s, member, rfl⟩ := made.slot_of_known known
  rw [made.field_eq member]
  exact (made.stable s member).map (s.put draft)

/-- What taking a field does to a draft. -/
theorem Made.take?_slot (made : layout.Made slots) (member : s ∈ slots) (draft : δ) (v : Document) :
    layout.take? n (some draft) (s.name, v) =
      if s.has draft then none else (s.read n v).toOption.map (s.put draft) := by
  rw [take?, Option.bind_some, if_pos (made.known member), made.has s member, made.field s member]
  cases s.read n v <;> rfl

/-- A field that is there already is not taken again. -/
theorem Made.take?_twice (made : layout.Made slots) {key : String} (known : key ∈ layout.names)
    (v w : Document) (draft? : Option δ) :
    layout.take? n (layout.take? n draft? (key, v)) (key, w) = none := by
  obtain ⟨s, member, rfl⟩ := made.slot_of_known known
  cases draft? with
  | none => rfl
  | some draft =>
    rw [made.take?_slot member]
    split
    · rfl
    · cases s.read n v with
      | error fault => rfl
      | ok a =>
        have there := made.fills s member draft a
        simp [Except.toOption, made.take?_slot member, there]

theorem Made.apart_of_ne (made : layout.Made slots) (memberS : s ∈ slots) (memberT : t ∈ slots)
    (different : s.name ≠ t.name) : RecordField.Apart s t :=
  made.apart.forall memberS memberT fun same => different (congrArg RecordField.name same)

theorem Made.take?_both (made : layout.Made slots) (memberS : s ∈ slots) (memberT : t ∈ slots)
    (different : s.name ≠ t.name) (v w : Document) (draft : δ) :
    layout.take? n (layout.take? n (some draft) (s.name, v)) (t.name, w) =
      if s.has draft || t.has draft then none
      else (s.read n v).toOption.bind fun a => (t.read n w).toOption.map (t.put (s.put draft a)) := by
  have kept := (made.apart_of_ne memberS memberT different).left draft
  rw [made.take?_slot memberS]
  by_cases repeated : s.has draft = true
  · simp [repeated, take?]
  · cases s.read n v with
    | error fault => simp [repeated, Except.toOption, take?]
    | ok a => simp [repeated, Except.toOption, made.take?_slot memberT, kept]

/-- The order of two entries does not matter. -/
theorem Made.take?_comm (made : layout.Made slots) (draft? : Option δ) (x y : String × Document) :
    layout.take? n (layout.take? n draft? x) y = layout.take? n (layout.take? n draft? y) x := by
  obtain ⟨a, v⟩ := x
  obtain ⟨b, w⟩ := y
  by_cases knownA : a ∈ layout.names
  · by_cases knownB : b ∈ layout.names
    · by_cases same : a = b
      · subst same
        rw [made.take?_twice knownA, made.take?_twice knownA]
      · obtain ⟨s, memberS, rfl⟩ := made.slot_of_known knownA
        obtain ⟨t, memberT, rfl⟩ := made.slot_of_known knownB
        have commute := (made.apart_of_ne memberS memberT same).commute
        cases draft? with
        | none => rfl
        | some draft =>
          rw [made.take?_both memberS memberT same, made.take?_both memberT memberS (Ne.symm same),
            Bool.or_comm]
          cases s.read n v <;> cases t.read n w <;> simp [Except.toOption, commute]
    · have skipped (draft? : Option δ) : layout.take? n draft? (b, w) = draft? :=
        take?_unknown knownB draft?
      rw [skipped, skipped]
  · have skipped (draft? : Option δ) : layout.take? n draft? (a, v) = draft? :=
      take?_unknown knownA draft?
    rw [skipped, skipped]

theorem Made.foldl_take? (made : layout.Made slots) (draft? : Option δ) (entry : String × Document)
    (entries : List (String × Document)) :
    entries.foldl (layout.take? n) (layout.take? n draft? entry) =
      layout.take? n (entries.foldl (layout.take? n) draft?) entry := by
  induction entries generalizing draft? with
  | nil => rfl
  | cons first entries ih =>
    rw [List.foldl_cons, List.foldl_cons, made.take?_comm, ih]

/-- Entries of a value as they stand in its document. -/
def written (entries : List (String × Json)) : List (String × Document) :=
  entries.map fun entry => (entry.1, entry.2.document)

/-- An entry that is put in its place is taken as one at the end; where it would replace a field, both
together are a fault. -/
theorem Made.foldl_insertSorted (made : layout.Made slots) {key : String} {v : Json}
    {entries : List (String × Json)} {draft? : Option δ} {draft : δ}
    (success : layout.take? n ((written entries).foldl (layout.take? n) draft?) (key, v.document) =
      some draft) :
    (written (insertSorted key v entries)).foldl (layout.take? n) draft? = some draft := by
  induction entries generalizing draft? with
  | nil => exact success
  | cons first entries ih =>
    obtain ⟨k, w⟩ := first
    rw [insertSorted]
    split
    case isTrue less =>
      rw [← made.foldl_take?] at success
      exact success
    case isFalse notLess =>
      split
      case isTrue same =>
        subst same
        rw [written, List.map_cons, List.foldl_cons, ← made.foldl_take?] at success
        by_cases known : key ∈ layout.names
        · rw [made.take?_twice known, foldl_none] at success
          cases success
        · have skipped (w : Document) (draft? : Option δ) :
              layout.take? n draft? (key, w) = draft? := take?_unknown known draft?
          rw [skipped, skipped] at success
          rw [written, List.map_cons, List.foldl_cons, skipped]
          exact success
      case isFalse different => exact ih success

/-- The entries under ascending keys are taken as they were before. -/
theorem Made.foldl_sortEntries (made : layout.Made slots) {entries : List (String × Json)}
    {start draft : δ}
    (success : (written entries).foldl (layout.take? n) (some start) = some draft) :
    (written (sortEntries entries)).foldl (layout.take? n) (some start) = some draft := by
  induction entries using List.reverseRecOn generalizing draft with
  | nil => exact success
  | append_singleton entries last ih =>
    rw [sortEntries_append_singleton]
    apply made.foldl_insertSorted
    rw [written, List.map_append, List.foldl_append] at success
    cases before : (written entries).foldl (layout.take? n) (some start) with
    | none =>
      rw [written] at before
      rw [before] at success
      cases success
    | some d =>
      rw [ih before]
      rw [written] at before
      rwa [before] at success

/-- The entries of an object that was carried over, still in their order, give the same draft. -/
theorem Made.foldl_carried (made : layout.Made slots) {es : List (Option String × Document)}
    {entries : List (String × Json)} {draft after : δ}
    (success : readFields layout n draft es = .ok after) (read : readEntries n es = .ok entries) :
    (written (sortedEntries entries)).foldl (layout.take? n) (some draft) = some after := by
  induction es generalizing draft entries with
  | nil =>
    cases read
    cases success
    rfl
  | cons entry es ih =>
    obtain ⟨key?, d⟩ := entry
    obtain ⟨key, v, rest, rfl, first, others, rfl⟩ := readEntries_cons read
    rw [sortedEntries, written, List.map_cons, List.foldl_cons]
    rw [readFields] at success
    split at success
    case isTrue known =>
      split at success
      · cases success
      case isFalse fresh =>
        split at success
        · cases success
        case h_2 next taken =>
          have again := made.field_stable known draft n d next v taken first
          rw [carried] at again
          have step : layout.take? n (some draft) (key, v.sorted.document) = some next := by
            simp [take?, known, fresh, again, Except.toOption]
          rw [step]
          exact ih success others
    case isFalse unknown =>
      rw [take?_unknown unknown]
      exact ih success others

/-- Every field among entries that were taken could be read. -/
theorem Made.read_of_mem (made : layout.Made slots) {entries : List (String × Document)}
    {draft? : Option δ} {after : δ} (success : entries.foldl (layout.take? n) draft? = some after)
    (known : s ∈ slots) {v : Document} (member : (s.name, v) ∈ entries) :
    ∃ a, s.read n v = .ok a := by
  induction entries generalizing draft? with
  | nil => cases member
  | cons entry entries ih =>
    rw [List.foldl_cons] at success
    rcases List.mem_cons.mp member with rfl | behind
    · cases draft? with
      | none =>
        rw [take?, Option.bind_none, foldl_none] at success
        cases success
      | some draft =>
        cases read : s.read n v with
        | error fault =>
          have refused : layout.take? n (some draft) (s.name, v) = none := by
            simp [made.take?_slot known, read, Except.toOption]
          rw [refused, foldl_none] at success
          cases success
        | ok a => exact ⟨a, rfl⟩
    · exact ih success behind

theorem Made.readPlaces_carried (made : layout.Made slots) {names : List String}
    (known : ∀ name ∈ names, name ∈ layout.names) {ds : List Document} {items : List Json}
    {draft after : δ} (success : readPlaces layout n names draft ds = .ok after)
    (read : readItems n ds = .ok items) :
    readPlaces layout n names draft (items.map carried) = .ok after := by
  induction ds generalizing names draft items with
  | nil =>
    cases read
    cases names <;> exact success
  | cons d ds ih =>
    obtain ⟨v, rest, first, others, rfl⟩ := readItems_cons read
    cases names with
    | nil => cases success
    | cons name names =>
      obtain ⟨here, behind⟩ := List.forall_mem_cons.mp known
      rw [readPlaces] at success
      split at success
      · cases success
      case h_2 next taken =>
        rw [List.map_cons, readPlaces, made.field_stable here draft n d next v taken first]
        exact ih behind success others

end Made

end Layout

theorem carried_object (entries : List (String × Json)) :
    carried (.object entries) =
      .object ((Layout.written (sortEntries (sortedEntries entries))).map fun entry =>
        (some entry.1, entry.2)) true := by
  rw [carried, sorted, document, documentEntries_eq_map, Layout.written, List.map_map]
  rfl

/-- A record is found again where its text was carried over. -/
theorem Layout.Made.record {layout : Layout δ α} {slots : List (RecordField δ)} (made : layout.Made slots) :
    Stable (readRecord layout) := by
  intro n d a v success written
  match n, d with
  | n + 1, .object es closed =>
    obtain ⟨rfl, entries, read, rfl⟩ := readAsWritten_object written
    rw [carried_object, readRecord]
    rw [readRecord] at success
    split at success
    case h_1 => cases success
    case h_2 draft fields =>
      have again := made.foldl_sortEntries (made.foldl_carried fields read)
      rw [← Layout.readFields_toOption, toOption_eq_some] at again
      rw [again]
      exact success
  | n + 1, .array ds closed =>
    obtain ⟨rfl, items, read, rfl⟩ := readAsWritten_array written
    rw [carried_array, readRecord]
    rw [readRecord] at success
    split at success
    case h_1 => cases success
    case h_2 draft places =>
      rw [made.readPlaces_carried (fun _ member => member) places read]
      exact success
  | 0, _ | n + 1, .string _ | n + 1, .null | n + 1, .bool _ | n + 1, .number _ | n + 1, .broken =>
    simp [readRecord] at success

/-- Every field of a record that is found where its text was carried over could be read there. -/
theorem Layout.Made.read_of_carried {layout : Layout δ α} {slots : List (RecordField δ)}
    (made : layout.Made slots) {n : Nat} {entries : List (String × Json)} {a : α}
    (distinct : (entries.map Prod.fst).Nodup)
    (success : readRecord layout n (carried (.object entries)) = .ok a) :
    ∃ m, n = m + 1 ∧ ∀ s ∈ slots, ∀ v, (s.name, v) ∈ entries →
      ∃ b, s.read m (carried v) = .ok b := by
  rw [carried_object] at success
  cases n with
  | zero => simp [readRecord] at success
  | succ m =>
    refine ⟨m, rfl, ?_⟩
    intro s known v member
    rw [readRecord] at success
    split at success
    case h_1 => cases success
    case h_2 draft fields =>
      rw [← toOption_eq_some, Layout.readFields_toOption] at fields
      apply made.read_of_mem fields known
      have keys : ((sortedEntries entries).map Prod.fst).Nodup := keys_sortedEntries entries ▸ distinct
      have there : (s.name, v.sorted) ∈ sortedEntries entries := by
        rw [sortedEntries_eq_map]
        exact List.mem_map_of_mem member
      exact List.mem_map_of_mem (mem_sortEntries keys there)

end TokenDesk.Json
