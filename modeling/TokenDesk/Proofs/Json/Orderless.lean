import Mathlib.Data.List.Nodup
import TokenDesk.Proofs.Json.Lookup
import TokenDesk.Proofs.Json.Typed

/-!
# Objects whatever the order of their keys

The sorted form of an object is settled by what its keys have (`sorted_object_eq`). Where no key is
repeated, a record that is found under ascending keys is found in whatever order they were written: each
way to build a reader keeps that (`Orderless`), and so does a record type whose fields do not depend on
each other (`Layout.Made.orderless`).
-/

set_option autoImplicit false

namespace TokenDesk.Json

/-! ## One sorted form -/

section Lookup

variable {key : String} {value : Json} {entries others : List (String × Json)}

theorem mem_of_lookup (found : lookup key entries = some value) : (key, value) ∈ entries := by
  induction entries with
  | nil => cases found
  | cons entry entries ih =>
    obtain ⟨k, v⟩ := entry
    rw [lookup_cons] at found
    rcases Option.or_eq_some_iff.mp found with later | ⟨-, here⟩
    · exact List.mem_cons_of_mem _ (ih later)
    · split at here
      case isTrue same =>
        cases here
        subst same
        exact List.mem_cons_self
      case isFalse => cases here

theorem exists_lookup (there : key ∈ entries.map Prod.fst) : ∃ v, lookup key entries = some v := by
  induction entries with
  | nil => cases there
  | cons entry entries ih =>
    obtain ⟨k, v⟩ := entry
    rw [lookup_cons]
    rcases List.mem_cons.mp there with rfl | later
    · cases lookup key entries <;> simp
    · obtain ⟨w, found⟩ := ih later
      exact ⟨w, by rw [found, Option.some_or]⟩

theorem Ascending.nodup_keys (ascending : Ascending entries) : (entries.map Prod.fst).Nodup :=
  List.pairwise_map.mpr (ascending.imp ne_of_lt)

theorem lookup_eq_some_iff (distinct : (entries.map Prod.fst).Nodup) :
    lookup key entries = some value ↔ (key, value) ∈ entries := by
  refine ⟨mem_of_lookup, fun member => ?_⟩
  obtain ⟨v, found⟩ := exists_lookup (List.mem_map_of_mem member)
  have same := List.inj_on_of_nodup_map distinct (mem_of_lookup found) member rfl
  rw [found, (Prod.mk.inj same).2]

/-- Entries under ascending keys are settled by what each key has. -/
theorem Ascending.ext (first : Ascending entries) (second : Ascending others)
    (same : ∀ key, lookup key entries = lookup key others) : entries = others := by
  have member (entry : String × Json) : entry ∈ entries ↔ entry ∈ others := by
    rw [← lookup_eq_some_iff first.nodup_keys, same, lookup_eq_some_iff second.nodup_keys]
  have perm := (List.perm_ext_iff_of_nodup first.nodup_keys.of_map second.nodup_keys.of_map).mpr
    member
  exact perm.eq_of_pairwise (fun a b _ _ less more => absurd more (lt_asymm less)) first second

/-- The sorted form of an object is settled by what each key has. -/
theorem sorted_object_eq
    (same : ∀ key, (lookup key entries).map sorted = (lookup key others).map sorted) :
    (Json.object entries).sorted = (Json.object others).sorted := by
  rw [sorted, sorted]
  congr 1
  apply Ascending.ext (sortEntries_ascending _) (sortEntries_ascending _)
  intro key
  rw [lookup_sortEntries, lookup_sortEntries, lookup_sortedEntries, lookup_sortedEntries, same]

/-- Sorting only moves the entries where no key is repeated. -/
theorem sortEntries_perm (distinct : (entries.map Prod.fst).Nodup) :
    (sortEntries entries).Perm entries :=
  (List.perm_ext_iff_of_nodup (sortEntries_ascending entries).nodup_keys.of_map distinct.of_map).mpr
    fun _ => ⟨mem_of_mem_sortEntries, mem_sortEntries distinct⟩

end Lookup

section Present

variable {key : String} {v? : Option Json} {fields : List (String × Option Json)}

/-- The entries of the fields that are there. -/
def present (fields : List (String × Option Json)) : List (String × Json) :=
  fields.flatMap fun field => optional field.1 field.2

theorem mem_present {entry : String × Json} :
    entry ∈ present fields ↔ (entry.1, some entry.2) ∈ fields := by
  obtain ⟨key, v⟩ := entry
  simp only [present, List.mem_flatMap]
  constructor
  · rintro ⟨⟨k, w?⟩, member, there⟩
    cases w? with
    | none => cases there
    | some w =>
      cases List.mem_singleton.mp there
      exact member
  · intro member
    exact ⟨(key, some v), member, List.mem_singleton.mpr rfl⟩

/-- What a key has among fields of different names. -/
theorem lookup_present (apart : (fields.map Prod.fst).Nodup) (member : (key, v?) ∈ fields) :
    lookup key (present fields) = v? := by
  have only {w : Json} (there : (key, w) ∈ present fields) : v? = some w :=
    (Prod.mk.inj (List.inj_on_of_nodup_map apart member (mem_present.mp there) rfl)).2
  cases found : lookup key (present fields) with
  | some w => exact (only (mem_of_lookup found)).symm
  | none =>
    cases v? with
    | none => rfl
    | some v =>
      have there : (key, v) ∈ present fields := mem_present.mpr member
      obtain ⟨w, other⟩ := exists_lookup (List.mem_map_of_mem there)
      rw [found] at other
      cases other

/-- An object is, up to the order of keys, made of fields that have what its keys have, if there are no
other keys. -/
theorem sorted_object_present {entries : List (String × Json)} (apart : (fields.map Prod.fst).Nodup)
    (known : ∀ entry ∈ entries, entry.1 ∈ fields.map Prod.fst)
    (same : ∀ field ∈ fields, (lookup field.1 entries).map sorted = field.2.map sorted) :
    (Json.object (present fields)).sorted = (Json.object entries).sorted := by
  apply sorted_object_eq
  intro key
  by_cases named : key ∈ fields.map Prod.fst
  · obtain ⟨⟨name, v?⟩, member, rfl⟩ := List.mem_map.mp named
    rw [lookup_present apart member, same _ member]
  · have unnamed : ∀ entry ∈ present fields, entry.1 ≠ key := by
      rintro entry there rfl
      exact named (List.mem_map_of_mem (mem_present.mp there))
    have unknown : ∀ entry ∈ entries, entry.1 ≠ key := by
      rintro entry there rfl
      exact named (known entry there)
    rw [lookup_eq_none unnamed, lookup_eq_none unknown]

end Present

/-! ## Readers -/

variable {α β δ : Type}

/-- What the reader finds in a value under ascending keys it finds in whatever order they were written,
where no key is repeated. -/
def Orderless (reader : Reader α) : Prop :=
  ∀ n (v : Json) a, v.Distinct → reader n (carried v) = .ok a → reader n v.document = .ok a

/-- The order of keys does not matter to a reader that looks into no object and no array. -/
theorem Orderless.flat {reader : Reader α}
    (array : ∀ n items a, reader n (.array items true) ≠ .ok a)
    (object : ∀ n entries a, reader n (.object entries true) ≠ .ok a) : Orderless reader := by
  intro n v a _ success
  match v with
  | .null | .bool _ | .whole _ | .double _ | .string _ => exact success
  | .array items =>
    rw [carried_array] at success
    exact absurd success (array n _ a)
  | .object entries =>
    rw [carried_object] at success
    exact absurd success (object n _ a)

theorem Orderless.string : Orderless readString :=
  .flat nofun nofun

theorem Orderless.bool : Orderless readBool :=
  .flat nofun nofun

theorem Orderless.map {reader : Reader α} (orderless : Orderless reader) (f : α → β) :
    Orderless fun n d => (reader n d).map f := by
  intro n v b distinct success
  obtain ⟨a, read, rfl⟩ := map_eq_ok.mp success
  exact map_eq_ok.mpr ⟨a, orderless n v a distinct read, rfl⟩

theorem Orderless.optional {reader : Reader α} (orderless : Orderless reader) :
    Orderless (readOptional reader) := by
  intro n v a? distinct success
  match v with
  | .null => exact success
  | .bool _ | .whole _ | .double _ | .string _ | .array _ | .object _ =>
    exact orderless.map some n _ a? distinct success

theorem readEach_orderless {reader : Reader α} (orderless : Orderless reader) {n : Nat}
    {items : List Json} (distinct : DistinctItems items) {as : List α}
    (success : readEach (reader n) (items.map carried) = .ok as) :
    readEach (reader n) (documentItems items) = .ok as := by
  induction items generalizing as with
  | nil => exact success
  | cons item items ih =>
    obtain ⟨a, rest, first, others, rfl⟩ := readEach_cons success
    simp [documentItems, readEach, orderless n item a distinct.1 first, ih distinct.2 others]

theorem Orderless.list {reader : Reader α} (orderless : Orderless reader) :
    Orderless (readList reader) := by
  intro n v as distinct success
  match n, v with
  | n + 1, .array items =>
    rw [carried_array, readList] at success
    rw [document, readList]
    split at success
    case h_1 => cases success
    case h_2 bs each =>
      rw [readEach_orderless orderless distinct each]
      exact success
  | 0, _ | n + 1, .null | n + 1, .bool _ | n + 1, .whole _ | n + 1, .double _ | n + 1, .string _
  | n + 1, .object _ => simp [readList, carried, sorted, document] at success

namespace Layout

variable {layout : Layout δ α} {slots : List (RecordField δ)} {n : Nat}

theorem Made.field_orderless (made : layout.Made slots)
    (orderless : ∀ slot ∈ slots, Orderless slot.read) {key : String} (known : key ∈ layout.names)
    (draft : δ) : Orderless (layout.field key draft) := by
  obtain ⟨s, member, rfl⟩ := made.slot_of_known known
  rw [made.field_eq member]
  exact (orderless s member).map (s.put draft)

theorem Made.take?_unsorted (made : layout.Made slots)
    (orderless : ∀ slot ∈ slots, Orderless slot.read) {key : String} {v : Json} (distinct : v.Distinct)
    {draft? : Option δ} {next : δ}
    (taken : layout.take? n draft? (key, v.sorted.document) = some next) :
    layout.take? n draft? (key, v.document) = some next := by
  cases draft? with
  | none => cases taken
  | some draft =>
    rw [take?, Option.bind_some] at taken ⊢
    split at taken
    case isTrue known =>
      split at taken
      · cases taken
      case isFalse fresh =>
        have read := made.field_orderless orderless known draft n v next distinct
          (toOption_eq_some.mp taken)
        simp [known, fresh, read, Except.toOption]
    case isFalse unknown => rw [if_neg unknown, taken]

/-- Entries that are taken with their values in sorted form are taken as they are. -/
theorem Made.foldl_unsorted (made : layout.Made slots)
    (orderless : ∀ slot ∈ slots, Orderless slot.read) {entries : List (String × Json)}
    (distinct : DistinctEntries entries) {draft? : Option δ} {after : δ}
    (success : (written (sortedEntries entries)).foldl (layout.take? n) draft? = some after) :
    (written entries).foldl (layout.take? n) draft? = some after := by
  induction entries generalizing draft? with
  | nil => exact success
  | cons entry entries ih =>
    obtain ⟨key, v⟩ := entry
    rw [sortedEntries, written, List.map_cons, List.foldl_cons] at success
    rw [written, List.map_cons, List.foldl_cons]
    cases taken : layout.take? n draft? (key, v.sorted.document) with
    | none =>
      rw [taken, foldl_none] at success
      cases success
    | some next =>
      rw [taken] at success
      rw [made.take?_unsorted orderless distinct.1 taken]
      exact ih distinct.2 success

theorem Made.readPlaces_unsorted (made : layout.Made slots)
    (orderless : ∀ slot ∈ slots, Orderless slot.read) {names : List String}
    (known : ∀ name ∈ names, name ∈ layout.names) {items : List Json} (distinct : DistinctItems items)
    {draft after : δ} (success : readPlaces layout n names draft (items.map carried) = .ok after) :
    readPlaces layout n names draft (documentItems items) = .ok after := by
  induction items generalizing names draft with
  | nil => exact success
  | cons v items ih =>
    cases names with
    | nil => cases success
    | cons name names =>
      obtain ⟨here, behind⟩ := List.forall_mem_cons.mp known
      rw [List.map_cons, readPlaces] at success
      split at success
      · cases success
      case h_2 next taken =>
        have read := made.field_orderless orderless here draft n v next distinct.1 taken
        rw [documentItems, readPlaces, read]
        exact ih behind distinct.2 success

/-- A record is found in whatever order its keys were written. -/
theorem Made.orderless (made : layout.Made slots)
    (orderless : ∀ slot ∈ slots, Orderless slot.read) : Orderless (readRecord layout) := by
  intro n v a distinct success
  match n, v with
  | n + 1, .object entries =>
    rw [carried_object, readRecord] at success
    split at success
    case h_1 => cases success
    case h_2 draft fields =>
      rw [← toOption_eq_some, readFields_toOption] at fields
      have keys : ((sortedEntries entries).map Prod.fst).Nodup :=
        keys_sortedEntries entries ▸ distinct.1
      -- The sorted entries are the same ones in another order, which does not matter to the draft.
      have moved : (written (sortEntries (sortedEntries entries))).Perm
          (written (sortedEntries entries)) := (sortEntries_perm keys).map _
      rw [moved.foldl_eq' fun x _ y _ draft? => made.take?_comm draft? x y] at fields
      have taken := made.foldl_unsorted orderless distinct.2 fields
      rw [← readFields_toOption, toOption_eq_some, written, List.map_map] at taken
      rw [document, readRecord, documentEntries_eq_map]
      simp only [Function.comp_def] at taken
      rw [taken]
      exact success
  | n + 1, .array items =>
    rw [carried_array, readRecord] at success
    rw [document, readRecord]
    split at success
    case h_1 => cases success
    case h_2 draft places =>
      rw [made.readPlaces_unsorted orderless (fun _ member => member) distinct places]
      exact success
  | 0, _ | n + 1, .null | n + 1, .bool _ | n + 1, .whole _ | n + 1, .double _ | n + 1, .string _ =>
    simp [readRecord, carried, sorted, document] at success

end Layout

end TokenDesk.Json
