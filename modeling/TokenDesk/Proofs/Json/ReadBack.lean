import TokenDesk.Proofs.Json.Order

/-!
# Printed values read back

A value that is printed in the form of files and read without a type is the value with ascending keys,
if its whole numbers fit 64 bits and its nesting is within the limit; beyond the limit it is refused
(`readAsWritten_document`). Doubles may come back rounded: what comes back is `reread`, which changes
nothing else.
-/

set_option autoImplicit false

namespace TokenDesk.Json

open TokenDesk.Text

/-! ## Numbers -/

/-- A whole number of 64 bits, with or without sign. -/
def Fits (n : Int) : Prop :=
  -((UInt64.size / 2 : Nat) : Int) ≤ n ∧ n < (UInt64.size : Int)

instance (n : Int) : Decidable (Fits n) :=
  inferInstanceAs (Decidable (_ ∧ _))

theorem value?_ofInt {n : Int} (fits : Fits n) : (Numeral.ofInt n).value? = some (.whole n) := by
  obtain ⟨low, high⟩ := fits
  cases n with
  | ofNat n =>
    have small : n < UInt64.size := Int.ofNat_lt.mp high
    simp [Numeral.ofInt, Numeral.value?, Numeral.isPlain, small]
  | negSucc n =>
    have small : n + 1 ≤ UInt64.size / 2 := by omega
    simp [Numeral.ofInt, Numeral.value?, Numeral.isPlain, small]
    omega

/-- A double is never written as a whole number. -/
theorem Double.numeral_isPlain (d : Double) : d.numeral.isPlain = false := by
  have layout (s : Shortest) : (numeralOf d.negative s).isPlain = false := by
    unfold numeralOf
    split
    · dsimp only
      split <;> simp [Numeral.isPlain]
    · split <;> simp [Numeral.isPlain]
  unfold numeral
  split
  · rfl
  · exact layout _

/-- A number reads as a number. -/
theorem depth_of_value? {n : Numeral} {v : Json} (read : n.value? = some v) : v.depth = 0 := by
  unfold Numeral.value? at read
  dsimp only at read
  split at read
  · cases read
    rfl
  · split at read
    · cases read
      rfl
    · obtain ⟨d, -, rfl⟩ := Option.map_eq_some_iff.mp read
      rfl

theorem value?_numeral (d : Double) : d.numeral.value? = d.numeral.double?.map .double := by
  simp [Numeral.value?, d.numeral_isPlain]

/-! ## Values -/

mutual

/-- What is read where a value is written: doubles may be rounded. -/
def reread : Json → Json
  | .double d =>
    match d.numeral.double? with
    | some e => .double e
    | none => .null
  | .array items => .array (rereadItems items)
  | .object entries => .object (rereadEntries entries)
  | value => value

def rereadItems : List Json → List Json
  | [] => []
  | item :: items => reread item :: rereadItems items

def rereadEntries : List (String × Json) → List (String × Json)
  | [] => []
  | (key, value) :: entries => (key, reread value) :: rereadEntries entries

end

/-- A value whose whole numbers fit and whose doubles can be read where they are written. -/
abbrev Readable : Json → Prop :=
  Numbers Fits fun d => d.numeral.WellFormed ∧ d.numeral.double?.isSome

abbrev ReadableItems : List Json → Prop :=
  NumbersItems Fits fun d => d.numeral.WellFormed ∧ d.numeral.double?.isSome

abbrev ReadableEntries : List (String × Json) → Prop :=
  NumbersEntries Fits fun d => d.numeral.WellFormed ∧ d.numeral.double?.isSome

/-- A value whose numbers are whole and fit 64 bits. -/
abbrev Plain : Json → Prop :=
  Numbers Fits fun _ => False

abbrev PlainItems : List Json → Prop :=
  NumbersItems Fits fun _ => False

abbrev PlainEntries : List (String × Json) → Prop :=
  NumbersEntries Fits fun _ => False

theorem Plain.readable {v : Json} (plain : v.Plain) : v.Readable :=
  plain.mono (fun _ fits => fits) fun _ absurd => absurd.elim

theorem Readable.legible {v : Json} (readable : v.Readable) : v.Legible :=
  readable.mono (fun _ _ => trivial) fun _ formed => formed.1

mutual

theorem reread_of_plain {v : Json} (plain : v.Plain) : v.reread = v := by
  match v with
  | .null | .bool _ | .whole _ | .string _ => rfl
  | .double d => exact plain.elim
  | .array items => rw [reread, rereadItems_of_plain plain]
  | .object entries => rw [reread, rereadEntries_of_plain plain]

theorem rereadItems_of_plain {items : List Json} (plain : PlainItems items) :
    rereadItems items = items := by
  match items with
  | [] => rfl
  | item :: items => rw [rereadItems, reread_of_plain plain.1, rereadItems_of_plain plain.2]

theorem rereadEntries_of_plain {entries : List (String × Json)} (plain : PlainEntries entries) :
    rereadEntries entries = entries := by
  match entries with
  | [] => rfl
  | (key, value) :: entries =>
    rw [rereadEntries, reread_of_plain plain.1, rereadEntries_of_plain plain.2]

end

theorem rereadItems_eq_map (items : List Json) : rereadItems items = items.map reread := by
  induction items with
  | nil => rfl
  | cons item items ih => rw [rereadItems, ih, List.map_cons]

mutual

/-- Reading the document of a value gives it back within the nesting that is allowed. -/
theorem readAsWritten_document {v : Json} (readable : v.Readable) (n : Nat) :
    readAsWritten n v.document = if v.depth ≤ n then .ok v.reread else .error .invalid := by
  match v with
  | .null | .bool _ | .string _ => simp [document, readAsWritten, depth, reread]
  | .whole i =>
    have fits : Fits i := readable
    simp [document, readAsWritten, depth, reread, value?_ofInt fits]
  | .double d =>
    obtain ⟨e, read⟩ := Option.isSome_iff_exists.mp readable.2
    simp [document, readAsWritten, depth, reread, value?_numeral, read]
  | .array items =>
    cases n with
    | zero => simp [document, readAsWritten, depth]
    | succ n =>
      have inner : readItems n (documentItems items) = _ := readItems_document readable n
      simp only [document, readAsWritten, depth, inner, reread, Nat.add_le_add_iff_right]
      by_cases deep : depthItems items ≤ n <;> simp [deep]
  | .object entries =>
    cases n with
    | zero => simp [document, readAsWritten, depth]
    | succ n =>
      have inner : readEntries n (documentEntries entries) = _ := readEntries_document readable n
      simp only [document, readAsWritten, depth, inner, reread, Nat.add_le_add_iff_right]
      by_cases deep : depthEntries entries ≤ n <;> simp [deep]

theorem readItems_document {items : List Json} (readable : ReadableItems items) (n : Nat) :
    readItems n (documentItems items) =
      if depthItems items ≤ n then .ok (rereadItems items) else .error .invalid := by
  match items with
  | [] => simp [documentItems, readItems, depthItems, rereadItems]
  | item :: items =>
    have head := readAsWritten_document (v := item) readable.1 n
    have tail : readItems n (documentItems items) = _ := readItems_document readable.2 n
    by_cases deep : item.depth ≤ n <;> by_cases others : depthItems items ≤ n <;>
      simp [documentItems, readItems, depthItems, rereadItems, head, tail, deep, others]

theorem readEntries_document {entries : List (String × Json)} (readable : ReadableEntries entries)
    (n : Nat) : readEntries n (documentEntries entries) =
      if depthEntries entries ≤ n then .ok (rereadEntries entries) else .error .invalid := by
  match entries with
  | [] => simp [documentEntries, readEntries, depthEntries, rereadEntries]
  | (key, value) :: entries =>
    have head := readAsWritten_document (v := value) readable.1 n
    have tail : readEntries n (documentEntries entries) = _ := readEntries_document readable.2 n
    by_cases deep : value.depth ≤ n <;> by_cases others : depthEntries entries ≤ n <;>
      simp [documentEntries, readEntries, depthEntries, rereadEntries, head, tail, deep, others]

end

/-- Reading without a type inverts the document of a plain value with ascending keys. -/
theorem read_document {v : Json} (plain : v.Plain) {n : Nat} (shallow : v.depth ≤ n) :
    read n v.document = .ok v.sorted := by
  rw [read, readAsWritten_document plain.readable, if_pos shallow, reread_of_plain plain]
  rfl

/-- What holds of the values without parts that can be read, and of those whose parts it holds of; the
number is the nesting that is allowed. -/
structure Inherited (good : Nat → Json → Prop) : Prop where
  null : ∀ n, good n .null
  bool : ∀ n b, good n (.bool b)
  string : ∀ n s, good n (.string s)
  number : ∀ (n : Nat) (m : Numeral) (v : Json), m.value? = some v → good n v
  array : ∀ n items, (∀ item ∈ items, good n item) → good (n + 1) (.array items)
  object : ∀ (n : Nat) (entries : List (String × Json)), (∀ entry ∈ entries, good n entry.2) →
    good (n + 1) (.object entries)

mutual

theorem Inherited.of_readAsWritten {good : Nat → Json → Prop} (inherited : Inherited good) {n : Nat}
    {d : Document} {v : Json} (success : readAsWritten n d = .ok v) : good n v := by
  match n, d with
  | _, .null =>
    cases success
    exact inherited.null _
  | _, .bool _ =>
    cases success
    exact inherited.bool _ _
  | _, .string (some _) =>
    cases success
    exact inherited.string _ _
  | _, .string none | _, .broken | 0, .array _ _ | 0, .object _ _ => cases success
  | _, .number m =>
    rw [readAsWritten] at success
    split at success
    case h_1 read =>
      cases success
      exact inherited.number _ m _ read
    case h_2 => cases success
  | n + 1, .array ds closed =>
    rw [readAsWritten] at success
    split at success
    case h_1 => cases success
    case h_2 items read =>
      have inner := inherited.of_readItems read
      split at success <;> cases success
      exact inherited.array n items inner
  | n + 1, .object es closed =>
    rw [readAsWritten] at success
    split at success
    case h_1 => cases success
    case h_2 entries read =>
      have inner := inherited.of_readEntries read
      split at success <;> cases success
      exact inherited.object n entries inner

theorem Inherited.of_readItems {good : Nat → Json → Prop} (inherited : Inherited good) {n : Nat}
    {ds : List Document} {items : List Json} (success : readItems n ds = .ok items) :
    ∀ item ∈ items, good n item := by
  match ds with
  | [] =>
    cases success
    simp
  | d :: ds =>
    rw [readItems] at success
    split at success
    case h_1 => cases success
    case h_2 item read =>
      have head := inherited.of_readAsWritten read
      split at success
      case h_1 => cases success
      case h_2 others rest =>
        cases success
        exact List.forall_mem_cons.mpr ⟨head, inherited.of_readItems rest⟩

theorem Inherited.of_readEntries {good : Nat → Json → Prop} (inherited : Inherited good) {n : Nat}
    {es : List (Option String × Document)} {entries : List (String × Json)}
    (success : readEntries n es = .ok entries) : ∀ entry ∈ entries, good n entry.2 := by
  match es with
  | [] =>
    cases success
    simp
  | (none, _) :: _ => cases success
  | (some key, d) :: es =>
    rw [readEntries] at success
    split at success
    case h_1 => cases success
    case h_2 value read =>
      have head := inherited.of_readAsWritten read
      split at success
      case h_1 => cases success
      case h_2 others rest =>
        cases success
        exact List.forall_mem_cons.mpr ⟨head, inherited.of_readEntries rest⟩

end

theorem depth_inherited : Inherited fun n v => v.depth ≤ n where
  null n := Nat.zero_le n
  bool n _ := Nat.zero_le n
  string n _ := Nat.zero_le n
  number n m v read := by
    rw [depth_of_value? read]
    exact Nat.zero_le n
  array n items each := Nat.succ_le_succ (depthItems_le.mpr each)
  object n entries each := Nat.succ_le_succ (depthEntries_le.mpr each)

/-- What is read nests no deeper than is allowed. -/
theorem depth_of_readAsWritten {n : Nat} {d : Document} {v : Json}
    (success : readAsWritten n d = .ok v) : v.depth ≤ n :=
  depth_inherited.of_readAsWritten success

/-- What is read has ascending keys and nests no deeper than is allowed. -/
theorem sorted_of_read {n : Nat} {d : Document} {v : Json} (success : read n d = .ok v) :
    v.sorted = v ∧ v.depth ≤ n := by
  rw [read] at success
  cases written : readAsWritten n d with
  | error fault =>
    rw [written] at success
    cases success
  | ok w =>
    rw [written] at success
    cases success
    exact ⟨sorted_sorted w, (depth_sorted_le w).trans (depth_of_readAsWritten written)⟩

/-! ## Texts -/

/-- A printed text is read as its document. -/
theorem readText_pretty {α : Type} (reader : Reader α) {v : Json} (legible : v.Legible) :
    readText reader (pretty v) = reader maxDepth v.document := by
  rw [readText, ofChars_pretty legible]
  dsimp only
  split <;> simp_all

theorem documentItems_eq_map (items : List Json) : documentItems items = items.map document := by
  induction items with
  | nil => rfl
  | cons item items ih => rw [documentItems, ih, List.map_cons]

/-- Reading each item without a type is reading all of them without a type. -/
theorem readEach_read (n : Nat) (items : List Document) :
    readEach (read n) items = (readItems n items).map sortedItems := by
  induction items with
  | nil => rfl
  | cons item items ih =>
    rw [readEach, readItems, ih, read]
    cases readAsWritten n item with
    | error fault => rfl
    | ok v =>
      cases readItems n items with
      | error fault => rfl
      | ok vs => rfl

/-- A number is read as a number, which sorting leaves alone. -/
theorem value?_ne_array {n : Numeral} {v : Json} (read : n.value? = some v) (items : List Json) :
    v.sorted ≠ .array items := by
  unfold Numeral.value? at read
  dsimp only at read
  split at read
  · cases read
    simp [sorted]
  · split at read
    · cases read
      simp [sorted]
    · obtain ⟨d, -, rfl⟩ := Option.map_eq_some_iff.mp read
      simp [sorted]

/-- A document is a list of values of any shape exactly if it is a value and that is an array. -/
theorem readList_read_eq_ok_iff {n : Nat} {d : Document} {items : List Json} :
    readList read n d = .ok items ↔ read n d = .ok (.array items) := by
  match n, d with
  | _, .null => simp [readList, read, readAsWritten, Except.map, sorted]
  | _, .bool b => simp [readList, read, readAsWritten, Except.map, sorted]
  | _, .string none => simp [readList, read, readAsWritten, Except.map]
  | _, .string (some s) => simp [readList, read, readAsWritten, Except.map, sorted]
  | _, .broken => simp [readList, read, readAsWritten, Except.map]
  | _, .number m =>
    rw [readList, read, readAsWritten]
    · cases number : m.value? with
      | none => simp [Except.map]
      | some v => simp [Except.map, value?_ne_array number items]
    · simp
  | 0, .array ds closed => simp [readList, read, readAsWritten, Except.map]
  | n + 1, .array ds closed =>
    rw [readList, readEach_read, read, readAsWritten]
    cases readItems n ds with
    | error fault => simp [Except.map]
    | ok vs => cases closed <;> simp [Except.map, sorted]
  | 0, .object es closed => simp [readList, read, readAsWritten, Except.map]
  | n + 1, .object es closed =>
    rw [readList, read, readAsWritten]
    · cases readEntries n es with
      | error fault => simp [Except.map]
      | ok vs => cases closed <;> simp [Except.map, sorted]
    · simp

end TokenDesk.Json
