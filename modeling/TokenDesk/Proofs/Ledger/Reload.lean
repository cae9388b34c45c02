import Mathlib.Data.List.TakeWhile
import TokenDesk.Proofs.Json.Finite
import TokenDesk.Proofs.Json.Typed
import TokenDesk.Proofs.Ledger.Log

/-!
# Reading a log after an append

What an append leaves can be read again as far as the nesting of the new entry allows: with room for the
array around it the entries are the ones before and the new one (`load_of_append_ok`), without that room
every later append refuses the file (`append_of_deep`).
-/

set_option autoImplicit false

namespace TokenDesk

open TokenDesk.Text
open TokenDesk.Json

namespace Json

variable {α : Type}

/-- The nesting that is left within the array of a text. -/
def itemDepth : Nat := 126

theorem maxDepth_eq : maxDepth = itemDepth + 1 := rfl

/-- What a text holds that is read as a list. -/
theorem readText_readList {reader : Reader α} {s : String} {as : List α}
    (success : readText (readList reader) s = .ok as) :
    ∃ ds, (Document.ofChars s.toList).1 = .array ds true ∧ readEach (reader itemDepth) ds = .ok as := by
  unfold readText at success
  dsimp only at success
  generalize (Document.ofChars s.toList).1 = d at success ⊢
  cases d with
  | array ds closed =>
    rw [maxDepth_eq, readList] at success
    cases each : readEach (reader itemDepth) ds with
    | error fault => simp [each] at success
    | ok bs =>
      cases closed with
      | false => simp [each] at success
      | true =>
        simp only [each, if_true] at success
        split at success <;> cases success
        exact ⟨ds, rfl, each⟩
  | null | bool | number | string | object | broken => simp [readList] at success

theorem readEach_append {reader : Document → Except Fault α} {ds es : List Document} {as bs : List α}
    (first : readEach reader ds = .ok as) (second : readEach reader es = .ok bs) :
    readEach reader (ds ++ es) = .ok (as ++ bs) := by
  induction ds generalizing as with
  | nil =>
    cases first
    exact second
  | cons d ds ih =>
    obtain ⟨a, rest, head, behind, rfl⟩ := readEach_cons first
    simp [readEach, head, ih behind]

/-- Every element of a list that is read could be read. -/
theorem read_of_mem_readEach {reader : Document → Except Fault α} {d : Document}
    {ds : List Document} {as : List α} (success : readEach reader ds = .ok as) (member : d ∈ ds) :
    ∃ a, reader d = .ok a := by
  induction ds generalizing as with
  | nil => cases member
  | cons first ds ih =>
    obtain ⟨a, rest, head, behind, -⟩ := readEach_cons success
    rcases List.mem_cons.mp member with rfl | later
    · exact ⟨a, head⟩
    · exact ih behind later

end Json

namespace AppendLog

variable {α β : Type} {log : AppendLog α} {disk : Files.Disk} {f g : Files} {before items : List Json}
  {earlier : List α}

theorem parse_cases {reader : Reader β} {entries : List β}
    (success : log.parse reader f = .ok entries) :
    log.exists? f = false ∧ entries = [] ∨
      log.exists? f = true ∧
        ∃ s, f.readText log.path = .ok s ∧ readText (readList reader) s = .ok entries := by
  unfold parse at success
  split at success
  case isTrue absent =>
    cases success
    exact .inl ⟨by simpa using absent, rfl⟩
  case isFalse there =>
    split at success
    · cases success
    case h_2 s content =>
      split at success
      · cases success
      · cases parsed : readText (readList reader) s with
        | error fault =>
          rw [parsed] at success
          cases success
        | ok list =>
          rw [parsed] at success
          cases success
          exact .inr ⟨by simpa using there, s, content, parsed⟩

/-- Whatever is read of the elements that an append carries over, was read before. -/
theorem readEach_of_parse {reader : Reader β} {entries : List β} (stable : Stable reader)
    (untyped : log.parse Json.read f = .ok before) (typed : log.parse reader f = .ok entries) :
    readEach (reader itemDepth) (documentItems before) = .ok entries := by
  rcases parse_cases untyped with ⟨absent, rfl⟩ | ⟨there, s, content, found⟩
  · rcases parse_cases typed with ⟨-, rfl⟩ | ⟨there, -⟩
    · rfl
    · rw [absent] at there
      cases there
  · rcases parse_cases typed with ⟨absent, -⟩ | ⟨-, s', content', found'⟩
    · rw [absent] at there
      cases there
    · rw [content] at content'
      cases content'
      obtain ⟨ds, same, values⟩ := readText_readList found
      obtain ⟨es, same', records⟩ := readText_readList found'
      rw [same] at same'
      cases same'
      rw [readEach_read] at values
      cases items : readItems itemDepth ds with
      | error fault =>
        rw [items] at values
        cases values
      | ok items' =>
        rw [items] at values
        cases values
        rw [sortedItems_eq_map, documentItems_eq_map, List.map_map]
        exact readEach_carried stable records items

theorem readable_of_parse (untyped : log.parse Json.read f = .ok before) : ReadableItems before := by
  rcases parse_cases untyped with ⟨-, rfl⟩ | ⟨-, s, -, found⟩
  · trivial
  · obtain ⟨ds, -, values⟩ := readText_readList found
    rw [readEach_read] at values
    cases items : readItems itemDepth ds with
    | error fault =>
      rw [items] at values
      cases values
    | ok items' =>
      rw [items] at values
      cases values
      have each : ReadableItems items' := numbersItems_iff.mpr (readable_inherited.of_readItems items)
      exact NumbersItems.sorted each

/-- The text of an array is not blank. -/
theorem trim_text (items : List Json) : trim (text items) ≠ "" := by
  have bracket : ∃ cs, prettyChars 0 (.array items) = '[' :: cs := by
    cases items with
    | nil => exact ⟨[']'], by rw [prettyChars]⟩
    | cons item items => exact ⟨_, by rw [prettyChars]; rfl⟩
  obtain ⟨cs, begins⟩ := bracket
  have shown : isBlank '[' = false := by decide
  intro blank
  have none : trimChars ('[' :: cs) = [] := by
    simpa [trim, text, pretty, begins] using congrArg String.toList blank
  rw [trimChars, List.dropWhile_cons_of_neg (by simp [shown]), trimEnd, List.reverse_eq_nil_iff,
    List.dropWhile_eq_nil_iff] at none
  have all := none '[' (by simp)
  rw [shown] at all
  cases all

/-- A file of elements that can be read is parsed as the document of these elements. -/
theorem parse_of_content? (reader : Reader β) (readable : ReadableItems items)
    (content : f.content? log.path = some (octets (text items))) :
    log.parse reader f =
      (readList reader maxDepth (Json.array items).document).mapError (.parsing log.path) := by
  have there : log.exists? f = true := by
    obtain ⟨at_, found, standing⟩ := Files.readBytes_eq_ok_iff.mp (Files.content?_eq_some_iff.mp content)
    simp [exists?, Files.exists?, Files.entry?, found, standing]
  have read : f.readText log.path = .ok (text items) := by
    rw [Files.readText, Files.content?_eq_some_iff.mp content]
    simp
  have array : (Json.array items).Readable := readable
  rw [parse, there, read]
  have parsed : readText (readList reader) (text items) = _ := readText_pretty _ array.legible
  simp [trim_text items, parsed]

/-- Without a type such a file is read where there is room for the array. -/
theorem parse_read_of_content? (readable : ReadableItems items)
    (content : f.content? log.path = some (octets (text items))) :
    log.parse Json.read f =
      if depthItems items ≤ itemDepth then .ok (sortedItems (rereadItems items))
      else .error (.parsing log.path .invalid) := by
  rw [parse_of_content? _ readable content, document, maxDepth_eq, readList, readEach_read,
    readItems_document readable]
  by_cases shallow : depthItems items ≤ itemDepth <;> simp [shallow, Except.map, Except.mapError]

/-! ## After an append -/

/-- What an append writes can be read as it stands: its elements have been read, or are plain. -/
theorem readable_of_append_ok {entry : α} (untyped : log.parse Json.read f = .ok before)
    (plain : (log.format.toJson entry).Plain) : ReadableItems (before ++ [log.element entry]) := by
  have old := numbersItems_iff.mp (readable_of_parse untyped)
  apply numbersItems_iff.mpr
  intro item member
  rcases List.mem_append.mp member with earlier | last
  · exact old item earlier
  · rw [List.mem_singleton.mp last]
    exact Plain.readable plain.sorted

/-- An append that succeeds changes the file: the array in it has one element more. -/
theorem content?_ne_of_append_ok {entry : α} {count : Nat}
    (plain : (log.format.toJson entry).Plain)
    (success : log.append entry disk f = (.ok count, g)) :
    g.content? log.path ≠ f.content? log.path := by
  obtain ⟨before, untyped, -, content⟩ := content?_of_append_ok success
  intro same
  rw [same] at content
  have again := parse_read_of_content? (readable_of_append_ok untyped plain) content
  rw [untyped] at again
  split at again
  case isTrue =>
    have lengths := congrArg List.length (Except.ok.inj again)
    simp [sortedItems_eq_map, rereadItems_eq_map] at lengths
  case isFalse => cases again

/-- The entries after an append, where the new one can be read from the form in which it is written. -/
theorem load_of_append_ok {entry : α} {count : Nat}
    (stable : Stable log.format.read) (loaded : log.load f = .ok earlier)
    (plain : (log.format.toJson entry).Plain)
    (again : log.format.read itemDepth (carried (log.format.toJson entry)) = .ok entry)
    (success : log.append entry disk f = (.ok count, g)) : log.load g = .ok (earlier ++ [entry]) := by
  obtain ⟨before, untyped, -, content⟩ := content?_of_append_ok success
  have old := readEach_of_parse stable untyped loaded
  have new : readEach (log.format.read itemDepth) (documentItems [log.element entry]) = .ok [entry] := by
    rw [carried] at again
    simp [documentItems, element, readEach, again]
  have both := readEach_append old new
  have parts : documentItems before ++ documentItems [log.element entry] =
      documentItems (before ++ [log.element entry]) := by
    simp only [documentItems_eq_map, List.map_append]
  rw [parts] at both
  rw [load, parse_of_content? _ (readable_of_append_ok untyped plain) content, document, maxDepth_eq,
    readList, both]
  rfl

/-- Where a log can be loaded after an append, the new entry could be read as it is written. -/
theorem read_of_load {entry : α} {count : Nat} {all : List α}
    (plain : (log.format.toJson entry).Plain) (success : log.append entry disk f = (.ok count, g))
    (loaded : log.load g = .ok all) :
    ∃ last, log.format.read itemDepth (carried (log.format.toJson entry)) = .ok last := by
  obtain ⟨before, untyped, -, content⟩ := content?_of_append_ok success
  rw [load, parse_of_content? _ (readable_of_append_ok untyped plain) content, document, maxDepth_eq,
    readList] at loaded
  have last : (log.element entry).document ∈ documentItems (before ++ [log.element entry]) := by
    rw [documentItems_eq_map]
    exact List.mem_map_of_mem (by simp)
  cases each : readEach (log.format.read itemDepth) (documentItems (before ++ [log.element entry])) with
  | error fault =>
    rw [each] at loaded
    cases loaded
  | ok values => exact read_of_mem_readEach each last

/-- Where the new entry leaves room for the array, the log can be read without a type afterwards, and the
new entry stands last, as it was written. -/
theorem parse_read_of_append_ok {entry : α} {count : Nat}
    (plain : (log.format.toJson entry).Plain) (shallow : (log.format.toJson entry).depth ≤ itemDepth)
    (success : log.append entry disk f = (.ok count, g)) :
    ∃ earlier, count = (earlier ++ [log.element entry]).length ∧
      log.parse Json.read g = .ok (earlier ++ [log.element entry]) := by
  obtain ⟨before, untyped, counted, content⟩ := content?_of_append_ok success
  obtain ⟨-, room⟩ := sorted_of_elements? (elements?_of_parse untyped)
  have fits : depthItems (before ++ [log.element entry]) ≤ itemDepth := by
    apply depthItems_le.mpr
    intro item member
    rcases List.mem_append.mp member with earlier | last
    · exact depthItems_le.mp (Nat.le_of_lt_succ room) item earlier
    · rw [List.mem_singleton.mp last]
      exact Nat.le_trans (depth_sorted_le _) shallow
  have same : (log.element entry).reread.sorted = log.element entry := by
    rw [element, reread_of_plain plain.sorted, sorted_sorted]
  refine ⟨before.map fun item => item.reread.sorted, ?_, ?_⟩
  · simpa using counted
  · rw [parse_read_of_content? (readable_of_append_ok untyped plain) content, if_pos fits,
      sortedItems_eq_map, rereadItems_eq_map, List.map_append, List.map_append, List.map_map,
      List.map_singleton, List.map_singleton, same]
    rfl

/-- Where the new entry leaves room for the array, no later append takes the file for no log. -/
theorem append_of_shallow {entry : α} {count : Nat}
    (plain : (log.format.toJson entry).Plain) (shallow : (log.format.toJson entry).depth ≤ itemDepth)
    (success : log.append entry disk f = (.ok count, g)) (other : α) (later : Files.Disk)
    (path : String) (cause : Fault) : (log.append other later g).1 ≠ .error (.parsing path cause) := by
  obtain ⟨earlier, -, parsed⟩ := parse_read_of_append_ok plain shallow success
  rw [append, parsed]
  dsimp only
  split <;> simp

/-- Where the new entry leaves no room for the array, every later append refuses the file. -/
theorem append_of_deep {entry : α} {count : Nat}
    (plain : (log.format.toJson entry).Plain) (distinct : (log.format.toJson entry).Distinct)
    (deep : itemDepth < (log.format.toJson entry).depth)
    (success : log.append entry disk f = (.ok count, g)) (other : α) (later : Files.Disk) :
    log.append other later g = (.error (.parsing log.path .invalid), g) := by
  obtain ⟨before, untyped, -, content⟩ := content?_of_append_ok success
  have tall : ¬ depthItems (before ++ [log.element entry]) ≤ itemDepth := by
    intro shallow
    have last := depthItems_le.mp shallow (log.element entry) (by simp)
    have kept := distinct.depth_le_sorted
    rw [element] at last
    omega
  rw [append, parse_read_of_content? (readable_of_append_ok untyped plain) content, if_neg tall]

end AppendLog

end TokenDesk
