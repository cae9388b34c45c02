import TokenDesk.Ledger.Log
import TokenDesk.Proofs.Files.Writing
import TokenDesk.Proofs.Json.ReadBack

/-!
# Appending to logs

An append adds one element to the array that the file of a log holds, or leaves the file's bytes. Over
any run of appends, then, the array is the one before followed by what was written, in order
(`elements?_of_appends`), whatever else is done to the files in between.
-/

set_option autoImplicit false

namespace TokenDesk

open TokenDesk.Text
open TokenDesk.Json

/-- The array that the content of a log file is, read without a type; a missing file holds none. -/
def Json.elements? : Option Octets → Option (List Json)
  | none => some []
  | some bytes =>
    match (decode? bytes).map (readText Json.read) with
    | some (.ok (.array items)) => some items
    | _ => none

namespace AppendLog

variable {α β : Type} {log : AppendLog α} {disk : Files.Disk} {f g h : Files}
  {before items : List Json}

/-- The array in the file of a log. -/
def elements? (log : AppendLog α) (f : Files) : Option (List Json) :=
  Json.elements? (f.content? log.path)

/-! ## Reading the array -/

theorem content?_of_not_exists (absent : log.exists? f = false) : f.content? log.path = none := by
  apply Files.content?_eq_none_iff.mpr
  intro any read
  obtain ⟨at_, found, standing⟩ := Files.readBytes_eq_ok_iff.mp read
  simp [exists?, Files.exists?, Files.entry?, found, standing] at absent

theorem readText_readList_read {text : String}
    (success : readText (readList Json.read) text = .ok items) :
    readText Json.read text = .ok (.array items) := by
  unfold readText at success ⊢
  dsimp only at success ⊢
  split at success
  · cases success
  case h_2 list read =>
    rw [readList_read_eq_ok_iff.mp read]
    dsimp only
    split at success
    case isTrue ended =>
      cases success
      rw [if_pos ended]
    case isFalse => cases success

/-- What an append reads is the array in the file. -/
theorem elements?_of_parse (success : log.parse Json.read f = .ok items) :
    log.elements? f = some items := by
  unfold parse at success
  split at success
  case isTrue absent =>
    cases success
    rw [elements?, content?_of_not_exists (by simpa using absent)]
    rfl
  case isFalse =>
    split at success
    · cases success
    case h_2 text read =>
      split at success
      · cases success
      · have array : readText Json.read text = .ok (.array items) := by
          apply readText_readList_read
          cases parsed : readText (readList Json.read) text with
          | error fault =>
            rw [parsed] at success
            cases success
          | ok list =>
            rw [parsed] at success
            cases success
            rfl
        unfold Files.readText at read
        split at read
        · cases read
        case h_2 bytes content =>
          split at read
          case h_1 decoded =>
            cases read
            rw [elements?, Files.content?_eq_some_iff.mpr content]
            simp [Json.elements?, decoded, array]
          case h_2 => cases read

/-- The elements of a file have ascending keys, and their nesting leaves room for the array. -/
theorem sorted_of_elements? (found : log.elements? f = some items) :
    sortedItems items = items ∧ depthItems items < maxDepth := by
  unfold elements? Json.elements? at found
  split at found
  · cases found
    exact ⟨rfl, by decide⟩
  case h_2 bytes content =>
    split at found
    case h_1 read =>
      cases found
      obtain ⟨text, -, read⟩ := Option.map_eq_some_iff.mp read
      have success : Json.read maxDepth (Document.ofChars text.toList).1 = .ok (.array items) := by
        unfold readText at read
        dsimp only at read
        split at read
        · cases read
        case h_2 value success =>
          split at read <;> cases read
          exact success
      obtain ⟨ascending, shallow⟩ := sorted_of_read success
      exact ⟨by simpa [Json.sorted] using ascending, shallow⟩
    case h_2 => cases found

/-- The text of plain elements is read as these elements. -/
theorem elements?_text (plain : PlainItems items) (ascending : sortedItems items = items)
    (shallow : depthItems items < maxDepth) :
    Json.elements? (some (octets (text items))) = some items := by
  have array : Plain (.array items) := plain
  have read : readText Json.read (text items) = .ok (.array items) := by
    rw [text, readText_pretty _ array.readable.legible, read_document array shallow, Json.sorted,
      ascending]
  simp [Json.elements?, read]

/-! ## One append -/

/-- The element that an entry is written as. -/
def element (log : AppendLog α) (entry : α) : Json :=
  (log.format.toJson entry).sorted

/-- An entry whose numbers are whole and fit 64 bits, with room for the array around it. -/
def Carries (log : AppendLog α) (entry : α) : Prop :=
  (log.format.toJson entry).Plain ∧ (log.format.toJson entry).depth < maxDepth

/-- An append to a log that can be read without a type fails only where it cannot write. -/
theorem append_cases (entry : α) (parsed : log.parse Json.read f = .ok before) :
    (∃ cause g, log.append entry disk f = (.error (.writing log.path cause), g)) ∨
      ∃ g, log.append entry disk f = (.ok (before.length + 1), g) := by
  rw [append, parsed]
  dsimp only
  split
  case h_1 cause g _ => exact .inl ⟨cause, g, rfl⟩
  case h_2 g _ => exact .inr ⟨g, by simp⟩

/-- What an append that succeeds has read and written. -/
theorem stored_of_append_ok {entry : α} {count : Nat}
    (success : log.append entry disk f = (.ok count, g)) :
    ∃ before, log.parse Json.read f = .ok before ∧ count = before.length + 1 ∧
      f.writeOn disk log.path (octets (text (before ++ [log.element entry]))) = (.ok (), g) := by
  unfold append at success
  split at success
  · cases success
  case h_2 before parsed =>
    dsimp only at success
    split at success
    · cases success
    case h_2 written =>
      cases success
      exact ⟨before, parsed, by simp, written⟩

/-- What an append that succeeds has read, and what it has left in the file. -/
theorem content?_of_append_ok {entry : α} {count : Nat}
    (success : log.append entry disk f = (.ok count, g)) :
    ∃ before, log.parse Json.read f = .ok before ∧ count = before.length + 1 ∧
      g.content? log.path = some (octets (text (before ++ [log.element entry]))) := by
  obtain ⟨before, parsed, counted, written⟩ := stored_of_append_ok success
  exact ⟨before, parsed, counted, Files.content?_of_writeOn_ok written⟩

theorem append_ok {entry : α} {count : Nat}
    (old : ∀ items, log.elements? f = some items → PlainItems items) (new : log.Carries entry)
    (success : log.append entry disk f = (.ok count, g)) :
    ∃ before, log.elements? f = some before ∧ PlainItems (before ++ [log.element entry]) ∧
      log.elements? g = some (before ++ [log.element entry]) ∧ count = before.length + 1 := by
  obtain ⟨before, parsed, counted, content⟩ := content?_of_append_ok success
  have found := elements?_of_parse parsed
  obtain ⟨ascending, shallow⟩ := sorted_of_elements? found
  have plain : PlainItems (before ++ [log.element entry]) := by
    apply numbersItems_iff.mpr
    intro item member
    rcases List.mem_append.mp member with earlier | last
    · exact numbersItems_iff.mp (old before found) item earlier
    · rw [List.mem_singleton.mp last]
      exact new.1.sorted
  have sorted : sortedItems (before ++ [log.element entry]) = before ++ [log.element entry] := by
    rw [sortedItems_eq_map] at ascending ⊢
    rw [List.map_append, ascending, List.map_singleton, element, sorted_sorted]
  have room : depthItems (before ++ [log.element entry]) < maxDepth := by
    apply Nat.lt_of_le_pred (by decide)
    apply depthItems_le.mpr
    intro item member
    rcases List.mem_append.mp member with earlier | last
    · exact depthItems_le.mp (Nat.le_pred_of_lt shallow) item earlier
    · rw [List.mem_singleton.mp last]
      exact (depth_sorted_le _).trans (Nat.le_pred_of_lt new.2)
  refine ⟨before, found, plain, ?_, counted⟩
  rw [elements?, content]
  exact elements?_text plain sorted room

/-- A failing append leaves new directories at most. -/
theorem grown_of_append_error {entry : α} {e : LogError}
    (failed : log.append entry disk f = (.error e, g)) : f.Grown g := by
  unfold append at failed
  split at failed
  · cases failed
    exact .refl f
  · dsimp only at failed
    split at failed
    case h_1 refused =>
      cases failed
      exact Files.grown_of_writeOn_error refused
    case h_2 => cases failed

/-- A failing append leaves what can be read at the path of the log. -/
theorem content?_of_append_error {entry : α} {e : LogError} (harmless : disk.Harmless log.path)
    (sound : f.tree.WellFormed) (failed : log.append entry disk f = (.error e, g)) :
    g.content? log.path = f.content? log.path := by
  unfold append at failed
  split at failed
  · cases failed
    rfl
  · dsimp only at failed
    split at failed
    case h_1 refused =>
      cases failed
      exact Files.content?_of_writeOn_error harmless sound refused
    case h_2 => cases failed

/-- What is no array takes no entry. -/
theorem append_of_elements?_eq_none (disk : Files.Disk) (entry : α) (noArray : log.elements? f = none) :
    ∃ e, log.append entry disk f = (.error e, f) := by
  unfold append
  split
  case h_1 e _ => exact ⟨e, rfl⟩
  case h_2 parsed =>
    rw [elements?_of_parse parsed] at noArray
    cases noArray

theorem append_wellFormed (sound : f.tree.WellFormed) (log : AppendLog α) (disk : Files.Disk)
    (entry : α) :
    (log.append entry disk f).2.tree.WellFormed := by
  unfold append
  split
  · exact sound
  case h_2 entries parsed =>
    have kept := Files.writeOn_wellFormed sound disk log.path
      (octets (text (entries ++ [(log.format.toJson entry).sorted])))
    dsimp only
    split
    case h_1 written => rwa [written] at kept
    case h_2 written => rwa [written] at kept

/-! ## Runs of appends -/

/-- Appends one after the other, each with its result and on a disk of its own, which may refuse it. Between
them anything else may happen to the files, as long as the content of the log stays. -/
inductive Appends (log : AppendLog α) : Files → List (α × Except LogError Nat) → Files → Prop
  | done (f : Files) : Appends log f [] f
  | append {f g h : Files} {disk : Files.Disk} {entry : α} {result : Except LogError Nat}
      {steps : List (α × Except LogError Nat)} (harmless : disk.Harmless log.path)
      (step : log.append entry disk f = (result, g))
      (rest : Appends log g steps h) : Appends log f ((entry, result) :: steps) h
  | outside {f g h : Files} {steps : List (α × Except LogError Nat)} (sound : g.tree.WellFormed)
      (same : g.content? log.path = f.content? log.path) (rest : Appends log g steps h) :
      Appends log f steps h

/-- The element that an append with a result has written. -/
def written? (log : AppendLog α) : α × Except LogError Nat → Option Json
  | (entry, .ok _) => some (log.element entry)
  | (_, .error _) => none

/-- What a run of appends has written, in order. -/
def written (log : AppendLog α) (steps : List (α × Except LogError Nat)) : List Json :=
  steps.filterMap log.written?

theorem elements?_eq_of_content?_eq (same : g.content? log.path = f.content? log.path) :
    log.elements? g = log.elements? f := by
  rw [elements?, same, elements?]

/-- Where there is no array, every append of a run fails and the bytes stay. -/
theorem appends_of_no_array {steps : List (α × Except LogError Nat)}
    (run : log.Appends f steps g) (noArray : log.elements? f = none) :
    (∀ step ∈ steps, ∃ e, step.2 = .error e) ∧ g.content? log.path = f.content? log.path := by
  induction run with
  | done f => exact ⟨by simp, rfl⟩
  | @append f g h disk entry result steps harmless step rest ih =>
    obtain ⟨e, failed⟩ := append_of_elements?_eq_none disk entry noArray
    rw [failed] at step
    cases step
    obtain ⟨later, same⟩ := ih noArray
    refine ⟨?_, same⟩
    intro other member
    rcases List.mem_cons.mp member with rfl | behind
    · exact ⟨e, rfl⟩
    · exact later other behind
  | outside sound same rest ih =>
    obtain ⟨later, kept⟩ := ih (by rw [elements?_eq_of_content?_eq same, noArray])
    exact ⟨later, kept.trans same⟩

theorem written_append (log : AppendLog α) (earlier later : List (α × Except LogError Nat)) :
    log.written (earlier ++ later) = log.written earlier ++ log.written later :=
  List.filterMap_append

/-- Each append that succeeds has answered the length of the array as it is then. -/
def Counts (log : AppendLog α) (before : List Json) (steps : List (α × Except LogError Nat)) :
    Prop :=
  ∀ earlier entry count later, steps = earlier ++ (entry, .ok count) :: later →
    count = (before ++ log.written (earlier ++ [(entry, .ok count)])).length

theorem Counts.cons {step : α × Except LogError Nat} {steps : List (α × Except LogError Nat)}
    (first : ∀ count, step.2 = .ok count → count = before.length + 1)
    (rest : log.Counts (before ++ log.written [step]) steps) : log.Counts before (step :: steps) := by
  intro earlier entry count later split
  cases earlier with
  | nil =>
    obtain ⟨rfl, -⟩ := List.cons.inj split
    simpa [written, written?] using first count rfl
  | cons before earlier =>
    obtain ⟨rfl, behind⟩ := List.cons.inj split
    have tail := rest earlier entry count later behind
    rwa [List.append_assoc, ← written_append] at tail

theorem appends_of_array {steps : List (α × Except LogError Nat)} (run : log.Appends f steps g)
    (sound : f.tree.WellFormed) (found : log.elements? f = some before)
    (old : PlainItems before) (new : ∀ step ∈ steps, log.Carries step.1) :
    log.elements? g = some (before ++ log.written steps) ∧ log.Counts before steps := by
  induction run generalizing before with
  | done f => exact ⟨by simpa [written] using found, by simp [Counts]⟩
  | @append f g h disk entry result steps harmless step rest ih =>
    have carried := new _ (List.mem_cons_self ..)
    have later : ∀ step ∈ steps, log.Carries step.1 := fun step member =>
      new step (List.mem_cons_of_mem _ member)
    have kept : g.tree.WellFormed := by
      have whole := append_wellFormed sound log disk entry
      rwa [step] at whole
    have divided : log.written ((entry, result) :: steps) =
        log.written [(entry, result)] ++ log.written steps := written_append log [_] steps
    rw [divided, ← List.append_assoc]
    cases result with
    | ok count =>
      have oldPlain : ∀ items, log.elements? f = some items → PlainItems items := by
        intro items read
        rw [found] at read
        cases read
        exact old
      obtain ⟨same, read, plain, extended, counted⟩ := append_ok oldPlain carried step
      rw [found] at read
      cases read
      obtain ⟨reached, counts⟩ := ih kept extended plain later
      refine ⟨reached, Counts.cons ?_ counts⟩
      rintro _ ⟨rfl⟩
      exact counted
    | error e =>
      have same := content?_of_append_error harmless sound step
      have nothing : before ++ log.written [(entry, .error e)] = before := by simp [written, written?]
      rw [nothing]
      obtain ⟨reached, counts⟩ := ih kept (by rw [elements?_eq_of_content?_eq same, found]) old later
      refine ⟨reached, Counts.cons ?_ (by rwa [nothing])⟩
      rintro _ ⟨⟩
  | outside kept same rest ih =>
    exact ih kept (by rw [elements?_eq_of_content?_eq same, found]) old new

/-- Whatever the file of a log holds at first, a run of appends either fails throughout or extends the
array that the file holds by exactly what it has written. An append that fails, and be it that the disk
refuses it, leaves the bytes of every file, and what can be read at the path of the log. -/
theorem elements?_of_appends {steps : List (α × Except LogError Nat)} (run : log.Appends f steps g)
    (sound : f.tree.WellFormed) (old : ∀ items, log.elements? f = some items → PlainItems items)
    (new : ∀ step ∈ steps, log.Carries step.1) :
    (log.elements? f = none → ∀ step ∈ steps, ∃ e, step.2 = .error e) ∧
      (∀ before, log.elements? f = some before →
        log.elements? g = some (before ++ log.written steps) ∧ log.Counts before steps) ∧
      ∀ disk entry e f g, f.tree.WellFormed → log.append entry disk f = (.error e, g) →
        (∀ at_, g.tree.file? at_ = f.tree.file? at_) ∧
          (disk.Harmless log.path → g.content? log.path = f.content? log.path) := by
  refine ⟨fun noArray => (appends_of_no_array run noArray).1, ?_, ?_⟩
  · intro before found
    exact appends_of_array run sound found (old before found) new
  · intro disk entry e f g sound failed
    exact ⟨(grown_of_append_error failed).tree.file?_eq, fun harmless =>
      content?_of_append_error harmless sound failed⟩

def recordLog : AppendLog DeploymentRecord := ⟨"log.json", .deployments⟩

def sampleRecord : DeploymentRecord :=
  ⟨"MyToken", "0x00", "localhost", ⟨⟨2024, 1, 1⟩, 0, 0⟩, "0x01", []⟩

/-- An element that is no record. -/
def foreignElement : Json := .object [("contract", .whole 7)]

theorem foreignElement_plain : PlainItems [foreignElement] :=
  ⟨⟨(by decide : Fits 7), trivial⟩, trivial⟩

/-- A log with that element. -/
def foreignFiles : Files :=
  ⟨⟨[(["log.json"], .file (octets (text [foreignElement])))]⟩, []⟩

def noSpace : OsError := .disk "No space left on device (os error 28)"

/-- A disk that is full before all bytes are stored. -/
def fullDisk : Files.Disk :=
  { Files.Disk.steady with unstored? := some (noSpace, 1) }

theorem parse_foreignFiles {β : Type} (reader : Reader β) : recordLog.parse reader foreignFiles =
    (readList reader maxDepth (Json.array [foreignElement]).document).mapError (.parsing "log.json") := by
  have bytes : foreignFiles.readBytes "log.json" = .ok (octets (text [foreignElement])) := rfl
  have content : foreignFiles.readText "log.json" = .ok (text [foreignElement]) := by
    rw [Files.readText, bytes]
    simp
  have there : recordLog.exists? foreignFiles = true := by decide
  have some : trim (text [foreignElement]) ≠ "" := by decide +kernel
  have array : Plain (.array [foreignElement]) := foreignElement_plain
  have read : readText (readList reader) (text [foreignElement]) =
      readList reader maxDepth (Json.array [foreignElement]).document :=
    readText_pretty (readList reader) array.readable.legible
  rw [parse, there]
  simp [recordLog, content, some, read]

/-- A refused and a granted append to the log with a foreign element. -/
theorem elements?_of_appends_mixed :
    recordLog.load foreignFiles = .error (.parsing "log.json" .invalid) ∧
      ((recordLog.append sampleRecord fullDisk foreignFiles).1 =
          .error (.writing "log.json" noSpace) ∧
        ∀ at_, (recordLog.append sampleRecord fullDisk foreignFiles).2.tree.file? at_ =
          foreignFiles.tree.file? at_) ∧
      (recordLog.append sampleRecord .steady foreignFiles).1 = .ok 2 ∧
      recordLog.elements? (recordLog.append sampleRecord .steady foreignFiles).2 =
        some [foreignElement, recordLog.element sampleRecord] := by
  have typed : readList DeploymentRecord.read maxDepth (Json.array [foreignElement]).document =
      .error .invalid := rfl
  have parsed : recordLog.parse Json.read foreignFiles = .ok [foreignElement] := by
    have array : Plain (.array [foreignElement]) := foreignElement_plain
    rw [parse_foreignFiles, readList_read_eq_ok_iff.mpr (read_document array (by decide))]
    rfl
  have full (bytes : Octets) :
      foreignFiles.writeOn fullDisk "log.json" bytes = (.error noSpace, foreignFiles) := rfl
  have refused : recordLog.append sampleRecord fullDisk foreignFiles =
      (.error (.writing "log.json" noSpace), foreignFiles) := by
    rw [append, parsed]
    dsimp only [recordLog]
    rw [full]
  have room (bytes : Octets) : (foreignFiles.writeOn .steady "log.json" bytes).1 = .ok () := rfl
  have granted : (recordLog.append sampleRecord .steady foreignFiles).1 = .ok 2 := by
    have done := room (octets (text ([foreignElement] ++ [(recordLog.format.toJson sampleRecord).sorted])))
    rw [append, parsed]
    dsimp only [recordLog] at done ⊢
    split
    case h_1 failed =>
      rw [failed] at done
      cases done
    case h_2 => rfl
  have sound : foreignFiles.tree.WellFormed := FileTree.wellFormed_of_entries (by decide)
  have found := elements?_of_parse parsed
  have run : recordLog.Appends foreignFiles
      [(sampleRecord, .error (.writing "log.json" noSpace)), (sampleRecord, .ok 2)]
      (recordLog.append sampleRecord .steady foreignFiles).2 :=
    .append (.inr (by decide)) refused
      (.append (.inl Files.steady_willing) (Prod.ext granted rfl) (.done _))
  have old : ∀ items, recordLog.elements? foreignFiles = some items → PlainItems items := by
    intro items read
    rw [found] at read
    cases read
    exact foreignElement_plain
  have new : ∀ step ∈ [(sampleRecord, (.error (.writing "log.json" noSpace) : Except LogError Nat)),
      (sampleRecord, .ok 2)], recordLog.Carries step.1 := by
    intro step member
    have entry : step.1 = sampleRecord := by
      rcases List.mem_pair.mp member with rfl | rfl <;> rfl
    have shallow : (recordLog.format.toJson sampleRecord).depth < maxDepth := by decide +kernel
    rw [entry]
    exact ⟨⟨trivial, trivial, trivial, trivial, trivial, trivial, trivial⟩, shallow⟩
  obtain ⟨-, extended, undone⟩ := elements?_of_appends run sound old new
  refine ⟨?_, ?_, granted, (extended _ found).1⟩
  · rw [load, parse_foreignFiles]
    exact congrArg (Except.mapError _) typed
  · rw [refused]
    exact ⟨rfl, (undone fullDisk sampleRecord _ _ _ sound refused).1⟩

end AppendLog

end TokenDesk
