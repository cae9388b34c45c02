import TokenDesk.Ledger.Workspace
import TokenDesk.Proofs.Json.Lookup
import TokenDesk.Proofs.Ledger.Reload
import TokenDesk.Proofs.Record.Written
import TokenDesk.Proofs.Time.Instant
import TokenDesk.Summary.Row

/-!
# Rows of reported runs

What writes a report entry and what makes a row of it share no definition but the file between them. The
row of an entry that has been appended, read again from the file without a type, tells the entry's own
data, column by column (`row_of_appended`).
-/

set_option autoImplicit false

namespace TokenDesk

open TokenDesk.Text

namespace Summary

/-! ## Paths -/

/-- Putting keys in order moves nothing that stands at the end of a path. -/
theorem lookup?_sorted (v : Json) (path : List String) :
    lookup? v.sorted path = (lookup? v path).map Json.sorted := by
  induction path generalizing v with
  | nil => cases v <;> rfl
  | cons key path ih =>
    rw [lookup?, lookup?, Json.get?_sorted]
    cases v.get? key with
    | none => rfl
    | some value => exact ih value

/-- The columns with the value that each finds. -/
theorem row_sorted (entry : Json) :
    row entry.sorted = columns.map fun column => cell ((lookup? entry column.2).map Json.sorted) := by
  simp only [row, lookup?_sorted]

/-! ## Cells -/

/-- What a column shows of a text: the text without the blanks around it, and nothing of a failure. -/
def shownText (s : String) : String :=
  if (trim s).toUpper = GasOutcome.failedMarker then "" else trim s

/-- What a column shows of a gated operation. -/
def shownGas : GasOutcome → String
  | .recorded gas => decimal gas.toNat
  | .failed => ""
  | .disabled => "DISABLED"

/-- The columns of an entry: the header and what stands below it. -/
def shownEntry (e : ReportEntry) : List (String × String) := [
  ("timestamp", e.timestamp.millisText),
  ("network", shownText e.network),
  ("mode", e.mode.name),
  ("contract", shownText e.contract),
  ("address", shownText e.address),
  ("transferGas", shownGas e.gasUsage.transfer),
  ("mintGas", shownGas e.gasUsage.mint),
  ("ownershipGas", shownGas e.gasUsage.transferOwnership),
  ("ownerBalance", shownText e.balances.owner),
  ("user1Balance", shownText e.balances.user1),
  ("user2Balance", shownText e.balances.user2),
  ("totalSupplyBefore", shownText e.totalSupplyBefore),
  ("totalSupplyAfter", shownText e.totalSupplyAfter)]

theorem isFailure_iff {s : String} : isFailure s = true ↔ s.toUpper = GasOutcome.failedMarker := by
  rw [isFailure, beq_iff_eq, ← String.toList_inj, String.toUpper, String.toList_map]
  rfl

theorem shownText_eq (s : String) :
    shownText s = if isFailure (trim s) then "" else trim s := by
  simp only [shownText, isFailure_iff]

theorem cell_string (s : String) : cell (some (.string s)) = shownText s :=
  (shownText_eq s).symm

/-- A text without blanks that has a letter the failure marker lacks is shown as it stands. -/
theorem shownText_of_unblank {s : String} {c : Char} (all : ∀ c ∈ s.toList, isBlank c = false)
    (member : c ∈ s.toList) (other : c.toUpper ∉ GasOutcome.failedMarker.toList) :
    shownText s = s := by
  have trimmed : trim s = s := by rw [trim, trimChars_of_unblank all, String.ofList_toList]
  have named : s.toUpper ≠ GasOutcome.failedMarker := by
    intro same
    apply other
    rw [← same, String.toUpper, String.toList_map]
    exact List.mem_map_of_mem member
  rw [shownText, trimmed, if_neg named]

theorem shownText_millisText (t : Time.Instant) : shownText t.millisText = t.millisText := by
  have all : ∀ c ∈ t.millisText.toList, isBlank c = false := by
    rw [Time.Instant.millisText, String.toList_ofList]
    exact fun c => Time.Instant.unblank_millisChars
  have zone : 'Z' ∈ t.millisText.toList := by
    simp [Time.Instant.millisText, Time.Instant.millisChars]
  exact shownText_of_unblank all zone (by decide)

theorem shownText_mode (m : Mode) : shownText m.name = m.name := by
  rw [shownText_eq]
  cases m <;> decide

theorem shownText_decimal (n : Nat) : shownText (decimal n) = decimal n := by
  have all : ∀ c ∈ (decimal n).toList, isDigit c = true := by
    rw [decimal, String.toList_ofList]
    exact fun c => isDigit_of_mem_digits
  obtain ⟨c, cs, chars⟩ := List.exists_cons_of_ne_nil (digits_ne_nil n)
  have member : c ∈ (decimal n).toList := by simp [decimal, chars]
  have letters : GasOutcome.failedMarker.toList.all (!isDigit ·) = true := by decide
  refine shownText_of_unblank (fun c among => isBlank_of_isDigit (all c among)) member ?_
  rw [toUpper_of_isDigit (all c member)]
  intro letter
  simpa [all c member] using List.all_eq_true.mp letters c letter

theorem shownText_gas (g : GasOutcome) : shownText g.text = shownGas g := by
  cases g with
  | recorded gas => exact shownText_decimal gas.toNat
  | failed =>
    rw [shownText_eq]
    decide
  | disabled =>
    rw [shownText_eq]
    decide

/-! ## Rows -/

/-- The row of an entry as it is written: what is written under the path of each column. -/
theorem row_toJson (e : ReportEntry) : row e.toJson.sorted =
    [e.timestamp.millisText, e.network, e.mode.name, e.contract, e.address,
      e.gasUsage.transfer.text, e.gasUsage.mint.text, e.gasUsage.transferOwnership.text,
      e.balances.owner, e.balances.user1, e.balances.user2,
      e.totalSupplyBefore, e.totalSupplyAfter].map shownText := by
  rw [row_sorted, ← funext cell_string]
  rfl

theorem zip_row_toJson (e : ReportEntry) : headers.zip (row e.toJson.sorted) = shownEntry e := by
  simp only [row_toJson, List.map_cons, List.map_nil, shownText_millisText, shownText_mode,
    shownText_gas]
  rfl

/-- An append to a report log that can be read without a type fails only where it cannot write. Otherwise
the log can be read so again, and it ends with an entry whose row has thirteen cells: under each header
stands what the appended entry has there. -/
theorem row_of_appended {w : Workspace} {network : String} {f : Files} {before : List Json}
    (loaded : (w.rawReportLog network).load f = .ok before) (e : ReportEntry) (disk : Files.Disk) :
    (∃ cause g, (w.reportLog network).append e disk f =
        (.error (.writing (w.reportPath network) cause), g)) ∨
      ∃ g earlier last, (w.reportLog network).append e disk f = (.ok (before.length + 1), g) ∧
        (w.rawReportLog network).load g = .ok (earlier ++ [last]) ∧ earlier.length = before.length ∧
          (row last).length = 13 ∧ headers.zip (row last) = shownEntry e := by
  -- both logs read the same file, and an append reads it without a type
  have parsed : (w.reportLog network).parse Json.read f = .ok before := loaded
  rcases AppendLog.append_cases e parsed with refused | ⟨g, success⟩
  · exact .inl refused
  · have shallow : e.toJson.depth ≤ Json.itemDepth := by
      rw [e.depth_toJson]
      decide
    obtain ⟨earlier, counted, again⟩ :=
      AppendLog.parse_read_of_append_ok e.toJson_plain shallow success
    refine .inr ⟨g, earlier, e.toJson.sorted, success, again, ?_, rfl, zip_row_toJson e⟩
    simpa using counted.symm

/-- A run with a failed and a disabled operation, and with blanks and failures among its texts. -/
def mixedRun : ReportEntry :=
  ⟨⟨⟨2024, 1, 1⟩, 3723, 4000000⟩, "localhost", .safe, " MyToken ", "0x5FbD",
    ⟨.recorded 34512, .failed, .disabled⟩, ⟨"99.999\n", " Failed ", "fail"⟩, "100.0", "FAILED"⟩

theorem row_of_mixedRun :
    ∃ g earlier last,
      ((⟨"/"⟩ : Workspace).reportLog "localhost").append mixedRun .steady ⟨.empty, []⟩ = (.ok 1, g) ∧
        ((⟨"/"⟩ : Workspace).rawReportLog "localhost").load g = .ok (earlier ++ [last]) ∧
          row last = ["2024-01-01T01:02:03.004Z", "localhost", "SAFE", "MyToken", "0x5FbD", "34512",
            "", "DISABLED", "99.999", "", "fail", "100.0", ""] := by
  have loaded : ((⟨"/"⟩ : Workspace).rawReportLog "localhost").load ⟨.empty, []⟩ = .ok [] := rfl
  have done : (((⟨"/"⟩ : Workspace).reportLog "localhost").append mixedRun .steady ⟨.empty, []⟩).1 =
      .ok 1 := rfl
  rcases row_of_appended loaded mixedRun .steady with
    ⟨cause, g, failed⟩ | ⟨g, earlier, last, success, again, -, wide, columns⟩
  · rw [failed] at done
    cases done
  · refine ⟨g, earlier, last, success, again, ?_⟩
    have cells : row last = (shownEntry mixedRun).map Prod.snd := by
      rw [← columns, List.map_snd_zip]
      rw [wide]
      decide
    rw [cells]
    simp only [shownEntry, shownText_eq]
    rfl

end Summary

end TokenDesk
