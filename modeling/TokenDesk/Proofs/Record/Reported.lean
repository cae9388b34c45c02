import TokenDesk.Proofs.Record.ReadBack
import TokenDesk.Proofs.Text.Written

/-!
# Report entries read back

A report entry is read where it was written (`ReportEntry.read_document`), and it is read again where
its text was carried over by an append (`ReportEntry.read_stable`). Every 64-bit word of gas is the word
that its digits denote, and neither marker is such a text.
-/

set_option autoImplicit false

namespace TokenDesk

open TokenDesk.Text
open TokenDesk.Json

namespace Text

/-- Digits are read to their end as long as the number that they denote fits. -/
theorem word64Digits_of_lt {cs : List Char} (all : ∀ c ∈ cs, isDigit c = true) {n : Nat}
    (fits : cs.foldl (fun n c => n * 10 + digitValue c) n < UInt64.size) :
    word64Digits n cs = .ok (UInt64.ofNat (cs.foldl (fun n c => n * 10 + digitValue c) n)) := by
  induction cs generalizing n with
  | nil => rfl
  | cons c cs ih =>
    obtain ⟨digit, others⟩ := List.forall_mem_cons.mp all
    rw [List.foldl_cons] at fits ⊢
    -- What has been read so far is a part of the number and no larger than it.
    have small : n * 10 + digitValue c < UInt64.size := by
      refine Nat.lt_of_le_of_lt ?_ fits
      rw [natOfDigits_foldl]
      exact Nat.le_add_right_of_le (Nat.le_mul_of_pos_right _ (Nat.pow_pos (by decide)))
    rw [word64Digits, if_neg (by simp [digit]), if_neg (Nat.not_le.mpr small), ih others fits]

/-- A word is read from its decimal. -/
theorem word64_decimal (w : UInt64) : word64 (decimal w.toNat) = .ok w := by
  have all : ∀ c ∈ digits w.toNat, isDigit c = true := fun c => isDigit_of_mem_digits
  have denoted : (digits w.toNat).foldl (fun n c => n * 10 + digitValue c) 0 = w.toNat :=
    natOfDigits_digits w.toNat
  have read : word64Digits 0 (digits w.toNat) = .ok w := by
    have fits : (digits w.toNat).foldl (fun n c => n * 10 + digitValue c) 0 < UInt64.size := by
      rw [denoted]
      exact w.toNat_lt
    rw [word64Digits_of_lt all fits, denoted, UInt64.ofNat_toNat]
  rw [word64, decimal, String.toList_ofList]
  split
  case h_1 empty => exact absurd empty (digits_ne_nil _)
  case h_2 sign | h_3 sign =>
    have plus : isDigit '+' = true := all _ (by simp [sign])
    cases plus
  case h_4 => exact read

end Text

namespace GasOutcome

theorem parse_text (g : GasOutcome) : parse g.text = .ok g := by
  cases g with
  | failed => rfl
  | disabled => rfl
  | recorded gas =>
    -- The markers have letters only.
    have apart {marker : String} (letters : marker.toList.all (!isDigit ·) = true) :
        decimal gas.toNat ≠ marker := by
      rintro rfl
      obtain ⟨c, there⟩ := List.exists_mem_of_ne_nil _ (digits_ne_nil gas.toNat)
      have digit := isDigit_of_mem_digits there
      rw [decimal, String.toList_ofList, List.all_eq_true] at letters
      simpa [digit] using letters c there
    rw [text, parse, if_neg (apart (by decide)), if_neg (apart (by decide)), word64_decimal]

theorem read_document (g : GasOutcome) (n : Nat) : GasOutcome.read n g.toJson.document = .ok g := by
  simp [toJson, document, GasOutcome.read, parse_text]

theorem read_stable : Stable GasOutcome.read :=
  .flat nofun nofun nofun

end GasOutcome

namespace GasUsage

/-- The fields of the outcomes. -/
def slots : List (RecordField Draft) :=
  [⟨"transfer", _, GasOutcome.read, fun d a => { d with transfer := some a },
      fun d => d.transfer.isSome⟩,
    ⟨"mint", _, GasOutcome.read, fun d a => { d with mint := some a }, fun d => d.mint.isSome⟩,
    ⟨"transferOwnership", _, GasOutcome.read, fun d a => { d with transferOwnership := some a },
      fun d => d.transferOwnership.isSome⟩]

theorem layout_made : layout.Made slots where
  names := rfl
  field := by
    simp only [slots, List.forall_mem_cons]
    exact ⟨fun _ _ _ => rfl, fun _ _ _ => rfl, fun _ _ _ => rfl, nofun⟩
  has := by
    simp only [slots, List.forall_mem_cons]
    exact ⟨fun _ => rfl, fun _ => rfl, fun _ => rfl, nofun⟩
  fills := by
    simp only [slots, List.forall_mem_cons]
    exact ⟨fun _ _ => rfl, fun _ _ => rfl, fun _ _ => rfl, nofun⟩
  stable := by
    simp only [slots, List.forall_mem_cons]
    exact ⟨GasOutcome.read_stable, GasOutcome.read_stable, GasOutcome.read_stable, nofun⟩
  apart := by
    simp only [slots, List.pairwise_cons, List.forall_mem_cons]
    and_intros <;> first | exact ⟨fun _ _ _ => rfl, fun _ _ => rfl, fun _ _ => rfl⟩ | simp

theorem read_document (g : GasUsage) (n : Nat) : GasUsage.read (n + 1) g.toJson.document = .ok g := by
  have fields : Supplies n slots [("transfer", g.transfer.toJson), ("mint", g.mint.toJson),
      ("transferOwnership", g.transferOwnership.toJson)] layout.start
      ⟨some g.transfer, some g.mint, some g.transferOwnership⟩ :=
    .cons rfl (by simp only [GasOutcome.read_document]) <|
      .cons rfl (by simp only [GasOutcome.read_document]) <|
      .cons rfl (by simp only [GasOutcome.read_document]) .nil
  rw [GasUsage.read, toJson, fields.readRecord layout_made]
  rfl

end GasUsage

namespace Balances

/-- The fields of the balances. -/
def slots : List (RecordField Draft) :=
  [⟨"owner", _, readString, fun d a => { d with owner := some a }, fun d => d.owner.isSome⟩,
    ⟨"user1", _, readString, fun d a => { d with user1 := some a }, fun d => d.user1.isSome⟩,
    ⟨"user2", _, readString, fun d a => { d with user2 := some a }, fun d => d.user2.isSome⟩]

theorem layout_made : layout.Made slots where
  names := rfl
  field := by
    simp only [slots, List.forall_mem_cons]
    exact ⟨fun _ _ _ => rfl, fun _ _ _ => rfl, fun _ _ _ => rfl, nofun⟩
  has := by
    simp only [slots, List.forall_mem_cons]
    exact ⟨fun _ => rfl, fun _ => rfl, fun _ => rfl, nofun⟩
  fills := by
    simp only [slots, List.forall_mem_cons]
    exact ⟨fun _ _ => rfl, fun _ _ => rfl, fun _ _ => rfl, nofun⟩
  stable := by
    simp only [slots, List.forall_mem_cons]
    exact ⟨.string, .string, .string, nofun⟩
  apart := by
    simp only [slots, List.pairwise_cons, List.forall_mem_cons]
    and_intros <;> first | exact ⟨fun _ _ _ => rfl, fun _ _ => rfl, fun _ _ => rfl⟩ | simp

theorem read_document (b : Balances) (n : Nat) : Balances.read (n + 1) b.toJson.document = .ok b := by
  have fields : Supplies n slots [("owner", .string b.owner), ("user1", .string b.user1),
      ("user2", .string b.user2)] layout.start ⟨some b.owner, some b.user1, some b.user2⟩ :=
    .cons rfl rfl <| .cons rfl rfl <| .cons rfl rfl .nil
  rw [Balances.read, toJson, fields.readRecord layout_made]
  rfl

end Balances

namespace Mode

theorem ofName?_name (m : Mode) : ofName? m.name = some m := by
  cases m <;> decide

theorem read_document (m : Mode) (n : Nat) : Mode.read n m.toJson.document = .ok m := by
  simp [toJson, document, Mode.read, ofName?_name]

/-- The name as the only key of an object is carried over as it stands. -/
theorem read_stable : Stable Mode.read := by
  intro n d m v success written
  unfold Mode.read at success
  split at success
  case h_1 | h_2 =>
    cases written
    exact success
  case h_3 => cases success

end Mode

namespace ReportEntry

/-- The fields of an entry. -/
def slots : List (RecordField Draft) :=
  [⟨"timestamp", _, Time.Instant.read, fun d a => { d with timestamp := some a },
      fun d => d.timestamp.isSome⟩,
    ⟨"network", _, readString, fun d a => { d with network := some a }, fun d => d.network.isSome⟩,
    ⟨"mode", _, Mode.read, fun d a => { d with mode := some a }, fun d => d.mode.isSome⟩,
    ⟨"contract", _, readString, fun d a => { d with contract := some a }, fun d => d.contract.isSome⟩,
    ⟨"address", _, readString, fun d a => { d with address := some a }, fun d => d.address.isSome⟩,
    ⟨"gasUsage", _, GasUsage.read, fun d a => { d with gasUsage := some a },
      fun d => d.gasUsage.isSome⟩,
    ⟨"balances", _, Balances.read, fun d a => { d with balances := some a },
      fun d => d.balances.isSome⟩,
    ⟨"totalSupplyBefore", _, readString, fun d a => { d with totalSupplyBefore := some a },
      fun d => d.totalSupplyBefore.isSome⟩,
    ⟨"totalSupplyAfter", _, readString, fun d a => { d with totalSupplyAfter := some a },
      fun d => d.totalSupplyAfter.isSome⟩]

theorem layout_made : layout.Made slots where
  names := rfl
  field := by
    simp only [slots, List.forall_mem_cons]
    exact ⟨fun _ _ _ => rfl, fun _ _ _ => rfl, fun _ _ _ => rfl, fun _ _ _ => rfl, fun _ _ _ => rfl,
      fun _ _ _ => rfl, fun _ _ _ => rfl, fun _ _ _ => rfl, fun _ _ _ => rfl, nofun⟩
  has := by
    simp only [slots, List.forall_mem_cons]
    exact ⟨fun _ => rfl, fun _ => rfl, fun _ => rfl, fun _ => rfl, fun _ => rfl, fun _ => rfl,
      fun _ => rfl, fun _ => rfl, fun _ => rfl, nofun⟩
  fills := by
    simp only [slots, List.forall_mem_cons]
    exact ⟨fun _ _ => rfl, fun _ _ => rfl, fun _ _ => rfl, fun _ _ => rfl, fun _ _ => rfl,
      fun _ _ => rfl, fun _ _ => rfl, fun _ _ => rfl, fun _ _ => rfl, nofun⟩
  stable := by
    simp only [slots, List.forall_mem_cons]
    exact ⟨DeploymentRecord.stable_instant, .string, Mode.read_stable, .string, .string,
      GasUsage.layout_made.record, Balances.layout_made.record, .string, .string, nofun⟩
  apart := by
    simp only [slots, List.pairwise_cons, List.forall_mem_cons]
    and_intros <;> first | exact ⟨fun _ _ _ => rfl, fun _ _ => rfl, fun _ _ => rfl⟩ | simp

/-- An entry is read where it was written, if its point in time is. -/
theorem read_document (e : ReportEntry) (n : Nat)
    (dated : Time.Instant.parse? e.timestamp.millisText = some e.timestamp) :
    ReportEntry.read (n + 2) e.toJson.document = .ok e := by
  have instant : Time.Instant.read (n + 1) e.timestamp.toJson.document = .ok e.timestamp := by
    simp [Time.Instant.toJson, document, Time.Instant.read, dated]
  have fields : Supplies (n + 1) slots [("timestamp", e.timestamp.toJson),
      ("network", .string e.network), ("mode", e.mode.toJson), ("contract", .string e.contract),
      ("address", .string e.address), ("gasUsage", e.gasUsage.toJson),
      ("balances", e.balances.toJson), ("totalSupplyBefore", .string e.totalSupplyBefore),
      ("totalSupplyAfter", .string e.totalSupplyAfter)] layout.start
      ⟨some e.timestamp, some e.network, some e.mode, some e.contract, some e.address,
        some e.gasUsage, some e.balances, some e.totalSupplyBefore, some e.totalSupplyAfter⟩ :=
    .cons rfl (by simp only [instant]) <| .cons rfl rfl <|
      .cons rfl (by simp only [Mode.read_document]) <| .cons rfl rfl <| .cons rfl rfl <|
      .cons rfl (by simp only [GasUsage.read_document]) <|
      .cons rfl (by simp only [Balances.read_document]) <| .cons rfl rfl <| .cons rfl rfl .nil
  rw [ReportEntry.read, toJson, fields.readRecord layout_made]
  rfl

/-- An entry is found again where its text was carried over. -/
theorem read_stable : Stable ReportEntry.read :=
  layout_made.record

end ReportEntry

end TokenDesk
