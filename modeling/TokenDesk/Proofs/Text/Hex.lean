import Mathlib.Data.Bool.AllAny
import Mathlib.Data.List.Basic
import TokenDesk.Proofs.Text.Order
import TokenDesk.Text.Hex

/-!
# Hexadecimal digits read back

A text is read as hexadecimal just if it consists of digits in any letter case, and then its digits are those
that the bytes are written with, letter case apart (`decode_eq_ok_iff`).
-/

set_option autoImplicit false

namespace TokenDesk.Text.Hex

variable {c : Char} {cs : List Char} {bs : Octets} {m n : Nat}

/-! ## Digits -/

/-- The digits in either letter case. -/
def digitChars : List Char :=
  "0123456789abcdefABCDEF".toList

theorem value?_digit (small : n < 16) : value? (digit n) = some n :=
  (by decide : ∀ n : Fin 16, value? (digit n) = some n.val) ⟨n, small⟩

theorem digit_inj (first : m < 16) (second : n < 16) (same : digit m = digit n) : m = n := by
  have value := value?_digit first
  rw [same, value?_digit second] at value
  exact (Option.some.inj value).symm

/-- A digit has a value below 16, which is written as its lowercase form. -/
theorem exists_value? (digit_ : c ∈ digitChars) : ∃ n, n < 16 ∧ value? c = some n ∧ digit n = c.toLower := by
  have each : ∀ c ∈ digitChars, ∃ n : Fin 16, value? c = some n.val ∧ digit n.val = c.toLower :=
    List.all_iff_forall_prop.mp (by decide)
  obtain ⟨n, value, lower⟩ := each c digit_
  exact ⟨n.val, n.isLt, value, lower⟩

theorem mem_digitChars_of_value? (value : value? c = some n) : c ∈ digitChars := by
  have codes : digitChars = ([48, 49, 50, 51, 52, 53, 54, 55, 56, 57, 97, 98, 99, 100, 101, 102, 65, 66, 67,
      68, 69, 70] : List Nat).map Char.ofNat := by decide
  have number (d : Char) : (d ≤ c ↔ d.toNat ≤ c.toNat) ∧ (c ≤ d ↔ c.toNat ≤ d.toNat) := ⟨.rfl, .rfl⟩
  have range : (48 ≤ c.toNat ∧ c.toNat ≤ 57) ∨ (97 ≤ c.toNat ∧ c.toNat ≤ 102) ∨
      (65 ≤ c.toNat ∧ c.toNat ≤ 70) := by
    unfold value? at value
    simp only [Bool.and_eq_true, decide_eq_true_eq, number] at value
    split at value
    case isTrue ten => exact .inl ten
    case isFalse =>
      split at value
      case isTrue small => exact .inr (.inl small)
      case isFalse =>
        split at value
        case isTrue capital => exact .inr (.inr capital)
        case isFalse => cases value
  rw [codes, List.mem_map]
  refine ⟨c.toNat, ?_, Char.ofNat_toNat c⟩
  simp only [List.mem_cons, List.not_mem_nil]
  omega

/-! ## Written bytes -/

@[simp] theorem encodeChars_nil : encodeChars [] = [] := rfl

@[simp] theorem encodeChars_cons (b : UInt8) (bs : Octets) :
    encodeChars (b :: bs) = digit (b.toNat / 16) :: digit (b.toNat % 16) :: encodeChars bs := rfl

theorem length_encodeChars (bs : Octets) : (encodeChars bs).length = 2 * bs.length := by
  induction bs with
  | nil => rfl
  | cons b bs ih =>
    rw [encodeChars_cons, List.length_cons, List.length_cons, List.length_cons, ih]
    omega

/-- Bytes are written with lowercase digits. -/
theorem encodeChars_lower (bs : Octets) :
    (∀ c ∈ encodeChars bs, c ∈ digitChars) ∧ (encodeChars bs).map Char.toLower = encodeChars bs := by
  have lower : ∀ n, n < 16 → digit n ∈ digitChars ∧ (digit n).toLower = digit n := by decide
  induction bs with
  | nil => exact ⟨by simp, rfl⟩
  | cons b bs ih =>
    obtain ⟨each, same⟩ := ih
    have size := b.toNat_lt
    obtain ⟨first, high⟩ := lower (b.toNat / 16) (by omega)
    obtain ⟨second, low⟩ := lower (b.toNat % 16) (by omega)
    rw [encodeChars_cons, List.forall_mem_cons, List.forall_mem_cons, List.map_cons, List.map_cons, high, low,
      same]
    exact ⟨⟨first, second, each⟩, rfl⟩

/-- The halves of a byte are what it was put together from. -/
theorem halves (high : m < 16) (low : n < 16) :
    (UInt8.ofNat (m * 16 + n)).toNat / 16 = m ∧ (UInt8.ofNat (m * 16 + n)).toNat % 16 = n := by
  have whole : (UInt8.ofNat (m * 16 + n)).toNat = m * 16 + n := by
    rw [UInt8.toNat_ofNat']
    omega
  rw [whole]
  omega

theorem byte_halves (b : UInt8) : UInt8.ofNat (b.toNat / 16 * 16 + b.toNat % 16) = b := by
  rw [Nat.div_add_mod', UInt8.ofNat_toNat]

/-- Every two digits are those of a byte. -/
theorem exists_encodeChars (each : ∀ c ∈ cs, c ∈ digitChars) (even : cs.length = 2 * n) :
    ∃ bs : Octets, bs.length = n ∧ cs.map Char.toLower = encodeChars bs := by
  induction n generalizing cs with
  | zero => exact ⟨[], rfl, by rw [List.length_eq_zero_iff.mp even]; rfl⟩
  | succ n ih =>
    match cs, even with
    | high :: low :: cs, even =>
      simp only [List.forall_mem_cons] at each
      obtain ⟨bs, length, digits⟩ := ih each.2.2 (by simp only [List.length_cons] at even; omega)
      obtain ⟨m, upper, -, first⟩ := exists_value? each.1
      obtain ⟨k, lower, -, second⟩ := exists_value? each.2.1
      obtain ⟨quotient, remainder⟩ := halves upper lower
      refine ⟨UInt8.ofNat (m * 16 + k) :: bs, by rw [List.length_cons, length], ?_⟩
      rw [encodeChars_cons, quotient, remainder, first, second, ← digits]
      rfl

/-! ## Pairs of digits -/

/-- The character of a byte. -/
def byteChar (b : UInt8) : Char :=
  Char.ofNat b.toNat

theorem decodePairs_cons_eq_ok_iff {position : Nat} {high low : UInt8} {others : Octets} :
    decodePairs position (high :: low :: others) = .ok bs ↔ ∃ m n rest, value? (byteChar high) = some m ∧
      value? (byteChar low) = some n ∧ decodePairs (position + 2) others = .ok rest ∧
        bs = UInt8.ofNat (m * 16 + n) :: rest := by
  simp only [decodePairs, nibble, byteChar]
  cases value? (Char.ofNat high.toNat) with
  | none => simp
  | some m =>
    cases value? (Char.ofNat low.toNat) with
    | none => simp
    | some n =>
      cases decodePairs (position + 2) others with
      | error e => simp
      | ok rest =>
        simp only [Except.ok.injEq, Option.some.injEq, exists_and_left, exists_eq_left']
        exact eq_comm

theorem decodePairs_eq_ok_iff {position : Nat} {read : Octets} (even : read.length % 2 = 0) :
    decodePairs position read = .ok bs ↔ (∀ b ∈ read, byteChar b ∈ digitChars) ∧
      read.map (fun b => (byteChar b).toLower) = encodeChars bs := by
  induction bs generalizing position read with
  | nil =>
    match read, even with
    | [], _ => simp [decodePairs]
    | high :: low :: read, _ => simp [decodePairs_cons_eq_ok_iff]
  | cons b bs ih =>
    match read, even with
    | [], _ => simp [decodePairs]
    | high :: low :: read, even =>
      have rest : read.length % 2 = 0 := by
        simp only [List.length_cons] at even
        omega
      rw [decodePairs_cons_eq_ok_iff, List.forall_mem_cons, List.forall_mem_cons, List.map_cons, List.map_cons,
        encodeChars_cons]
      constructor
      · rintro ⟨m, n, others, first, second, onward, same⟩
        obtain ⟨rfl, rfl⟩ := List.cons.inj same
        obtain ⟨each, digits⟩ := (ih rest).mp onward
        have high_ := mem_digitChars_of_value? first
        have low_ := mem_digitChars_of_value? second
        obtain ⟨_, upper, value, one⟩ := exists_value? high_
        cases value.symm.trans first
        obtain ⟨_, lower, value, two⟩ := exists_value? low_
        cases value.symm.trans second
        obtain ⟨quotient, remainder⟩ := halves upper lower
        refine ⟨⟨high_, low_, each⟩, ?_⟩
        rw [quotient, remainder, one, two, digits]
      · rintro ⟨⟨high_, low_, each⟩, digits⟩
        obtain ⟨one, digits⟩ := List.cons.inj digits
        obtain ⟨two, digits⟩ := List.cons.inj digits
        obtain ⟨m, upper, first, lead⟩ := exists_value? high_
        obtain ⟨n, lower, second, trail⟩ := exists_value? low_
        have size := b.toNat_lt
        have quotient : m = b.toNat / 16 := digit_inj upper (by omega) (lead.trans one)
        have remainder : n = b.toNat % 16 := digit_inj lower (by omega) (trail.trans two)
        refine ⟨m, n, bs, first, second, (ih rest).mpr ⟨each, digits⟩, ?_⟩
        rw [quotient, remainder, byte_halves]

/-! ## Texts -/

theorem toNat_of_mem_digitChars (digit_ : c ∈ digitChars) : c.toNat < 128 := by
  have each : ∀ c ∈ digitChars, c.toNat < 128 := List.all_iff_forall_prop.mp (by decide)
  exact each c digit_

theorem byteChar_ofNat (ascii : c.toNat < 128) : byteChar (UInt8.ofNat c.toNat) = c := by
  have number : (UInt8.ofNat c.toNat).toNat = c.toNat := by
    rw [UInt8.toNat_ofNat']
    omega
  rw [byteChar, number, Char.ofNat_toNat]

theorem utf8EncodeChar_of_ascii (ascii : c.toNat < 128) :
    String.utf8EncodeChar c = [UInt8.ofNat c.toNat] := by
  have small : c.val.toNat ≤ 127 := Nat.le_of_lt_succ ascii
  unfold String.utf8EncodeChar
  dsimp only
  rw [if_pos small]
  rfl

theorem toNat_byteChar (b : UInt8) : (byteChar b).toNat = b.toNat := by
  have size := b.toNat_lt
  have valid : b.toNat.isValidChar := .inl (by omega)
  rw [byteChar, Char.ofNat, dif_pos valid]
  rfl

/-- A character beyond ASCII begins with a byte that is no digit. -/
theorem exists_byte_of_beyond (beyond : 128 ≤ c.toNat) :
    ∃ b ∈ String.utf8EncodeChar c, byteChar b ∉ digitChars := by
  have large : ∃ b ∈ String.utf8EncodeChar c, 128 ≤ b.toNat := by
    have number : c.val.toNat = c.toNat := rfl
    have last : c.val.toNat < 0x110000 := by
      have valid := c.valid
      simp only [UInt32.isValidChar, Nat.isValidChar] at valid
      omega
    unfold String.utf8EncodeChar
    dsimp only
    split_ifs
    · omega
    all_goals
      refine ⟨_, List.mem_cons_self, ?_⟩
      rw [UInt8.toNat_ofNat']
      omega
  obtain ⟨b, member, size⟩ := large
  refine ⟨b, member, fun digit_ => ?_⟩
  have small := toNat_of_mem_digitChars digit_
  rw [toNat_byteChar] at small
  omega

/-- A text of digits has one byte for each. -/
theorem octets_of_digits (each : ∀ c ∈ cs, c ∈ digitChars) :
    octets (String.ofList cs) = cs.map fun c => UInt8.ofNat c.toNat := by
  rw [octets_eq, String.toList_ofList]
  induction cs with
  | nil => rfl
  | cons c cs ih =>
    rw [List.forall_mem_cons] at each
    rw [List.flatMap_cons, utf8EncodeChar_of_ascii (toNat_of_mem_digitChars each.1), ih each.2,
      List.singleton_append, List.map_cons]

/-- All bytes of a text are digits just if all its characters are. -/
theorem forall_octets_iff (cs : List Char) :
    (∀ b ∈ octets (String.ofList cs), byteChar b ∈ digitChars) ↔ ∀ c ∈ cs, c ∈ digitChars := by
  constructor
  · intro each c member
    rw [octets_eq, String.toList_ofList] at each
    by_cases ascii : c.toNat < 128
    · have only : UInt8.ofNat c.toNat ∈ String.utf8EncodeChar c := by
        rw [utf8EncodeChar_of_ascii ascii]
        exact List.mem_singleton_self _
      have digit_ := each _ (List.mem_flatMap.mpr ⟨c, member, only⟩)
      rwa [byteChar_ofNat ascii] at digit_
    · obtain ⟨b, first, other⟩ := exists_byte_of_beyond (Nat.le_of_not_lt ascii)
      exact absurd (each b (List.mem_flatMap.mpr ⟨c, member, first⟩)) other
  · intro each b member
    rw [octets_of_digits each] at member
    obtain ⟨c, among, rfl⟩ := List.mem_map.mp member
    rw [byteChar_ofNat (toNat_of_mem_digitChars (each c among))]
    exact each c among

/-- A text reads as some bytes just if it is the digits that they are written with, letter case apart. -/
theorem decode_eq_ok_iff : decode cs = .ok bs ↔
    (∀ c ∈ cs, c ∈ digitChars) ∧ cs.map Char.toLower = encodeChars bs := by
  have same (each : ∀ c ∈ cs, c ∈ digitChars) :
      (octets (String.ofList cs)).map (fun b => (byteChar b).toLower) = cs.map Char.toLower := by
    rw [octets_of_digits each, List.map_map]
    exact List.map_congr_left fun c member =>
      congrArg Char.toLower (byteChar_ofNat (toNat_of_mem_digitChars (each c member)))
  unfold decode
  dsimp only
  split
  case isTrue odd =>
    refine iff_of_false (by simp) ?_
    rintro ⟨each, digits⟩
    have length := congrArg List.length digits
    rw [← same each, List.length_map, length_encodeChars] at length
    omega
  case isFalse even =>
    rw [decodePairs_eq_ok_iff (by omega), forall_octets_iff]
    exact and_congr_right fun each => by rw [same each]

end TokenDesk.Text.Hex
