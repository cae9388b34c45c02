import Mathlib.Algebra.Group.Nat.Defs
import TokenDesk.Text.Blank
import TokenDesk.Text.Decimal
import TokenDesk.Text.Utf8

/-!
# What is written reads back

Two kinds of writing that files rest on: the decimal digits of a number denote that number and have no
superfluous zero, and the bytes of a text decode to that text. Trimming takes nothing off but blanks, so
it leaves digits as they are.
-/

set_option autoImplicit false

namespace TokenDesk.Text

/-! ## Bytes -/

/-- The bytes of an array from a place on, behind those that have been taken. -/
theorem toList_loop (bytes : ByteArray) (i : Nat) (taken : Octets) :
    ByteArray.toList.loop bytes i taken = taken.reverse ++ bytes.data.toList.drop i := by
  fun_induction ByteArray.toList.loop bytes i taken with
  | case1 i taken inside ih =>
    have bound : i < bytes.data.toList.length := by simpa using inside
    rw [ih, List.drop_eq_getElem_cons bound]
    have byte : bytes.get! i = bytes.data.toList[i] := getElem!_pos bytes.data i inside
    simp [byte]
  | case2 i taken outside =>
    rw [List.drop_eq_nil_of_le (by simpa using Nat.le_of_not_lt outside), List.append_nil]

/-- Decoding inverts encoding, whatever the text. -/
@[simp] theorem decode?_octets (s : String) : decode? (octets s) = some s := by
  have bytes : (octets s).toArray = s.toByteArray.data := by
    simp [octets, ByteArray.toList, toList_loop]
  rw [decode?, bytes, String.fromUTF8?, dif_pos s.isValidUTF8]
  rfl

/-! ## Digits -/

theorem isDigit_eq (c : Char) : isDigit c = c.isDigit := by
  rw [Bool.eq_iff_iff]
  simp [isDigit, Char.isDigit, Char.le_def]

theorem isDigit_of_mem_digits {n : Nat} {c : Char} (h : c ∈ digits n) : isDigit c = true := by
  rw [isDigit_eq]
  exact Nat.isDigit_of_mem_toDigits (by decide) (by decide) h

theorem digits_ne_nil (n : Nat) : digits n ≠ [] :=
  Nat.toDigits_ne_nil

/-- The digits of a number denote it. -/
@[simp] theorem natOfDigits_digits (n : Nat) : natOfDigits (digits n) = n := by
  have same : natOfDigits (digits n) = Nat.ofDigitChars 10 (Nat.toDigits 10 n) 0 := by
    simp only [natOfDigits, digits, Nat.ofDigitChars, digitValue, Nat.mul_comm]
  rw [same, Nat.ofDigitChars_ten_toDigits]

/-- A number of several digits does not begin with zero. -/
theorem head_digits_ne_zero {n : Nat} (h : 0 < n) : (digits n).head? ≠ some '0' := by
  induction n using Nat.strongRecOn with
  | ind n ih =>
    by_cases small : n < 10
    · have one : digits n = [n.digitChar] := Nat.toDigits_of_lt_base small
      simp [one]
      omega
    · have split : digits n = digits (n / 10) ++ [Nat.digitChar (n % 10)] :=
        Nat.toDigits_of_base_le (by decide) (by omega)
      have lead : (digits n).head? = (digits (n / 10)).head? := by
        rw [split, List.head?_append, List.head?_eq_some_head (digits_ne_nil _), Option.some_or]
      rw [lead]
      exact ih (n / 10) (by omega) (by omega)

theorem natOfDigits_foldl (n : Nat) (cs : List Char) :
    cs.foldl (fun n c => n * 10 + digitValue c) n = n * 10 ^ cs.length + natOfDigits cs := by
  unfold natOfDigits
  induction cs generalizing n with
  | nil => simp
  | cons c cs ih =>
    rw [List.foldl_cons, List.foldl_cons, ih, ih (0 * 10 + digitValue c), List.length_cons,
      Nat.pow_succ]
    simp only [Nat.add_mul, Nat.zero_mul, Nat.zero_add, Nat.mul_assoc, Nat.mul_comm 10,
      Nat.add_assoc]

theorem natOfDigits_append (first later : List Char) :
    natOfDigits (first ++ later) = natOfDigits first * 10 ^ later.length + natOfDigits later := by
  rw [natOfDigits, List.foldl_append, natOfDigits_foldl]
  rfl

theorem natOfDigits_cons (c : Char) (cs : List Char) :
    natOfDigits (c :: cs) = digitValue c * 10 ^ cs.length + natOfDigits cs := by
  rw [natOfDigits, List.foldl_cons, natOfDigits_foldl, Nat.zero_mul, Nat.zero_add]

theorem toNat_of_isDigit {c : Char} (digit : isDigit c = true) : 48 ≤ c.toNat ∧ c.toNat ≤ 57 := by
  simp only [isDigit, Bool.and_eq_true, decide_eq_true_eq, Char.le_def] at digit
  exact digit

theorem toUpper_of_isDigit {c : Char} (digit : isDigit c = true) : c.toUpper = c := by
  have range := toNat_of_isDigit digit
  unfold Char.toUpper
  split
  case isTrue letter =>
    have low : 97 ≤ c.toNat := letter.1
    omega
  case isFalse => rfl

theorem digitValue_lt {c : Char} (digit : isDigit c = true) : digitValue c < 10 := by
  have high := (toNat_of_isDigit digit).2
  have zero : '0'.toNat = 48 := rfl
  unfold digitValue
  omega

theorem natOfDigits_lt {cs : List Char} (all : ∀ c ∈ cs, isDigit c = true) :
    natOfDigits cs < 10 ^ cs.length := by
  induction cs with
  | nil => decide
  | cons c cs ih =>
    have first := digitValue_lt (all c (by simp))
    have rest := ih fun c member => all c (by simp [member])
    have scaled : digitValue c * 10 ^ cs.length ≤ 9 * 10 ^ cs.length :=
      Nat.mul_le_mul_right _ (by omega)
    rw [natOfDigits_cons, List.length_cons, Nat.pow_succ]
    omega

/-- A number lies between the powers that its digits count. -/
theorem digits_length {n : Nat} (positive : 0 < n) :
    10 ^ ((digits n).length - 1) ≤ n ∧ n < 10 ^ (digits n).length := by
  have some_ : 0 < (digits n).length := Nat.length_toDigits_pos
  refine ⟨?_, (Nat.length_toDigits_le_iff (by decide) some_).mp (Nat.le_refl _)⟩
  rcases Nat.eq_or_lt_of_le some_ with one | more
  · rw [← one]
    exact positive
  · refine Nat.le_of_not_lt fun less => ?_
    have short : (digits n).length ≤ (digits n).length - 1 :=
      (Nat.length_toDigits_le_iff (by decide) (by omega)).mpr less
    omega

/-! ## Zeros around digits -/

theorem natOfDigits_zeros (n : Nat) : natOfDigits (List.replicate n '0') = 0 := by
  induction n with
  | zero => rfl
  | succ n ih =>
    rw [List.replicate_succ, natOfDigits_cons, ih]
    simp [digitValue]

theorem isDigit_of_mem_padded {width n : Nat} {c : Char} (member : c ∈ padded width n) :
    isDigit c = true := by
  rcases List.mem_append.mp member with zero | digit
  · rw [List.eq_of_mem_replicate zero]
    rfl
  · exact isDigit_of_mem_digits digit

theorem padded_length {width n : Nat} (positive : 0 < width) (fits : n < 10 ^ width) :
    (padded width n).length = width := by
  have short : (digits n).length ≤ width :=
    (Nat.length_toDigits_le_iff (by decide) positive).mpr fits
  rw [padded, List.length_append, List.length_replicate]
  omega

theorem natOfDigits_padded (width n : Nat) : natOfDigits (padded width n) = n := by
  rw [padded, natOfDigits_append, natOfDigits_zeros, natOfDigits_digits, Nat.zero_mul, Nat.zero_add]

/-- What is dropped of the end are zeros. -/
theorem dropWhile_zero_append (cs : List Char) :
    ∃ n, cs = (cs.reverse.dropWhile (· == '0')).reverse ++ List.replicate n '0' := by
  have zeros : cs.reverse.takeWhile (· == '0') =
      List.replicate (cs.reverse.takeWhile (· == '0')).length '0' :=
    List.eq_replicate_iff.mpr ⟨rfl, fun c member => by
      simpa using List.all_eq_true.mp List.all_takeWhile c member⟩
  refine ⟨(cs.reverse.takeWhile (· == '0')).length, ?_⟩
  calc
    cs = (cs.reverse.takeWhile (· == '0') ++ cs.reverse.dropWhile (· == '0')).reverse := by
      rw [List.takeWhile_append_dropWhile, List.reverse_reverse]
    _ = _ := by rw [List.reverse_append, zeros, List.reverse_replicate, List.length_replicate]

/-! ## Blanks -/

theorem isBlank_of_isDigit {c : Char} (digit : isDigit c = true) : isBlank c = false := by
  have range := toNat_of_isDigit digit
  simp only [isBlank, Bool.or_eq_false_iff, Bool.and_eq_false_iff, decide_eq_false_iff_not,
    beq_eq_false_iff_ne]
  omega

theorem dropWhile_isBlank {cs : List Char} (all : ∀ c ∈ cs, isBlank c = false) :
    cs.dropWhile isBlank = cs := by
  cases cs with
  | nil => rfl
  | cons c cs => exact List.dropWhile_cons_of_neg (by simp [all c (by simp)])

/-- Trimming keeps what has no blanks. -/
theorem trimChars_of_unblank {cs : List Char} (all : ∀ c ∈ cs, isBlank c = false) :
    trimChars cs = cs := by
  have back : ∀ c ∈ cs.reverse, isBlank c = false := fun c member => all c (List.mem_reverse.mp member)
  rw [trimChars, trimEnd, dropWhile_isBlank all, dropWhile_isBlank back, List.reverse_reverse]

/-- A visible character is not among blanks. -/
theorem notMem_of_blanks {gap : List Char} {c : Char} (blanks : ∀ d ∈ gap, isBlank d = true)
    (visible : isBlank c = false) : c ∉ gap := fun member =>
  Bool.false_ne_true (visible.symm.trans (blanks c member))

/-- What is trimmed off are blanks at both ends. -/
theorem exists_around_trimChars (cs : List Char) : ∃ lead trail, cs = lead ++ trimChars cs ++ trail ∧
    (∀ c ∈ lead, isBlank c = true) ∧ ∀ c ∈ trail, isBlank c = true := by
  refine ⟨cs.takeWhile isBlank, ((cs.dropWhile isBlank).reverse.takeWhile isBlank).reverse, ?_,
    fun c member => List.all_eq_true.mp List.all_takeWhile c member, fun c member => ?_⟩
  · rw [trimChars, trimEnd, List.append_assoc, ← List.reverse_append, List.takeWhile_append_dropWhile,
      List.reverse_reverse, List.takeWhile_append_dropWhile]
  · exact List.all_eq_true.mp List.all_takeWhile c (List.mem_reverse.mp member)

end TokenDesk.Text
