import Mathlib.Data.Nat.Digits.Defs
import TokenDesk.Proofs.Chain.Amount

/-!
# Texts that are amounts

A text is read as an amount just if it is a decimal number whose base units are whole and fit a word; then
these are the amount. The zeros that it is written with do not count, however many they are. Every other
text is refused, unless its places are more than a fraction is filled up to (`parse_exact`).
-/

set_option autoImplicit false

namespace TokenDesk.Amount

open TokenDesk.Text

/-! ## Decimal numbers -/

/-- Digits with at most one point, at least one of them. -/
structure Decimal (cs whole fraction : List Char) : Prop where
  form : cs = whole ++ '.' :: fraction ∨ cs = whole ∧ fraction = []
  numeric : ∀ c ∈ whole ++ fraction, isDigit c = true
  some_ : whole ++ fraction ≠ []

/-- What the digits behind a point denote: each a tenth of the place before it. -/
def tenths : List Char → ℚ
  | [] => 0
  | c :: cs => (digitValue c + tenths cs) / 10

/-- The number that digits around a point denote. -/
def denoted (whole fraction : List Char) : ℚ :=
  (Nat.ofDigits 10 (whole.map digitValue).reverse : Nat) + tenths fraction

variable {cs whole fraction : List Char} {input : String} {d : Nat}

theorem ofDigits_eq (cs : List Char) :
    Nat.ofDigits 10 (cs.map digitValue).reverse = natOfDigits cs := by
  induction cs with
  | nil => rfl
  | cons c cs ih =>
    rw [List.map_cons, List.reverse_cons, Nat.ofDigits_append, ih, natOfDigits_cons,
      Nat.ofDigits_singleton, List.length_reverse, List.length_map, Nat.mul_comm, Nat.add_comm]

theorem tenths_eq (cs : List Char) : tenths cs = natOfDigits cs / 10 ^ cs.length := by
  induction cs with
  | nil => simp [tenths, natOfDigits]
  | cons c cs ih =>
    rw [tenths, ih, natOfDigits_cons, List.length_cons, pow_succ]
    push_cast
    field_simp

/-- In the unit of enough places a decimal number is its digits with zeros behind them. -/
theorem denoted_mul (places : fraction.length ≤ d) : denoted whole fraction * 10 ^ d =
    (natOfDigits (whole ++ fraction) * 10 ^ (d - fraction.length) : Nat) := by
  rw [denoted, ofDigits_eq, tenths_eq, value_of_units places rfl]
  field_simp

/-! ## The parts of a text -/

theorem Decimal.parts (decimal : Decimal cs whole fraction) :
    (splitFirst? '.' cs).getD (cs, []) = (whole, fraction) := by
  have pointless : '.' ∉ whole := by
    intro member
    have digit := decimal.numeric '.' (List.mem_append_left _ member)
    cases digit
  rcases decimal.form with rfl | ⟨rfl, rfl⟩
  · rw [splitFirst?_eq_some_iff.mpr ⟨rfl, pointless⟩, Option.getD_some]
  · rw [splitFirst?_eq_none_iff.mpr pointless, Option.getD_none]

theorem decimal_of_parts (parts : (splitFirst? '.' cs).getD (cs, []) = (whole, fraction))
    (numeric : ∀ c ∈ whole ++ fraction, isDigit c = true) (some_ : whole ++ fraction ≠ []) :
    Decimal cs whole fraction := by
  refine ⟨?_, numeric, some_⟩
  cases split : splitFirst? '.' cs with
  | none =>
    rw [split] at parts
    cases parts
    exact .inr ⟨rfl, rfl⟩
  | some found =>
    rw [split, Option.getD_some] at parts
    subst parts
    exact .inl (splitFirst?_eq_some_iff.mp split).1

/-- A text has one decimal reading at most. -/
theorem Decimal.unique {whole' fraction' : List Char} (decimal : Decimal cs whole fraction)
    (other : Decimal cs whole' fraction') : whole' = whole ∧ fraction' = fraction := by
  have same := other.parts.symm.trans decimal.parts
  exact ⟨congrArg Prod.fst same, congrArg Prod.snd same⟩

theorem Decimal.exists_iff (decimal : Decimal cs whole fraction) {P : List Char → List Char → Prop} :
    (∃ whole fraction, Decimal cs whole fraction ∧ P whole fraction) ↔ P whole fraction := by
  constructor
  · rintro ⟨whole', fraction', other, holds⟩
    obtain ⟨rfl, rfl⟩ := decimal.unique other
    exact holds
  · exact fun holds => ⟨whole, fraction, decimal, holds⟩

/-! ## The reading -/

/-- How a decimal number is read. -/
theorem parse_of_decimal (decimal : Decimal (trimChars input.toList) whole fraction) (d : Nat) :
    parse input d =
      if d < fraction.length then .failed (.tooPrecise (String.ofList (trimChars input.toList)) d)
      else if maxFilled < d then .aborted
      else .ofOption (.outOfRange (String.ofList (trimChars input.toList)))
        (scale? (natOfDigits (whole ++ fraction)) (d - fraction.length)) := by
  have numeric : (whole ++ fraction).all isDigit = true := List.all_eq_true.mpr decimal.numeric
  have there : (whole.isEmpty && fraction.isEmpty) = false := by
    have some_ := decimal.some_
    cases whole <;> cases fraction <;> simp_all
  unfold parse
  dsimp only
  rw [decimal.parts]
  dsimp only
  rw [there, numeric, ofDigits?_filled]
  simp

/-- A text that is no decimal number is refused. -/
theorem parse_of_no_decimal (none_ : ∀ whole fraction, ¬ Decimal (trimChars input.toList) whole fraction)
    (d : Nat) : ∃ e, parse input d = .failed e := by
  obtain ⟨⟨whole, fraction⟩, parts⟩ :
      ∃ parts, (splitFirst? '.' (trimChars input.toList)).getD (trimChars input.toList, []) = parts :=
    ⟨_, rfl⟩
  unfold parse
  dsimp only
  rw [parts]
  dsimp only
  split
  · exact ⟨_, rfl⟩
  case isFalse there =>
    rw [if_pos]
    · exact ⟨_, rfl⟩
    · rw [Bool.not_eq_true', ← Bool.not_eq_true, List.all_eq_true]
      intro numeric
      refine none_ whole fraction (decimal_of_parts parts numeric fun empty => there ?_)
      obtain ⟨rfl, rfl⟩ := List.append_eq_nil_iff.mp empty
      rfl

/-! ## What is accepted -/

/-- Whether the base units of a decimal number fit a word. -/
theorem denoted_le_iff (places : fraction.length ≤ d) : denoted whole fraction * 10 ^ d ≤ 2 ^ 256 - 1 ↔
    natOfDigits (whole ++ fraction) * tenTo (d - fraction.length) < twoTo 256 := by
  have top : (2 ^ 256 - 1 : ℚ) = (2 ^ 256 - 1 : Nat) := by norm_num
  rw [denoted_mul places, top, Nat.cast_le]
  exact Nat.le_sub_one_iff_lt (Nat.pow_pos (by decide))

theorem parse_eq_ok_iff (decimal : Decimal (trimChars input.toList) whole fraction) {a : Amount} :
    parse input d = .ok a ↔ d ≤ maxFilled ∧ fraction.length ≤ d ∧
      a.units = natOfDigits (whole ++ fraction) * tenTo (d - fraction.length) := by
  rw [parse_of_decimal decimal, ← scale?_eq_some_iff]
  split
  case isTrue short => simp [Nat.not_le_of_lt short]
  case isFalse places =>
    split
    case isTrue many => simp [Nat.not_le_of_lt many]
    case isFalse few =>
      rw [and_iff_right (Nat.le_of_not_lt few), and_iff_right (Nat.le_of_not_lt places)]
      cases scale? (natOfDigits (whole ++ fraction)) (d - fraction.length) <;> simp [Ending.ofOption]

theorem parse_eq_aborted_iff (decimal : Decimal (trimChars input.toList) whole fraction) :
    parse input d = .aborted ↔ maxFilled < d ∧ fraction.length ≤ d := by
  rw [parse_of_decimal decimal]
  split
  case isTrue short => simp [Nat.not_le_of_lt short]
  case isFalse places =>
    rw [and_iff_left (Nat.le_of_not_lt places)]
    split
    case isTrue many => simp [many]
    case isFalse few =>
      cases scale? (natOfDigits (whole ++ fraction)) (d - fraction.length) <;>
        simp [Ending.ofOption, few]

/-- Some amount is read just if the base units fit a word and the places can be filled up. -/
theorem exists_parse_eq_ok_iff (decimal : Decimal (trimChars input.toList) whole fraction) :
    (∃ a, parse input d = .ok a) ↔ d ≤ maxFilled ∧ fraction.length ≤ d ∧
      denoted whole fraction * 10 ^ d ≤ 2 ^ 256 - 1 := by
  constructor
  · rintro ⟨a, success⟩
    obtain ⟨few, places, units⟩ := (parse_eq_ok_iff decimal).mp success
    exact ⟨few, places, (denoted_le_iff places).mpr (units ▸ a.units_lt)⟩
  · rintro ⟨few, places, fits⟩
    exact ⟨⟨_, (denoted_le_iff places).mp fits⟩, (parse_eq_ok_iff decimal).mpr ⟨few, places, rfl⟩⟩

/-- It is refused just if its digits behind the point are too many, or its base units do not fit a word. -/
theorem exists_parse_eq_failed_iff (decimal : Decimal (trimChars input.toList) whole fraction) :
    (∃ e, parse input d = .failed e) ↔ ¬ (fraction.length ≤ d ∧
      (maxFilled < d ∨ denoted whole fraction * 10 ^ d ≤ 2 ^ 256 - 1)) := by
  have either {ending : Ending Error Amount} :
      (∃ e, ending = .failed e) ↔ ¬ (∃ a, ending = .ok a) ∧ ending ≠ .aborted := by
    cases ending <;> simp
  rw [either, exists_parse_eq_ok_iff decimal, Ne, parse_eq_aborted_iff decimal]
  generalize (denoted whole fraction * 10 ^ d ≤ 2 ^ 256 - 1) = fits
  rcases Nat.lt_or_ge maxFilled d with many | few
  · simp [many, Nat.not_le_of_lt many]
  · simp [few, Nat.not_lt_of_le few]

/-- A text is read as an amount just if it is a decimal number with no more digits behind the point than
there are places, its base units fit a word and the places are few enough to be filled up; the amount is
these units. It aborts just where only the places are too many, and fails in all other cases. -/
theorem parse_exact (input : String) (d : Nat) :
    ((∃ a, parse input d = .ok a) ↔ ∃ whole fraction,
        Decimal (trimChars input.toList) whole fraction ∧ d ≤ maxFilled ∧ fraction.length ≤ d ∧
          denoted whole fraction * 10 ^ d ≤ 2 ^ 256 - 1) ∧
      (∀ a whole fraction, parse input d = .ok a →
        Decimal (trimChars input.toList) whole fraction →
          a.units = denoted whole fraction * 10 ^ d) ∧
      ((∃ e, parse input d = .failed e) ↔ ¬ ∃ whole fraction,
        Decimal (trimChars input.toList) whole fraction ∧ fraction.length ≤ d ∧
          (maxFilled < d ∨ denoted whole fraction * 10 ^ d ≤ 2 ^ 256 - 1)) ∧
      (parse input d = .aborted ↔ ∃ whole fraction,
        Decimal (trimChars input.toList) whole fraction ∧ maxFilled < d ∧ fraction.length ≤ d) := by
  refine and_left_comm.mp ⟨fun a whole fraction success decimal => ?_, ?_⟩
  · obtain ⟨-, places, units⟩ := (parse_eq_ok_iff decimal).mp success
    rw [units, denoted_mul places]
    rfl
  by_cases some_ : ∃ whole fraction, Decimal (trimChars input.toList) whole fraction
  · obtain ⟨whole, fraction, decimal⟩ := some_
    rw [decimal.exists_iff, decimal.exists_iff, decimal.exists_iff]
    exact ⟨exists_parse_eq_ok_iff decimal, exists_parse_eq_failed_iff decimal,
      parse_eq_aborted_iff decimal⟩
  · have none_ : ∀ whole fraction, ¬ Decimal (trimChars input.toList) whole fraction :=
      fun whole fraction decimal => some_ ⟨whole, fraction, decimal⟩
    obtain ⟨e, failed⟩ := parse_of_no_decimal none_ d
    simp [failed, none_]

theorem decimal_zero : Decimal (trimChars "0".toList) ['0'] [] :=
  ⟨.inr ⟨by decide, rfl⟩, List.forall_mem_singleton.mpr rfl, by decide⟩

/-- A single zero is read with however many places, as long as they can be filled up. -/
theorem zero_of_many_places : parse "0" 78 = .ok ⟨0, twoTo_pos 256⟩ ∧ parse "0" 65536 = .aborted ∧
    ¬ ∃ whole fraction, Decimal (trimChars "0".toList) whole fraction ∧
      max 1 whole.length + 78 ≤ 78 := by
  refine ⟨(parse_eq_ok_iff decimal_zero).mpr ⟨by decide, by decide, rfl⟩,
    (parse_eq_aborted_iff decimal_zero).mpr ⟨by decide, by decide⟩, ?_⟩
  rintro ⟨whole, fraction, -, short⟩
  omega

end TokenDesk.Amount
