import Mathlib.Algebra.Group.Nat.Defs
import TokenDesk.Json.Double

/-!
# Rounding to doubles

Rounding is monotone, and a fraction that is at most the largest double rounds to a finite one. So the
quotient of a finite double and a power of ten is finite, and whether a product is can be told from a
larger one.
-/

set_option autoImplicit false

namespace TokenDesk.Json.Double

open TokenDesk.Text

theorem twoTo_eq (n : Nat) : twoTo n = 2 ^ n := rfl

theorem tenTo_eq (n : Nat) : tenTo n = 10 ^ n := rfl

theorem twoTo_mono {n more : Nat} (le : n ≤ more) : twoTo n ≤ twoTo more :=
  Nat.pow_le_pow_right (by decide) le

theorem tenTo_mono {n more : Nat} (le : n ≤ more) : tenTo n ≤ tenTo more :=
  Nat.pow_le_pow_right (by decide) le

theorem twoTo_add (n more : Nat) : twoTo (n + more) = twoTo n * twoTo more :=
  Nat.pow_add _ _ _

/-! ## Quotients -/

/-- A remainder below the half is dropped and one above it adds one; a half goes to the even neighbour. -/
theorem roundQuotient_cases (num den : Nat) :
    (roundQuotient num den = num / den ∧
      (2 * (num % den) < den ∨ 2 * (num % den) = den ∧ num / den % 2 = 0)) ∨
    (roundQuotient num den = num / den + 1 ∧
      (den < 2 * (num % den) ∨ 2 * (num % den) = den ∧ num / den % 2 ≠ 0)) := by
  unfold roundQuotient
  dsimp only
  split
  case isTrue below => exact .inl ⟨rfl, .inl below⟩
  case isFalse reaches =>
    split
    case isTrue above => exact .inr ⟨rfl, .inl above⟩
    case isFalse half =>
      have middle : 2 * (num % den) = den := by omega
      split
      case isTrue even => exact .inl ⟨rfl, .inr ⟨middle, even⟩⟩
      case isFalse odd => exact .inr ⟨rfl, .inr ⟨middle, odd⟩⟩

theorem div_le_roundQuotient (num den : Nat) : num / den ≤ roundQuotient num den := by
  rcases roundQuotient_cases num den with ⟨down, -⟩ | ⟨up, -⟩ <;> omega

theorem roundQuotient_le_succ (num den : Nat) : roundQuotient num den ≤ num / den + 1 := by
  rcases roundQuotient_cases num den with ⟨down, -⟩ | ⟨up, -⟩ <;> omega

theorem roundQuotient_mono {num more : Nat} (den : Nat) (le : num ≤ more) :
    roundQuotient num den ≤ roundQuotient more den := by
  have quotients : num / den ≤ more / den := Nat.div_le_div_right le
  rcases Nat.lt_or_ge (num / den) (more / den) with less | notLess
  · calc
      roundQuotient num den ≤ num / den + 1 := roundQuotient_le_succ num den
      _ ≤ more / den := less
      _ ≤ roundQuotient more den := div_le_roundQuotient more den
  · have same : num / den = more / den := by omega
    have remainders : num % den ≤ more % den := by
      have first := Nat.div_add_mod num den
      have second := Nat.div_add_mod more den
      rw [same] at first
      omega
    rcases roundQuotient_cases num den with ⟨down, -⟩ | ⟨up, above⟩
    · rw [down, same]
      exact div_le_roundQuotient more den
    · -- where the smaller remainder adds one, so does the larger
      rcases roundQuotient_cases more den with ⟨-, below⟩ | ⟨also, -⟩ <;> omega

theorem le_roundQuotient {num den bound : Nat} (positive : 0 < den) (le : den * bound ≤ num) :
    bound ≤ roundQuotient num den := by
  have quotient : bound ≤ num / den := (Nat.le_div_iff_mul_le positive).mpr (by rwa [Nat.mul_comm])
  exact Nat.le_trans quotient (div_le_roundQuotient num den)

theorem roundQuotient_le {num den bound : Nat} (positive : 0 < den) (le : num ≤ den * bound) :
    roundQuotient num den ≤ bound := by
  have exact_ : roundQuotient (den * bound) den = bound := by
    unfold roundQuotient
    dsimp only
    rw [Nat.mul_mod_right, Nat.mul_div_cancel_left _ positive, if_pos (by omega)]
  exact exact_ ▸ roundQuotient_mono den le

/-! ## The place of the last bit -/

/-- The exponent that rounding gives its result, counted from that of the smallest double. -/
def shift (num den : Nat) : Nat :=
  let guess := num.log2 - den.log2 - 52
  if num < den * twoTo (guess + 52) then guess - 1 else guess

theorem roundScaled_eq (num den : Nat) :
    roundScaled num den = min infinity
      (shift num den * twoTo 52 + roundQuotient num (den * twoTo (shift num den))) := rfl

/-- The significand has 53 bits, fewer only at the smallest exponent. -/
theorem shift_spec (num : Nat) {den : Nat} (positive : 0 < den) :
    num < den * 2 ^ (shift num den + 53) ∧
      (shift num den = 0 ∨ den * 2 ^ (shift num den + 52) ≤ num) := by
  have denLow : 2 ^ den.log2 ≤ den := Nat.log2_self_le (by omega)
  have denHigh : den < 2 ^ (den.log2 + 1) := Nat.lt_log2_self
  have numHigh : num < 2 ^ (num.log2 + 1) := Nat.lt_log2_self
  generalize guessed : num.log2 - den.log2 - 52 = guess
  have above : num < den * 2 ^ (guess + 53) := by
    calc
      num < 2 ^ (num.log2 + 1) := numHigh
      _ ≤ 2 ^ (den.log2 + (guess + 53)) := Nat.pow_le_pow_right (by omega) (by omega)
      _ = 2 ^ den.log2 * 2 ^ (guess + 53) := Nat.pow_add _ _ _
      _ ≤ den * 2 ^ (guess + 53) := Nat.mul_le_mul_right _ denLow
  have place : shift num den = if num < den * 2 ^ (guess + 52) then guess - 1 else guess := by
    unfold shift
    rw [guessed]
    rfl
  rw [place]
  split
  case isFalse reaches => exact ⟨above, .inr (by omega)⟩
  case isTrue below =>
    cases guess with
    | zero => exact ⟨above, .inl rfl⟩
    | succ guess =>
      refine ⟨?_, .inr ?_⟩
      · have same : guess + 1 - 1 + 53 = guess + 1 + 52 := by omega
        rw [same]
        exact below
      · have numLow : 2 ^ num.log2 ≤ num := by
          apply Nat.log2_self_le
          rintro rfl
          simp at guessed
        calc
          den * 2 ^ (guess + 1 - 1 + 52) ≤ 2 ^ (den.log2 + 1) * 2 ^ (guess + 1 - 1 + 52) :=
            Nat.mul_le_mul_right _ (by omega)
          _ = 2 ^ num.log2 := by
            have exponents : den.log2 + 1 + (guess + 1 - 1 + 52) = num.log2 := by omega
            rw [← Nat.pow_add, exponents]
          _ ≤ num := numLow

theorem shift_mono {num more den : Nat} (positive : 0 < den) (le : num ≤ more) :
    shift num den ≤ shift more den := by
  rcases Nat.lt_or_ge (shift more den) (shift num den) with less | enough
  · obtain ⟨above, -⟩ := shift_spec more positive
    obtain ⟨-, zero | below⟩ := shift_spec num positive
    · omega
    · have powers : 2 ^ (shift more den + 53) ≤ 2 ^ (shift num den + 52) :=
        Nat.pow_le_pow_right (by omega) (by omega)
      have scaled := Nat.mul_le_mul_left den powers
      omega
  · exact enough

/-- The rounded significand. -/
theorem roundQuotient_shift (num : Nat) {den : Nat} (positive : 0 < den) :
    roundQuotient num (den * 2 ^ shift num den) ≤ 2 ^ 53 ∧
      (shift num den = 0 ∨ 2 ^ 52 ≤ roundQuotient num (den * 2 ^ shift num den)) := by
  obtain ⟨above, below⟩ := shift_spec num positive
  have unit : 0 < den * 2 ^ shift num den := Nat.mul_pos positive (Nat.two_pow_pos _)
  refine ⟨roundQuotient_le unit ?_, below.imp id fun reaches => le_roundQuotient unit ?_⟩
  · rw [Nat.mul_assoc, ← Nat.pow_add]
    exact Nat.le_of_lt above
  · rw [Nat.mul_assoc, ← Nat.pow_add]
    exact reaches

/-- A larger fraction does not round to a smaller double. -/
theorem roundScaled_mono {num more den : Nat} (positive : 0 < den) (le : num ≤ more) :
    roundScaled num den ≤ roundScaled more den := by
  rw [roundScaled_eq, roundScaled_eq, twoTo_eq, twoTo_eq, twoTo_eq]
  suffices inner : shift num den * 2 ^ 52 + roundQuotient num (den * 2 ^ shift num den) ≤
      shift more den * 2 ^ 52 + roundQuotient more (den * 2 ^ shift more den) by omega
  rcases Nat.lt_or_eq_of_le (shift_mono positive le) with less | same
  · obtain ⟨high, -⟩ := roundQuotient_shift num positive
    obtain ⟨-, zero | low⟩ := roundQuotient_shift more positive
    · omega
    · have steps : (shift num den + 1) * 2 ^ 52 ≤ shift more den * 2 ^ 52 :=
        Nat.mul_le_mul_right _ less
      omega
  · rw [same]
    exact Nat.add_le_add_left (roundQuotient_mono _ le) _

/-! ## Finite doubles -/

/-- A double that is no infinity. -/
def Finite (d : Double) : Prop :=
  d.magnitude < infinity

/-- The value in units of the smallest double. -/
def value (d : Double) : Nat :=
  d.mantissa * 2 ^ d.exponent

/-- The highest exponent of a finite double. -/
def topExponent : Nat := 2045

/-- The value of the largest finite double. -/
def largest : Nat :=
  (2 ^ 53 - 1) * 2 ^ topExponent

theorem mantissa_lt (d : Double) : d.mantissa < 2 ^ 53 := by
  unfold mantissa
  rw [twoTo_eq]
  split <;> omega

theorem Finite.exponent_le {d : Double} (finite : d.Finite) : d.exponent ≤ topExponent := by
  unfold Finite infinity at finite
  unfold exponent topExponent
  rw [twoTo_eq] at *
  omega

theorem Finite.value_le {d : Double} (finite : d.Finite) : d.value ≤ largest :=
  Nat.mul_le_mul (Nat.le_pred_of_lt d.mantissa_lt)
    (Nat.pow_le_pow_right (by omega) finite.exponent_le)

theorem value_mono {d e : Double} (le : d.magnitude ≤ e.magnitude) : d.value ≤ e.value := by
  have exponents : d.exponent ≤ e.exponent :=
    Nat.sub_le_sub_right (Nat.div_le_div_right le) 1
  unfold value
  rcases Nat.lt_or_eq_of_le exponents with less | same
  · -- the exponent of the larger is positive, so its significand has 53 bits
    have lead : 2 ^ 52 ≤ e.mantissa := by
      unfold exponent at less
      unfold mantissa
      rw [twoTo_eq] at *
      split <;> omega
    calc
      d.mantissa * 2 ^ d.exponent ≤ 2 ^ 53 * 2 ^ d.exponent :=
        Nat.mul_le_mul_right _ (Nat.le_of_lt d.mantissa_lt)
      _ = 2 ^ 52 * 2 ^ (d.exponent + 1) := by
        rw [Nat.pow_succ]
        omega
      _ ≤ e.mantissa * 2 ^ e.exponent :=
        Nat.mul_le_mul lead (Nat.pow_le_pow_right (by omega) less)
  · rw [same]
    refine Nat.mul_le_mul_right _ ?_
    unfold exponent at same
    unfold mantissa
    rw [twoTo_eq] at *
    split
    · split <;> omega
    · split <;> omega

/-- What is at most the largest double rounds to a finite one. -/
theorem roundScaled_lt {num den : Nat} (positive : 0 < den) (le : num ≤ den * largest) :
    roundScaled num den < infinity := by
  obtain ⟨above, below⟩ := shift_spec num positive
  obtain ⟨high, -⟩ := roundQuotient_shift num positive
  have place : shift num den ≤ topExponent := by
    rcases below with zero | reaches
    · omega
    · have bound : largest < 2 ^ (topExponent + 53) := by decide +kernel
      have small : den * 2 ^ (shift num den + 52) < den * 2 ^ (topExponent + 53) :=
        calc
          den * 2 ^ (shift num den + 52) ≤ den * largest := Nat.le_trans reaches le
          _ < den * 2 ^ (topExponent + 53) := Nat.mul_lt_mul_of_pos_left bound positive
      have exponents := (Nat.pow_lt_pow_iff_right (by omega)).mp (Nat.lt_of_mul_lt_mul_left small)
      omega
  rw [roundScaled_eq, twoTo_eq, twoTo_eq]
  refine Nat.lt_of_le_of_lt (Nat.min_le_right _ _) ?_
  have top : topExponent = 2045 := rfl
  unfold infinity
  rw [twoTo_eq]
  rcases Nat.lt_or_eq_of_le place with less | same
  · omega
  · have last : roundQuotient num (den * 2 ^ topExponent) ≤ 2 ^ 53 - 1 := by
      refine roundQuotient_le (Nat.mul_pos positive (Nat.two_pow_pos _)) ?_
      rw [Nat.mul_assoc, Nat.mul_comm (2 ^ topExponent)]
      exact le
    rw [same]
    omega

end TokenDesk.Json.Double
