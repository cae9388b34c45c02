import TokenDesk.Proofs.Json.ReadBack
import TokenDesk.Proofs.Json.Shortest

/-!
# Doubles that are read

No text is read as an infinity, and what is printed for a finite double is never too large to be read
again, although reading may round it. So every value that was read can be written and read again
(`readable_of_readAsWritten`).
-/

set_option autoImplicit false

namespace TokenDesk.Json

open TokenDesk.Text

namespace Double

/-! ## Finite results -/

theorem ofNat_finite {n : Nat} (fits : n < UInt64.size) : (ofNat n).Finite := by
  refine roundScaled_lt (by decide) ?_
  have most : UInt64.size * twoTo 1074 ≤ 1 * largest := by decide +kernel
  exact Nat.le_trans (Nat.mul_le_mul_right _ (Nat.le_of_lt fits)) most

theorem ofNat_mono {n more : Nat} (le : n ≤ more) : (ofNat n).value ≤ (ofNat more).value :=
  value_mono (roundScaled_mono (by decide) (Nat.mul_le_mul_right _ le))

/-- A power of ten is one at least, also when it is rounded. -/
theorem one_le_power (places : Nat) : twoTo 1074 ≤ (ofNat (tenTo places)).value := by
  have one : twoTo 1074 = (ofNat 1).value := by decide +kernel
  rw [one]
  exact ofNat_mono (tenTo_pos places)

theorem Finite.overPower {d : Double} (finite : d.Finite) (places : Nat) :
    (d.overPower places).Finite := by
  have unit := one_le_power places
  refine roundScaled_lt (Nat.lt_of_lt_of_le (twoTo_pos 1074) unit) ?_
  change d.value * twoTo 1074 ≤ (ofNat (tenTo places)).value * largest
  rw [Nat.mul_comm (ofNat (tenTo places)).value]
  exact Nat.mul_le_mul finite.value_le unit

theorem finite_of_not_isInfinite {d : Double} (small : d.isInfinite = false) : d.Finite := by
  simpa [isInfinite, Finite] using small

theorem scaled?_finite {fuel : Nat} {d r : Double} {e : Int} (finite : d.Finite)
    (success : scaled? fuel d e = some r) : r.Finite := by
  induction fuel generalizing d e with
  | zero =>
    cases success
    exact finite
  | succ fuel ih =>
    unfold scaled? at success
    split at success
    · split at success
      · dsimp only at success
        split at success
        · cases success
        case isFalse small =>
          cases success
          exact finite_of_not_isInfinite (by simpa using small)
      · cases success
        exact finite.overPower _
    · split at success
      · cases success
        exact finite
      · split at success
        · cases success
        · exact ih (finite.overPower _) success

end Double

theorem significand_lt {n : Nat} (fits : n < UInt64.size) (cs : List Char) :
    (significand n cs).1 < UInt64.size := by
  induction cs generalizing n with
  | nil => exact fits
  | cons c cs ih =>
    unfold significand
    dsimp only
    split
    case isTrue more => exact ih more
    case isFalse => exact fits

theorem withFraction_lt {n : Nat} (fits : n < UInt64.size) (e : Int) (cs : List Char) :
    (withFraction n e cs).1 < UInt64.size := by
  induction cs generalizing n e with
  | nil => exact fits
  | cons c cs ih =>
    unfold withFraction
    dsimp only
    split
    case isTrue more => exact ih more _
    case isFalse => exact fits

/-- A number is read as a finite double, if as any one. -/
theorem Numeral.double?_finite {n : Numeral} {d : Double} (success : n.double? = some d) :
    d.Finite := by
  unfold Numeral.double? at success
  dsimp only at success
  have lead := significand_lt (n := 0) (by decide) n.whole
  have fits := withFraction_lt lead ((significand 0 n.whole).2 : Int) (n.fraction?.getD [])
  have scaled {e : Int} (scaling : (scaled? 10 (Double.ofNat
      (withFraction (significand 0 n.whole).1 ((significand 0 n.whole).2 : Int)
        (n.fraction?.getD [])).1) e).map (fun d => { d with negative := n.negative }) = some d) :
      d.Finite := by
    obtain ⟨r, found, rfl⟩ := Option.map_eq_some_iff.mp scaling
    have finite : r.Finite := Double.scaled?_finite (Double.ofNat_finite fits) found
    exact finite
  split at success
  · exact scaled success
  · split at success
    · split at success
      · cases success
      · cases success
        have zero : 0 < Double.infinity := by decide
        exact zero
    · exact scaled success

/-! ## Numbers that are read again -/

/-- Taking a digit into the significand. -/
theorem push_digit (n : Nat) (c : Char) (cs : List Char) :
    (n * 10 + digitValue c) * 10 ^ cs.length + natOfDigits cs =
      n * 10 ^ (c :: cs).length + natOfDigits (c :: cs) := by
  rw [natOfDigits_cons, List.length_cons, Nat.pow_succ', Nat.add_mul, Nat.mul_assoc, Nat.add_assoc]

theorem lt_of_pushed {n more bound : Nat} {places : Nat} (fits : n * 10 ^ places + more < bound) :
    n < bound := by
  have grows : n ≤ n * 10 ^ places := Nat.le_mul_of_pos_right n (Nat.pow_pos (by decide))
  omega

theorem significand_of_fits {n : Nat} (cs : List Char)
    (fits : n * 10 ^ cs.length + natOfDigits cs < UInt64.size) :
    significand n cs = (n * 10 ^ cs.length + natOfDigits cs, 0) := by
  induction cs generalizing n with
  | nil => simp [significand, natOfDigits]
  | cons c cs ih =>
    rw [← push_digit] at fits ⊢
    have next := lt_of_pushed fits
    rw [significand, if_pos next, ih fits]

theorem withFraction_of_fits {n : Nat} {e : Int} {cs : List Char}
    (fits : n * 10 ^ cs.length + natOfDigits cs < UInt64.size) :
    withFraction n e cs = (n * 10 ^ cs.length + natOfDigits cs, e - cs.length) := by
  induction cs generalizing n e with
  | nil => simp [withFraction, natOfDigits]
  | cons c cs ih =>
    rw [← push_digit] at fits ⊢
    have next := lt_of_pushed fits
    have places : e - 1 - cs.length = e - (c :: cs).length := by
      rw [List.length_cons]
      omega
    rw [withFraction, if_pos next, ih fits, places]

theorem withFraction_le (n : Nat) (e : Int) (cs : List Char) : (withFraction n e cs).2 ≤ e := by
  induction cs generalizing n e with
  | nil => exact Int.le_refl _
  | cons c cs ih =>
    rw [withFraction]
    split
    · exact Int.le_trans (ih _ _) (by omega)
    · exact Int.le_refl _

namespace Double

theorem timesPower_magnitude (d : Double) (places : Nat) : (d.timesPower places).magnitude =
    roundScaled (d.value * (ofNat (tenTo places)).value) (twoTo 1074) := by
  unfold timesPower value
  dsimp only
  rw [twoTo_eq (_ + _), Nat.pow_add, Nat.mul_mul_mul_comm]

theorem timesPower_zero_finite {d : Double} (finite : d.Finite) : (d.timesPower 0).Finite := by
  have one : (ofNat (tenTo 0)).value = twoTo 1074 := by decide +kernel
  unfold Finite
  rw [timesPower_magnitude, one]
  refine roundScaled_lt (twoTo_pos _) ?_
  rw [Nat.mul_comm]
  exact Nat.mul_le_mul_left _ finite.value_le

theorem timesPower_finite_of_le {n more places zeros : Nat} (le : n ≤ more) (few : places ≤ zeros)
    (finite : ((ofNat more).timesPower zeros).Finite) : ((ofNat n).timesPower places).Finite := by
  unfold Finite at *
  rw [timesPower_magnitude] at *
  refine Nat.lt_of_le_of_lt (roundScaled_mono (twoTo_pos _) ?_) finite
  exact Nat.mul_le_mul (ofNat_mono le) (ofNat_mono (tenTo_mono few))

theorem Finite.isInfinite {d : Double} (finite : d.Finite) : d.isInfinite = false := by
  simpa [Double.isInfinite, Finite] using finite

/-- Scaling down is never too large. -/
theorem scaled?_isSome {fuel : Nat} {d : Double} {e : Int} (finite : d.Finite) (down : e ≤ 0) :
    (scaled? fuel d e).isSome := by
  induction fuel generalizing d e with
  | zero => rfl
  | succ fuel ih =>
    unfold scaled?
    split
    · split
      case isTrue up =>
        have zero : e.toNat = 0 := by omega
        dsimp only
        rw [zero, (timesPower_zero_finite finite).isInfinite]
        rfl
      case isFalse => rfl
    · split
      · rfl
      · rw [if_neg (by omega)]
        exact ih (finite.overPower _) (by omega)

end Double

/-- A number of few digits before the point, without a positive exponent, is not too large. -/
theorem Numeral.double?_isSome {n : Numeral} (all : ∀ c ∈ n.whole, isDigit c = true)
    (short : n.whole.length ≤ 19)
    (down : n.exponent? = none ∨ ∃ run, n.exponent? = some (true, run)) : n.double?.isSome := by
  have most : 10 ^ n.whole.length ≤ 10 ^ 19 := Nat.pow_le_pow_right (by decide) short
  have small : natOfDigits n.whole < UInt64.size :=
    Nat.lt_of_lt_of_le (natOfDigits_lt all) (Nat.le_trans most (by decide))
  have lead : significand 0 n.whole = (natOfDigits n.whole, 0) := by
    have whole := significand_of_fits (n := 0) n.whole (by omega)
    rwa [Nat.zero_mul, Nat.zero_add] at whole
  have fits := withFraction_lt small ((0 : Nat) : Int) (n.fraction?.getD [])
  have start := withFraction_le (natOfDigits n.whole) ((0 : Nat) : Int) (n.fraction?.getD [])
  have finite := Double.ofNat_finite fits
  unfold Numeral.double?
  dsimp only
  rw [lead]
  rcases down with none_ | ⟨run, some_⟩
  · rw [none_]
    dsimp only
    rw [Option.isSome_map]
    exact Double.scaled?_isSome finite start
  · rw [some_]
    dsimp only
    split
    · simp
    · rw [Option.isSome_map]
      refine Double.scaled?_isSome finite ?_
      unfold clampExponent
      simp only [if_true]
      omega

namespace Double

/-! ## Large doubles -/

/-- What a decimal that is printed for a finite double, the largest apart, does not exceed. -/
def limit : Nat :=
  (2 ^ 55 - 6) * twoTo 969

/-- The most that seventeen digits with so many zeros behind them denote below the limit. -/
def most (places : Nat) : Nat :=
  min (10 ^ 17 - 1) (limit / tenTo places)

/-- Whether scaling these up reaches no infinity. -/
def mostFits (places : Nat) : Bool :=
  !((ofNat (most places)).timesPower places).isInfinite

/-- Below ten to the 291 any seventeen digits may be scaled up, above only those within the limit. -/
theorem most_finite {places : Nat} (many : 291 ≤ places) (few : places ≤ 308) :
    ((ofNat (most places)).timesPower places).Finite := by
  have table : (List.range 18).all (fun more => mostFits (291 + more)) = true := by decide +kernel
  have entry := List.all_eq_true.mp table (places - 291) (List.mem_range.mpr (by omega))
  have same : 291 + (places - 291) = places := by omega
  rw [same] at entry
  exact finite_of_not_isInfinite ((Bool.not_eq_true' _).mp entry)

theorem timesPower_finite {n places : Nat} (positive : 0 < n) (short : n < 10 ^ 17)
    (small : n * tenTo places ≤ limit) :
    places ≤ 308 ∧ ((ofNat n).timesPower places).Finite := by
  have few : places ≤ 308 := by
    refine Nat.le_of_not_lt fun (many : 309 ≤ places) => ?_
    have large : limit < tenTo 309 := by decide +kernel
    have power := tenTo_mono many
    have grows : tenTo places ≤ n * tenTo places := Nat.le_mul_of_pos_left _ positive
    omega
  refine ⟨few, ?_⟩
  rcases Nat.lt_or_ge places 291 with less | many
  · have all : 10 ^ 17 - 1 = most 291 := by decide +kernel
    exact timesPower_finite_of_le (by omega) (Nat.le_of_lt less)
      (most_finite (Nat.le_refl 291) (by decide))
  · have bound : n ≤ most places :=
      Nat.le_min.mpr ⟨by omega, (Nat.le_div_iff_mul_le (tenTo_pos places)).mpr small⟩
    exact timesPower_finite_of_le bound (Nat.le_refl _) (most_finite many few)

/-- The upper middle of a double that is not the largest. -/
theorem upper_le {d : Double} (finite : d.magnitude + 1 < infinity) :
    (4 * d.mantissa + 2) * twoTo d.exponent ≤ (2 ^ 55 - 6) * twoTo topExponent := by
  have reach := Finite.exponent_le (d := d) (Nat.lt_of_succ_lt finite)
  have lead := d.mantissa_lt
  rcases Nat.lt_or_eq_of_le reach with less | same
  · have power := twoTo_mono less
    have double : twoTo (d.exponent + 1) = 2 * twoTo d.exponent := Nat.pow_succ'
    calc
      (4 * d.mantissa + 2) * twoTo d.exponent ≤ (2 ^ 55 - 2) * twoTo d.exponent :=
        Nat.mul_le_mul_right _ (by omega)
      _ ≤ (2 ^ 55 - 6) * twoTo (d.exponent + 1) := by omega
      _ ≤ (2 ^ 55 - 6) * twoTo topExponent := Nat.mul_le_mul_left _ power
  · rw [same]
    refine Nat.mul_le_mul_right _ ?_
    have last : d.mantissa + 1 < 2 ^ 53 := by
      unfold infinity at finite
      unfold exponent topExponent at same
      unfold mantissa
      rw [twoTo_eq] at *
      split <;> omega
    omega

theorem topExponent_split : twoTo topExponent = twoTo 969 * twoTo 1076 := by
  have sum : topExponent = 969 + 1076 := rfl
  rw [sum, twoTo_add]

/-- What is printed, written out to the zeros before its point. -/
theorem Printed.le_limit {d : Double} {c zeros places : Nat} {k : Int} {ds : List Char}
    (printed : Printed d c k) (trimmed : Trimmed c ds zeros) (finite : d.magnitude + 1 < infinity)
    (place : k + zeros = places) : natOfDigits ds * tenTo places ≤ limit := by
  have shifted := up_mul_pow k zeros
  have whole : down (k + zeros) = 1 := by
    unfold down
    have none_ : (-(k + zeros)).toNat = 0 := by omega
    rw [none_]
    rfl
  have tens : up (k + zeros) = tenTo places := by
    unfold up
    rw [place]
    rfl
  rw [whole, tens, Nat.mul_one] at shifted
  obtain ⟨-, high⟩ := printed.found.between
  have upper := upper_le finite
  have scaled : natOfDigits ds * tenTo places * twoTo 1076 * down k ≤
      (2 ^ 55 - 6) * twoTo topExponent * down k := by
    calc
      natOfDigits ds * tenTo places * twoTo 1076 * down k =
          natOfDigits ds * 10 ^ zeros * (up k * twoTo 1076) := by
        generalize twoTo 1076 = unit
        have product : natOfDigits ds * tenTo places * unit * down k =
            natOfDigits ds * unit * (tenTo places * down k) := by ac_rfl
        rw [product, ← shifted]
        ac_rfl
      _ ≤ (4 * d.mantissa + 2) * (twoTo d.exponent * down k) := by
        rw [trimmed.value]
        exact high
      _ ≤ (2 ^ 55 - 6) * twoTo topExponent * down k := by
        rw [← Nat.mul_assoc]
        exact Nat.mul_le_mul_right _ upper
  have reduced := Nat.le_of_mul_le_mul_right scaled (down_pos k)
  rw [topExponent_split, ← Nat.mul_assoc] at reduced
  unfold limit
  exact Nat.le_of_mul_le_mul_right reduced (twoTo_pos 1076)

/-- Seventeen digits at most. -/
theorem Printed.length_le {d : Double} {c zeros : Nat} {k : Int}
    (printed : Printed d c k) (trimmed : Trimmed c (dropZeros (digits c)) zeros) :
    (dropZeros (digits c)).length ≤ 17 := by
  rcases Nat.lt_or_eq_of_le printed.short with less | power
  · have short : (digits c).length ≤ 17 :=
      (Nat.length_toDigits_le_iff (by decide) (by decide)).mpr less
    have length := trimmed.length
    omega
  · rw [power]
    decide +kernel

/-- Digits with a positive exponent are scaled up once. -/
theorem double?_of_exponent {ds run : List Char} {negative : Bool} {places : Nat}
    (all : ∀ c ∈ ds, isDigit c = true) (some_ : 0 < ds.length) (length : ds.length ≤ 17)
    (exponent : natOfDigits run = places + (ds.length - 1)) (few : places ≤ 308)
    (finite : ((ofNat (natOfDigits ds)).timesPower places).Finite) :
    (⟨negative, ds.take 1, if ds.length ≤ 1 then none else some (ds.drop 1),
      some (false, run)⟩ : Numeral).double?.isSome := by
  have whole : natOfDigits (ds.take 1) * 10 ^ (ds.drop 1).length + natOfDigits (ds.drop 1) =
      natOfDigits ds := by
    rw [← natOfDigits_append, List.take_append_drop]
  have most : 10 ^ ds.length ≤ 10 ^ 17 := Nat.pow_le_pow_right (by decide) length
  have small : natOfDigits ds < UInt64.size :=
    Nat.lt_of_lt_of_le (natOfDigits_lt all) (Nat.le_trans most (by decide))
  have lead : significand 0 (ds.take 1) = (natOfDigits (ds.take 1), 0) := by
    have first := significand_of_fits (n := 0) (ds.take 1) (by
      have := lt_of_pushed (whole ▸ small)
      omega)
    rwa [Nat.zero_mul, Nat.zero_add] at first
  have fraction : (if ds.length ≤ 1 then none else some (ds.drop 1)).getD [] = ds.drop 1 := by
    split
    case isTrue one => rw [List.drop_eq_nil_of_le one]; rfl
    case isFalse => rfl
  have rest : withFraction (natOfDigits (ds.take 1)) ((0 : Nat) : Int) (ds.drop 1) =
      (natOfDigits ds, -((ds.length - 1 : Nat) : Int)) := by
    rw [withFraction_of_fits (by rw [whole]; exact small), whole, List.length_drop]
    simp
  unfold Numeral.double?
  dsimp only
  rw [lead, fraction, rest]
  dsimp only
  rw [if_neg (by unfold maxExponent; omega), Option.isSome_map]
  have sum : clampExponent (-((ds.length - 1 : Nat) : Int) + natOfDigits run) = places := by
    unfold clampExponent maxExponent
    omega
  simp only [Bool.false_eq_true, if_false, sum]
  unfold scaled?
  rw [if_pos (by simpa using few), if_pos (by omega)]
  dsimp only
  rw [Int.toNat_natCast, finite.isInfinite]
  rfl

/-- The layouts without a positive exponent have few digits before the point. -/
theorem numeralOf_short {s : Shortest} (length : s.digits.length ≤ 17) (small : s.exponent < 16)
    (negative : Bool) : (numeralOf negative s).whole.length ≤ 19 ∧
      ((numeralOf negative s).exponent? = none ∨
        ∃ run, (numeralOf negative s).exponent? = some (true, run)) := by
  unfold numeralOf
  split
  case isTrue plain =>
    dsimp only
    split
    · refine ⟨?_, .inl rfl⟩
      rw [List.length_append, List.length_replicate]
      omega
    · refine ⟨?_, .inl rfl⟩
      rw [List.length_take]
      omega
  case isFalse notPlain =>
    split
    case isTrue => exact ⟨by simp, .inl rfl⟩
    case isFalse =>
      have below : s.exponent < 0 := by
        simp only [Bool.and_eq_true, decide_eq_true_eq] at notPlain
        omega
      refine ⟨?_, .inr ⟨digits s.exponent.natAbs, by simp [below]⟩⟩
      rw [List.length_take]
      omega

theorem numeralOf_large {s : Shortest} (large : 16 ≤ s.exponent) (negative : Bool) :
    numeralOf negative s = ⟨negative, s.digits.take 1,
      if s.digits.length ≤ 1 then none else some (s.digits.drop 1),
      some (false, digits s.exponent.natAbs)⟩ := by
  have sign : decide (s.exponent < 0) = false := by
    simp only [decide_eq_false_iff_not]
    omega
  unfold numeralOf
  rw [if_neg (by simp; omega), if_neg (by simp; omega), sign]

/-- What is printed for a finite double can be read again. -/
theorem Finite.double?_isSome {d : Double} (finite : d.Finite) : d.numeral.double?.isSome := by
  rcases Nat.lt_or_eq_of_le (show d.magnitude + 1 ≤ infinity from finite) with inner | last
  case inr =>
    have largest_ : ∀ negative, (⟨negative, infinity - 1⟩ : Double).numeral.double?.isSome := by
      decide +kernel
    have same : d = ⟨d.negative, infinity - 1⟩ := by
      have magnitude : d.magnitude = infinity - 1 := by omega
      rw [← magnitude]
    rw [same]
    exact largest_ d.negative
  case inl =>
    have written := d.numeral_wellFormed.whole_digits
    unfold numeral at written ⊢
    split
    case isTrue zero => exact Numeral.double?_isSome (by simp [isDigit]) (by simp) (.inl rfl)
    case isFalse nonzero =>
      rw [if_neg nonzero] at written
      obtain ⟨c, k, printed⟩ := exists_printed nonzero
      obtain ⟨zeros, trimmed⟩ := exists_trimmed printed.positive
      have length := printed.length_le trimmed
      have some_ : 0 < (dropZeros (digits c)).length := List.length_pos_iff.mpr trimmed.ne_nil
      have exponent : d.shortest.exponent = k + zeros + ((dropZeros (digits c)).length - 1 : Nat) := by
        have total := trimmed.length
        rw [printed.shortest]
        dsimp only
        omega
      have shown : d.shortest.digits = dropZeros (digits c) := by rw [printed.shortest]
      by_cases small : d.shortest.exponent < 16
      · obtain ⟨short, down⟩ := numeralOf_short (shown ▸ length) small d.negative
        exact Numeral.double?_isSome written short down
      · have large : 16 ≤ d.shortest.exponent := by omega
        obtain ⟨places, place⟩ : ∃ places : Nat, k + zeros = places :=
          ⟨(k + zeros).toNat, by omega⟩
        have positive : 0 < natOfDigits (dropZeros (digits c)) := by
          refine Nat.pos_of_ne_zero fun none_ => ?_
          have value := trimmed.value
          rw [none_, Nat.zero_mul] at value
          have := printed.positive
          omega
        have few : natOfDigits (dropZeros (digits c)) < 10 ^ 17 :=
          Nat.lt_of_lt_of_le (natOfDigits_lt trimmed.all) (Nat.pow_le_pow_right (by decide) length)
        obtain ⟨reach, product⟩ :=
          timesPower_finite positive few (printed.le_limit trimmed inner place)
        rw [numeralOf_large large, shown]
        refine double?_of_exponent trimmed.all some_ length ?_ reach product
        rw [natOfDigits_digits]
        omega

end Double

/-! ## Values -/

/-- A number is read as a whole one of 64 bits or as a finite double, which can be read again. -/
theorem readable_of_value? {n : Numeral} {v : Json} (read : n.value? = some v) : v.Readable := by
  unfold Numeral.value? at read
  dsimp only at read
  split at read
  case isTrue whole =>
    cases read
    simp only [Bool.and_eq_true, decide_eq_true_eq] at whole
    exact ⟨by omega, Int.ofNat_lt.mpr whole.2⟩
  case isFalse =>
    split at read
    case isTrue negative =>
      cases read
      simp only [Bool.and_eq_true, decide_eq_true_eq] at negative
      have size : 0 < UInt64.size := by decide
      exact ⟨by omega, by omega⟩
    case isFalse =>
      obtain ⟨d, double, rfl⟩ := Option.map_eq_some_iff.mp read
      have finite := Numeral.double?_finite double
      exact ⟨d.numeral_wellFormed, finite.double?_isSome⟩

theorem readable_inherited : Inherited fun _ v => v.Readable where
  null _ := trivial
  bool _ _ := trivial
  string _ _ := trivial
  number _ _ _ read := readable_of_value? read
  array _ _ each := numbersItems_iff.mpr each
  object _ _ each := numbersEntries_iff.mpr each

/-- Every value that was read can be written and read again. -/
theorem readable_of_readAsWritten {n : Nat} {d : Document} {v : Json}
    (success : readAsWritten n d = .ok v) : v.Readable :=
  readable_inherited.of_readAsWritten success

end TokenDesk.Json
