import Mathlib.Algebra.Field.Rat
import Mathlib.Tactic.FieldSimp
import TokenDesk.Chain.Amount
import TokenDesk.Proofs.Text.Split
import TokenDesk.Proofs.Text.Written

/-!
# Amounts written and read

Up to 77 places an amount is written exactly and in one form only, and what is written is read as the
amount; without places what is written is never read, and beyond 77 places nothing is written
(`parse_format?`).
-/

set_option autoImplicit false

namespace TokenDesk.Amount

open TokenDesk.Text

/-! ## Words -/

theorem ofNat?_units (a : Amount) : ofNat? a.units = some a := by
  rw [ofNat?, dif_pos a.units_lt]

theorem ofNat?_eq_some_iff {n : Nat} {a : Amount} : ofNat? n = some a ↔ a.units = n := by
  constructor
  · intro fits
    unfold ofNat? at fits
    split at fits
    · cases fits
      rfl
    · cases fits
  · rintro rfl
    exact ofNat?_units a

theorem ofNat?_eq_none_iff {n : Nat} : ofNat? n = none ↔ twoTo 256 ≤ n := by
  unfold ofNat?
  split
  case isTrue fits => simp [fits]
  case isFalse wide => simpa using wide

/-- A number that is too large stays so when it is multiplied and added to. -/
theorem ofNat?_bind {n m : Nat} {next : Amount → Option Amount} (larger : n ≤ m)
    (same : ∀ a : Amount, a.units = n → next a = ofNat? m) : (ofNat? n).bind next = ofNat? m := by
  cases fits : ofNat? n with
  | some a => exact same a (ofNat?_eq_some_iff.mp fits)
  | none => exact (ofNat?_eq_none_iff.mpr (Nat.le_trans (ofNat?_eq_none_iff.mp fits) larger)).symm

theorem unitFrom?_eq (unit : Amount) (places : Nat) :
    unitFrom? unit places = ofNat? (unit.units * tenTo places) := by
  induction places generalizing unit with
  | zero => rw [unitFrom?, tenTo, Nat.pow_eq, Nat.pow_zero, Nat.mul_one, ofNat?_units]
  | succ places ih =>
    have more : unit.units * tenTo (places + 1) = unit.units * 10 * tenTo places := by
      rw [tenTo, tenTo, Nat.pow_eq, Nat.pow_eq, Nat.pow_succ, Nat.mul_comm (10 ^ places), Nat.mul_assoc]
    rw [unitFrom?, more]
    exact ofNat?_bind (Nat.le_mul_of_pos_right _ (tenTo_pos places)) fun next units => by rw [ih, units]

theorem unit?_eq (places : Nat) : unit? places = ofNat? (tenTo places) := by
  have one : (ofNatLow 1).units = 1 := Nat.mod_eq_of_lt (by decide +kernel)
  rw [unit?, unitFrom?_eq, one, Nat.one_mul]

/-- The highest number of places whose unit still fits a word. -/
def maxPlaces : Nat := 77

theorem exists_unit? {places : Nat} (few : places ≤ maxPlaces) :
    ∃ unit, unit? places = some unit ∧ unit.units = tenTo places := by
  have below : tenTo places ≤ tenTo maxPlaces := Nat.pow_le_pow_right (by decide) few
  have top : tenTo maxPlaces < twoTo 256 := by decide +kernel
  exact ⟨⟨tenTo places, by omega⟩, by rw [unit?_eq, ofNat?_eq_some_iff], rfl⟩

theorem unit?_eq_none {places : Nat} (many : maxPlaces < places) : unit? places = none := by
  have above : tenTo 78 ≤ tenTo places := Nat.pow_le_pow_right (by decide) many
  have top : twoTo 256 ≤ tenTo 78 := by decide +kernel
  rw [unit?_eq, ofNat?_eq_none_iff]
  omega

/-! ## The written form -/

/-- The canonical form of a number: digits that begin with zero only where they are a single zero, a
point, and digits that end with zero only where they are a single zero. -/
structure Canonical (whole fraction : List Char) (value : ℚ) : Prop where
  numeric : ∀ c ∈ whole ++ fraction, isDigit c = true
  whole_ne_nil : whole ≠ []
  lead : whole.head? = some '0' → whole = ['0']
  fraction_ne_nil : fraction ≠ []
  last : fraction.getLast? = some '0' → fraction = ['0']
  value : natOfDigits whole + natOfDigits fraction / 10 ^ fraction.length = value

theorem trimZeros_ne_nil (cs : List Char) : trimZeros cs ≠ [] := by
  unfold trimZeros
  split
  case h_1 => simp
  case h_2 some_ => exact some_

theorem getLast?_trimZeros {cs : List Char} (zero : (trimZeros cs).getLast? = some '0') :
    trimZeros cs = ['0'] := by
  have kept : ((cs.reverse.dropWhile (· == '0')).reverse).getLast? ≠ some '0' := by
    rw [List.getLast?_reverse]
    intro last
    have other := List.head?_dropWhile_not (· == '0') cs.reverse
    simp [last] at other
  unfold trimZeros at zero ⊢
  split at zero
  case h_1 => rfl
  case h_2 => exact absurd zero kept

/-- What is trimmed of digits are zeros. -/
theorem trimZeros_append {cs : List Char} (some_ : cs ≠ []) :
    ∃ n, cs = trimZeros cs ++ List.replicate n '0' := by
  obtain ⟨n, split⟩ := dropWhile_zero_append cs
  unfold trimZeros
  split
  case h_1 none_ =>
    rw [none_, List.nil_append] at split
    -- of nothing but zeros one stays
    cases n with
    | zero => exact absurd split some_
    | succ n => exact ⟨n, split⟩
  case h_2 => exact ⟨n, split⟩

/-- The fraction that is written of so many places, and the zeros that the places have behind it. -/
theorem exists_fraction {d n : Nat} (positive : 0 < d) (fits : n < 10 ^ d) :
    ∃ fraction zeros, trimZeros (padded d n) = fraction ∧
      padded d n = fraction ++ List.replicate zeros '0' ∧ fraction.length + zeros = d := by
  have width := padded_length positive fits
  have some_ : padded d n ≠ [] := List.ne_nil_of_length_pos (by omega)
  obtain ⟨zeros, filled⟩ := trimZeros_append some_
  refine ⟨_, zeros, rfl, filled, ?_⟩
  have lengths := congrArg List.length filled
  rw [width, List.length_append, List.length_replicate] at lengths
  exact lengths.symm

theorem digits_lead {n : Nat} (zero : (digits n).head? = some '0') : digits n = ['0'] := by
  rcases Nat.eq_zero_or_pos n with rfl | positive
  · rfl
  · exact absurd zero (head_digits_ne_zero positive)

/-- Digits around a point denote their base units in the unit of so many places. -/
theorem value_of_units {whole fraction : List Char} {d units : Nat} (places : fraction.length ≤ d)
    (scaled : natOfDigits (whole ++ fraction) * 10 ^ (d - fraction.length) = units) :
    (natOfDigits whole + natOfDigits fraction / 10 ^ fraction.length : ℚ) = units / 10 ^ d := by
  obtain ⟨more, rfl⟩ := Nat.exists_eq_add_of_le places
  rw [Nat.add_sub_cancel_left, natOfDigits_append] at scaled
  rw [← scaled, pow_add]
  push_cast
  field_simp

/-- With at least one place an amount is written canonically, and the zeros that are left out make up the
base units. -/
theorem format?_canonical (a : Amount) {d : Nat} (positive : 0 < d) (few : d ≤ maxPlaces) :
    ∃ whole fraction, a.format? d = some (String.ofList (whole ++ '.' :: fraction)) ∧
      Canonical whole fraction (a.units / 10 ^ d) ∧ fraction.length ≤ d ∧
        natOfDigits (whole ++ fraction) * 10 ^ (d - fraction.length) = a.units := by
  have fits : a.units % tenTo d < 10 ^ d := Nat.mod_lt _ (tenTo_pos d)
  obtain ⟨fraction, zeros, trimmed, filled, width⟩ := exists_fraction positive fits
  have places : fraction.length ≤ d := by omega
  have numeric : ∀ c ∈ digits (a.units / tenTo d) ++ fraction, isDigit c = true := by
    intro c member
    rcases List.mem_append.mp member with before | behind
    · exact isDigit_of_mem_digits before
    · have among : c ∈ padded d (a.units % tenTo d) := by
        rw [filled]
        exact List.mem_append_left _ behind
      exact isDigit_of_mem_padded among
  have scaled : natOfDigits (digits (a.units / tenTo d) ++ fraction) * 10 ^ (d - fraction.length) =
      a.units := by
    have rest : d - fraction.length = zeros := by omega
    calc
      _ = natOfDigits ((digits (a.units / tenTo d) ++ fraction) ++ List.replicate zeros '0') := by
        rw [rest, natOfDigits_append _ (List.replicate zeros '0'), natOfDigits_zeros,
          List.length_replicate, Nat.add_zero]
      _ = natOfDigits (digits (a.units / tenTo d) ++ padded d (a.units % tenTo d)) := by
        rw [List.append_assoc, ← filled]
      _ = a.units / tenTo d * tenTo d + a.units % tenTo d := by
        rw [natOfDigits_append, natOfDigits_digits, natOfDigits_padded, padded_length positive fits]
        rfl
      _ = a.units := Nat.div_add_mod' _ _
  refine ⟨digits (a.units / tenTo d), fraction, ?_, ⟨numeric, digits_ne_nil _, digits_lead, ?_, ?_,
    value_of_units places scaled⟩, places, scaled⟩
  · obtain ⟨unit, made, units⟩ := exists_unit? few
    rw [format?, made, Option.map_some, if_neg (Nat.ne_of_gt positive), units, ← trimmed]
  · rw [← trimmed]
    exact trimZeros_ne_nil _
  · rw [← trimmed]
    exact getLast?_trimZeros

theorem format?_zero (a : Amount) : a.format? 0 = some (a.text ++ ".0") := by
  obtain ⟨unit, made, units⟩ := exists_unit? (show 0 ≤ maxPlaces by decide)
  have one : unit.units = 1 := units
  rw [format?, made, Option.map_some, if_pos rfl, one, Nat.div_one, String.ofList_append]
  rfl

theorem format?_eq_none_iff {a : Amount} {d : Nat} : a.format? d = none ↔ maxPlaces < d := by
  rw [format?, Option.map_eq_none_iff]
  rcases Nat.lt_or_ge maxPlaces d with many | few
  · simp [unit?_eq_none many, many]
  · obtain ⟨unit, made, -⟩ := exists_unit? few
    simp [made, few]

/-! ## The reading -/

/-- Digits are read as the number that they denote, if it fits a word. -/
theorem readFrom?_eq (n : Amount) (cs : List Char) :
    readFrom? n cs = ofNat? (n.units * 10 ^ cs.length + natOfDigits cs) := by
  induction cs generalizing n with
  | nil => simp [readFrom?, natOfDigits, ofNat?_units]
  | cons c cs ih =>
    have value : n.units * 10 ^ (c :: cs).length + natOfDigits (c :: cs) =
        (n.units * 10 + digitValue c) * 10 ^ cs.length + natOfDigits cs := by
      rw [natOfDigits_cons, List.length_cons, Nat.pow_succ, Nat.add_mul, Nat.mul_assoc,
        Nat.mul_comm 10, Nat.add_assoc]
    rw [readFrom?, value]
    refine ofNat?_bind ?_ fun next units => by rw [ih, units]
    exact Nat.le_add_right_of_le (Nat.le_mul_of_pos_right _ (Nat.pow_pos (by decide)))

theorem ofDigits?_eq (cs : List Char) : ofDigits? cs = ofNat? (natOfDigits cs) := by
  have zero : (ofNatLow 0).units = 0 := Nat.zero_mod _
  rw [ofDigits?, readFrom?_eq, zero, Nat.zero_mul, Nat.zero_add]

/-- The amount of `n * 10 ^ places` base units. -/
def scale? (n places : Nat) : Option Amount :=
  ofNat? (n * tenTo places)

/-- The filled up numeral denotes the digits in the unit of the places that these leave. -/
theorem ofDigits?_filled (whole fraction : List Char) (d : Nat) :
    ofDigits? (filled whole fraction d) =
      scale? (natOfDigits (whole ++ fraction)) (d - fraction.length) := by
  have lead : natOfDigits (filled whole fraction d) = natOfDigits ((whole ++ fraction) ++
      List.replicate (d - fraction.length) '0') := by
    rw [filled, List.append_assoc]
    cases whole with
    | nil =>
      have zero : digitValue '0' = 0 := rfl
      rw [List.isEmpty_nil, if_pos rfl, List.singleton_append, natOfDigits_cons, zero, Nat.zero_mul,
        Nat.zero_add, List.nil_append]
    | cons c whole => rfl
  rw [ofDigits?_eq, lead, natOfDigits_append, natOfDigits_zeros, Nat.add_zero, List.length_replicate]
  rfl

/-- How digits around a point are read. -/
theorem parse_digits {input : String} {whole fraction : List Char}
    (chars : trimChars input.toList = whole ++ '.' :: fraction)
    (digits : ∀ c ∈ whole ++ fraction, isDigit c = true) (some_ : whole ++ fraction ≠ []) (d : Nat) :
    parse input d =
      if d < fraction.length then .failed (.tooPrecise (String.ofList (whole ++ '.' :: fraction)) d)
      else if maxFilled < d then .aborted
      else .ofOption (.outOfRange (String.ofList (whole ++ '.' :: fraction)))
        (scale? (natOfDigits (whole ++ fraction)) (d - fraction.length)) := by
  have pointless : '.' ∉ whole := by
    intro member
    have digit := digits '.' (List.mem_append_left _ member)
    cases digit
  have numeric : (whole ++ fraction).all isDigit = true := List.all_eq_true.mpr digits
  have there : (whole.isEmpty && fraction.isEmpty) = false := by
    cases whole <;> cases fraction <;> simp_all
  unfold parse
  dsimp only
  rw [chars, splitFirst?_eq_some_iff.mpr ⟨rfl, pointless⟩, Option.getD_some]
  dsimp only
  rw [there, numeric, ofDigits?_filled]
  simp

theorem scale?_eq_some_iff {n places : Nat} {a : Amount} :
    scale? n places = some a ↔ a.units = n * tenTo places :=
  ofNat?_eq_some_iff

theorem scale?_one (places : Nat) : scale? 1 places = unit? places := by
  rw [scale?, Nat.one_mul, unit?_eq]

theorem exists_scale?_one {places : Nat} (few : places ≤ maxPlaces) : ∃ a, scale? 1 places = some a := by
  obtain ⟨unit, made, -⟩ := exists_unit? few
  exact ⟨unit, by rw [scale?_one, made]⟩

theorem scale?_one_eq_none {places : Nat} (many : maxPlaces < places) : scale? 1 places = none := by
  rw [scale?_one, unit?_eq_none many]

theorem scale?_one_eq_some {places : Nat} {a : Amount} (success : scale? 1 places = some a) :
    places ≤ maxPlaces ∧ a.units = tenTo places := by
  rcases Nat.lt_or_ge maxPlaces places with many | few
  · rw [scale?_one_eq_none many] at success
    cases success
  · exact ⟨few, by rw [scale?_eq_some_iff.mp success, Nat.one_mul]⟩

/-- How a fraction is read whose digits are a one behind zeros. -/
theorem parse_one_eq {input : String} (fraction : List Char)
    (chars : trimChars input.toList = '0' :: '.' :: fraction)
    (numeric : ('0' :: fraction).all isDigit = true) (one : natOfDigits ('0' :: fraction) = 1)
    (d : Nat) : parse input d =
      if d < fraction.length then .failed (.tooPrecise (String.ofList ('0' :: '.' :: fraction)) d)
      else if maxFilled < d then .aborted
      else .ofOption (.outOfRange (String.ofList ('0' :: '.' :: fraction)))
        (scale? 1 (d - fraction.length)) := by
  have split : trimChars input.toList = ['0'] ++ '.' :: fraction := chars
  have units : natOfDigits (['0'] ++ fraction) = 1 := one
  rw [parse_digits split (List.all_eq_true.mp numeric) (by simp), units]
  rfl

/-- Where it is read, it is the unit of the places that it leaves. -/
theorem parse_one {input : String} (fraction : List Char) {d : Nat} {a : Amount}
    (chars : trimChars input.toList = '0' :: '.' :: fraction)
    (numeric : ('0' :: fraction).all isDigit = true) (one : natOfDigits ('0' :: fraction) = 1)
    (success : parse input d = .ok a) :
    fraction.length ≤ d ∧ d - fraction.length ≤ maxPlaces ∧
      a.units = tenTo (d - fraction.length) := by
  rw [parse_one_eq fraction chars numeric one] at success
  split at success
  · cases success
  case isFalse places =>
    split at success
    · cases success
    · cases scaled : scale? 1 (d - fraction.length) with
      | none =>
        rw [scaled] at success
        cases success
      | some unit =>
        rw [scaled] at success
        cases success
        exact ⟨Nat.le_of_not_lt places, scale?_one_eq_some scaled⟩

/-- Digits around a point are all there is to trim. -/
theorem trimChars_ofList {whole fraction : List Char}
    (digits : ∀ c ∈ whole ++ fraction, isDigit c = true) :
    trimChars (String.ofList (whole ++ '.' :: fraction)).toList = whole ++ '.' :: fraction := by
  have unblank : ∀ c ∈ whole ++ '.' :: fraction, isBlank c = false := by
    intro c member
    by_cases point : c = '.'
    · subst point
      decide
    · exact isBlank_of_isDigit (digits c (by simp_all))
  rw [String.toList_ofList, trimChars_of_unblank unblank]

/-- A canonical text of base units is read as these. -/
theorem parse_canonical {a : Amount} {whole fraction : List Char} {d : Nat} {value : ℚ}
    (canonical : Canonical whole fraction value) (few : d ≤ maxPlaces) (places : fraction.length ≤ d)
    (scaled : natOfDigits (whole ++ fraction) * 10 ^ (d - fraction.length) = a.units) :
    parse (String.ofList (whole ++ '.' :: fraction)) d = .ok a := by
  have some_ : whole ++ fraction ≠ [] := by simp [canonical.whole_ne_nil]
  have filled : ¬ maxFilled < d := Nat.not_lt.mpr (Nat.le_trans few (by decide))
  have units := scale?_eq_some_iff.mpr scaled.symm
  rw [parse_digits (trimChars_ofList canonical.numeric) canonical.numeric some_,
    if_neg (Nat.not_lt.mpr places), if_neg filled, units]
  rfl

theorem parse_zero (a : Amount) :
    parse (a.text ++ ".0") 0 = .failed (.tooPrecise (a.text ++ ".0") 0) := by
  have text : a.text ++ ".0" = String.ofList (digits a.units ++ ['.', '0']) := by
    rw [String.ofList_append]
    rfl
  have numeric : ∀ c ∈ digits a.units ++ ['0'], isDigit c = true := by
    intro c member
    rcases List.mem_append.mp member with before | zero
    · exact isDigit_of_mem_digits before
    · rw [List.mem_singleton.mp zero]
      rfl
  rw [text, parse_digits (trimChars_ofList numeric) numeric (by simp)]
  rfl

/-- With one place up to 77, every amount is written exactly and in canonical form, and what is written is
read as the amount, so that no two amounts are written alike. Without places an amount is written with a
fraction of zero, and this is never read. With 78 places or more nothing is written. -/
theorem parse_format? :
    (∀ d, 1 ≤ d → d ≤ 77 →
      (∀ a : Amount, ∃ whole fraction,
        a.format? d = some (String.ofList (whole ++ '.' :: fraction)) ∧
          Canonical whole fraction (a.units / 10 ^ d) ∧
            parse (String.ofList (whole ++ '.' :: fraction)) d = .ok a) ∧
        ∀ a b : Amount, a.format? d = b.format? d → a = b) ∧
      (∀ a : Amount, a.format? 0 = some (a.text ++ ".0") ∧
        parse (a.text ++ ".0") 0 = .failed (.tooPrecise (a.text ++ ".0") 0)) ∧
      ∀ (a : Amount) (d : Nat), 78 ≤ d → a.format? d = none := by
  refine ⟨fun d positive few => ?_, fun a => ⟨a.format?_zero, a.parse_zero⟩, fun a d many => ?_⟩
  · have back (a : Amount) : ∃ whole fraction,
        a.format? d = some (String.ofList (whole ++ '.' :: fraction)) ∧
          Canonical whole fraction (a.units / 10 ^ d) ∧
            parse (String.ofList (whole ++ '.' :: fraction)) d = .ok a := by
      obtain ⟨whole, fraction, written, canonical, places, scaled⟩ := a.format?_canonical positive few
      exact ⟨whole, fraction, written, canonical, parse_canonical canonical few places scaled⟩
    refine ⟨back, fun a b same => ?_⟩
    obtain ⟨whole, fraction, written, -, read⟩ := back a
    obtain ⟨whole', fraction', written', -, read'⟩ := back b
    rw [written, written', Option.some.injEq] at same
    rw [same, read'] at read
    cases read
    rfl
  · exact format?_eq_none_iff.mpr many

/-- The highest amount. -/
def most : Amount :=
  ⟨twoTo 256 - 1, Nat.sub_lt (twoTo_pos 256) Nat.one_pos⟩

/-- Its written form with 77 places, of which it needs every one. -/
def mostText : String :=
  "1.15792089237316195423570985008687907853269984665640564039457584007913129639935"

theorem parse_format?_most :
    most.format? 77 = some mostText ∧ parse mostText 77 = .ok most ∧ most.format? 78 = none := by
  obtain ⟨back, -⟩ := parse_format?.1 77 (by decide) (Nat.le_refl 77)
  have beyond := parse_format?.2.2 most 78 (Nat.le_refl 78)
  obtain ⟨whole, fraction, written, -, read⟩ := back most
  have shown : most.format? 77 = some mostText := by decide +kernel
  rw [shown, Option.some.injEq] at written
  rw [← written] at read
  exact ⟨shown, read, beyond⟩

end TokenDesk.Amount
