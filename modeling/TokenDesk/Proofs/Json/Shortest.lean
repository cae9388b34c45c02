import TokenDesk.Proofs.Json.Rounding
import TokenDesk.Proofs.Json.Scan

/-!
# Printing doubles

Seventeen digits always suffice: one of the two neighbours of a double on that decimal grid reads back as
it (`seventeen_digits`). So the search for the fewest digits ends with a decimal that reads back, and every
finite double is written as a number.
-/

set_option autoImplicit false

namespace TokenDesk.Json.Double

open TokenDesk.Text

/-! ## Decimal scales -/

/-- A power of ten as a fraction: `up k / down k` is `10 ^ k`. -/
def up (k : Int) : Nat :=
  tenTo k.toNat

def down (k : Int) : Nat :=
  tenTo (-k).toNat

theorem up_pos (k : Int) : 0 < up k :=
  tenTo_pos _

theorem down_pos (k : Int) : 0 < down k :=
  tenTo_pos _

theorem up_mul_pow (k : Int) (n : Nat) : up k * 10 ^ n * down (k + n) = up (k + n) * down k := by
  have exponents : k.toNat + n + (-(k + n)).toNat = (k + n).toNat + (-k).toNat := by omega
  rw [up, down, up, down, tenTo_eq, tenTo_eq, tenTo_eq, tenTo_eq, ← Nat.pow_add, ← Nat.pow_add, ← Nat.pow_add, exponents]

/-- The exponent of the first digit places a fraction between two powers of ten. -/
theorem leadingExponent_spec {num den : Nat} (positive : 0 < num) (part : 0 < den) :
    up (leadingExponent num den) * den ≤ num * down (leadingExponent num den) ∧
      num * down (leadingExponent num den) < 10 * (up (leadingExponent num den) * den) := by
  unfold leadingExponent
  split
  case isTrue whole =>
    have quotient : 0 < num / den := Nat.div_pos whole part
    obtain ⟨low, high⟩ := digits_length quotient
    have some_ : 0 < (digits (num / den)).length := Nat.length_toDigits_pos
    generalize (digits (num / den)).length = n at low high some_
    have place : ((n : Int) - 1).toNat = n - 1 := by omega
    have none_ : (-((n : Int) - 1)).toNat = 0 := by omega
    rw [up, down, place, none_, tenTo_eq, tenTo_eq, Nat.pow_zero, Nat.mul_one]
    refine ⟨(Nat.le_div_iff_mul_le part).mp low, ?_⟩
    have power : 10 * (10 ^ (n - 1) * den) = 10 ^ n * den := by
      rw [← Nat.mul_assoc, ← Nat.pow_succ', Nat.succ_eq_add_one, Nat.sub_add_cancel some_]
    rw [power]
    exact (Nat.div_lt_iff_lt_mul part).mp high
  case isFalse small =>
    -- the quotient the other way round, rounded up, less one
    have ceiling : 0 < (den + num - 1) / num - 1 := by
      have two : 2 ≤ (den + num - 1) / num := (Nat.le_div_iff_mul_le positive).mpr (by omega)
      omega
    obtain ⟨low, high⟩ := digits_length ceiling
    have some_ : 0 < (digits ((den + num - 1) / num - 1)).length := Nat.length_toDigits_pos
    generalize (digits ((den + num - 1) / num - 1)).length = n at low high some_
    have none_ : (-(n : Int)).toNat = 0 := by omega
    have place : (- -(n : Int)).toNat = n := by omega
    rw [up, down, place, none_, tenTo_eq, tenTo_eq, Nat.pow_zero, Nat.one_mul]
    constructor
    · have bound : (den + num - 1) / num < 10 ^ n + 1 := by omega
      have less := (Nat.div_lt_iff_lt_mul positive).mp bound
      rw [Nat.add_mul, Nat.one_mul, Nat.mul_comm] at less
      omega
    · have bound : 10 ^ (n - 1) + 1 ≤ (den + num - 1) / num := by omega
      have more := (Nat.le_div_iff_mul_le positive).mp bound
      rw [Nat.add_mul, Nat.one_mul] at more
      have power : num * 10 ^ n = 10 * (10 ^ (n - 1) * num) := by
        rw [← Nat.mul_assoc, ← Nat.pow_succ', Nat.succ_eq_add_one, Nat.sub_add_cancel some_,
          Nat.mul_comm]
      omega

/-! ## Neighbours on a decimal grid -/

/-- A decimal strictly between the middles to the neighbouring doubles reads back. -/
theorem readsBack_of_between {d : Double} {c scale unit : Nat}
    (low : (4 * d.mantissa - 2) * unit < c * scale)
    (edge : d.mantissa = twoTo 52 → (4 * d.mantissa - 1) * unit < c * scale)
    (high : c * scale < (4 * d.mantissa + 2) * unit) : readsBack d c scale unit = true := by
  have lower : (if d.mantissa = twoTo 52 && 1 < d.magnitude / twoTo 52 then 4 * d.mantissa - 1
      else 4 * d.mantissa - 2) * unit < c * scale := by
    split
    case isTrue atEdge =>
      simp only [Bool.and_eq_true, decide_eq_true_eq] at atEdge
      exact edge atEdge.1
    case isFalse => exact low
  unfold readsBack
  dsimp only
  generalize (if d.mantissa = twoTo 52 && 1 < d.magnitude / twoTo 52 then 4 * d.mantissa - 1
    else 4 * d.mantissa - 2) = middle at lower
  split <;> simp only [Bool.and_eq_true, decide_eq_true_eq]
  · exact ⟨Nat.le_of_lt lower, Nat.le_of_lt high⟩
  · exact ⟨lower, high⟩

/-- On a grid that is finer than the distance of doubles, the nearer neighbour reads back. -/
theorem readsBack_neighbour {d : Double} {low scale unit : Nat} (positive : 0 < d.mantissa)
    (below : low * scale ≤ 4 * d.mantissa * unit) (above : 4 * d.mantissa * unit < (low + 1) * scale)
    (fine : scale < 4 * unit) (edge : d.mantissa = twoTo 52 → scale < 2 * unit) :
    readsBack d low scale unit = true ∨ readsBack d (low + 1) scale unit = true := by
  have two : 2 * unit ≤ 4 * d.mantissa * unit := Nat.mul_le_mul_right _ (by omega)
  have lower : (4 * d.mantissa - 2) * unit = 4 * d.mantissa * unit - 2 * unit := Nat.sub_mul _ _ _
  have lowerEdge : (4 * d.mantissa - 1) * unit = 4 * d.mantissa * unit - unit := by
    rw [Nat.sub_mul, Nat.one_mul]
  have upper : (4 * d.mantissa + 2) * unit = 4 * d.mantissa * unit + 2 * unit := Nat.add_mul _ _ _
  have next : (low + 1) * scale = low * scale + scale := by rw [Nat.add_mul, Nat.one_mul]
  rcases Nat.lt_or_ge scale (2 * (4 * d.mantissa * unit - low * scale)) with far | near
  · refine .inr (readsBack_of_between ?_ (fun same => ?_) ?_)
    · omega
    · omega
    · omega
  · refine .inl (readsBack_of_between ?_ (fun same => ?_) ?_)
    · omega
    · have := edge same
      omega
    · omega

theorem twoTo_add_two (n : Nat) : twoTo (n + 2) = 4 * twoTo n := by
  rw [twoTo_eq, twoTo_eq, Nat.pow_succ, Nat.pow_succ]
  omega

/-- The distance on the grid of a decimal place, in units of `2 ^ -1076 / down k`. -/
def gridScale (k : Int) : Nat :=
  up k * twoTo 1076

/-- A unit of the significand, in the same units. -/
def gridUnit (d : Double) (k : Int) : Nat :=
  twoTo d.exponent * down k

/-- The grid point below a double. -/
def gridLow (d : Double) (k : Int) : Nat :=
  4 * d.mantissa * gridUnit d k / gridScale k

/-- The exponent of the first digit. -/
def firstExponent (d : Double) : Int :=
  leadingExponent (d.mantissa * twoTo d.exponent) (twoTo 1074)

theorem gridScale_pos (k : Int) : 0 < gridScale k :=
  Nat.mul_pos (up_pos k) (twoTo_pos _)

theorem gridUnit_pos (d : Double) (k : Int) : 0 < gridUnit d k :=
  Nat.mul_pos (twoTo_pos _) (down_pos k)

/-- A double against the grid of its first `n + 1` digits. -/
theorem gridScale_spec {d : Double} (positive : 0 < d.mantissa) {k : Int} {n : Nat}
    (place : k + n = d.firstExponent) :
    gridScale k * 10 ^ n ≤ 4 * d.mantissa * gridUnit d k ∧
      4 * d.mantissa * gridUnit d k < 10 * (gridScale k * 10 ^ n) := by
  obtain ⟨low, high⟩ :=
    leadingExponent_spec (Nat.mul_pos positive (twoTo_pos d.exponent)) (twoTo_pos 1074)
  change up d.firstExponent * _ ≤ _ * down d.firstExponent at low
  change _ * down d.firstExponent < 10 * (up d.firstExponent * _) at high
  rw [← place] at low high
  have shifted := up_mul_pow k n
  have scaled (smallest : Nat) : up k * (4 * smallest) * 10 ^ n * down (k + n) =
      4 * down k * (up (k + n) * smallest) := by
    calc
      up k * (4 * smallest) * 10 ^ n * down (k + n) =
          (up k * 10 ^ n * down (k + n)) * (4 * smallest) := by ac_rfl
      _ = 4 * down k * (up (k + n) * smallest) := by
        rw [shifted]
        ac_rfl
  have doubled : 4 * d.mantissa * gridUnit d k * down (k + n) =
      4 * down k * (d.mantissa * twoTo d.exponent * down (k + n)) := by
    rw [gridUnit]
    ac_rfl
  have part := down_pos (k + n)
  rw [gridScale, twoTo_add_two 1074]
  generalize twoTo 1074 = smallest at low high
  constructor
  · apply Nat.le_of_mul_le_mul_right _ part
    rw [scaled smallest, doubled]
    exact Nat.mul_le_mul_left _ low
  · apply Nat.lt_of_mul_lt_mul_right (a := down (k + n))
    rw [Nat.mul_assoc 10, scaled smallest, doubled, Nat.mul_left_comm 10]
    exact Nat.mul_lt_mul_of_pos_left high (Nat.mul_pos (by decide) (down_pos k))

/-- Seventeen digits suffice. -/
theorem seventeen_digits {d : Double} (positive : 0 < d.mantissa) {k : Int}
    (place : k + 16 = d.firstExponent) :
    readsBack d (gridLow d k) (gridScale k) (gridUnit d k) = true ∨
      readsBack d (gridLow d k + 1) (gridScale k) (gridUnit d k) = true := by
  obtain ⟨low, -⟩ := gridScale_spec (n := 16) positive place
  have unit := gridUnit_pos d k
  have small : d.mantissa < 10 ^ 16 := Nat.lt_trans d.mantissa_lt (by decide)
  refine readsBack_neighbour positive (Nat.div_mul_le_self _ _) ?_ ?_ fun same => ?_
  · exact (Nat.div_lt_iff_lt_mul (gridScale_pos k)).mp (Nat.lt_succ_self _)
  · have wide : 4 * d.mantissa * gridUnit d k < 4 * 10 ^ 16 * gridUnit d k :=
      Nat.mul_lt_mul_of_pos_right (by omega) unit
    omega
  · have wide : 4 * d.mantissa * gridUnit d k = 4 * twoTo 52 * gridUnit d k := by rw [same]
    have half : 4 * twoTo 52 * gridUnit d k < 2 * 10 ^ 16 * gridUnit d k :=
      Nat.mul_lt_mul_of_pos_right (by decide) unit
    omega

/-! ## The search -/

/-- Whether a neighbour on the grid of a place reads back. -/
def Hits (d : Double) (k : Int) : Prop :=
  readsBack d (gridLow d k) (gridScale k) (gridUnit d k) = true ∨
    readsBack d (gridLow d k + 1) (gridScale k) (gridUnit d k) = true

/-- A neighbour on the grid of a place that reads back. -/
structure Found (d : Double) (c : Nat) (k : Int) : Prop where
  readsBack : readsBack d c (gridScale k) (gridUnit d k) = true
  near : c ≤ gridLow d k + 1

theorem search_step (d : Double) (first : Int) (count fuel : Nat) :
    search d first count (fuel + 1) =
      let k := first - count + 1
      let low := gridLow d k
      let target := 4 * d.mantissa * gridUnit d k
      if readsBack d low (gridScale k) (gridUnit d k) &&
          readsBack d (low + 1) (gridScale k) (gridUnit d k) then
        if 2 * target < (low + (low + 1)) * gridScale k ||
            (2 * target = (low + (low + 1)) * gridScale k && low % 2 = 0)
        then (low, k) else (low + 1, k)
      else if readsBack d low (gridScale k) (gridUnit d k) then (low, k)
      else if readsBack d (low + 1) (gridScale k) (gridUnit d k) then (low + 1, k)
      else search d first (count + 1) fuel := by
  rw [search]
  unfold gridLow gridScale gridUnit up down
  rfl

/-- A step of the search finds a neighbour that reads back, or goes on where there is none. -/
theorem search_succ (d : Double) (first : Int) (count fuel : Nat) :
    ((search d first count (fuel + 1)).2 = first - count + 1 ∧
        Found d (search d first count (fuel + 1)).1 (first - count + 1)) ∨
      (¬ Hits d (first - count + 1) ∧
        search d first count (fuel + 1) = search d first (count + 1) fuel) := by
  rw [search_step]
  dsimp only
  split
  case isTrue both =>
    simp only [Bool.and_eq_true] at both
    split
    · exact .inl ⟨rfl, both.1, Nat.le_succ _⟩
    · exact .inl ⟨rfl, both.2, Nat.le_refl _⟩
  case isFalse notBoth =>
    split
    case isTrue low => exact .inl ⟨rfl, low, Nat.le_succ _⟩
    case isFalse notLow =>
      split
      case isTrue high => exact .inl ⟨rfl, high, Nat.le_refl _⟩
      case isFalse notHigh => exact .inr ⟨fun hits => hits.elim notLow notHigh, rfl⟩

/-- Where a place within reach has a hit, the search finds one. -/
theorem search_found {d : Double} {first : Int} {fuel count : Nat}
    (hit : ∃ n : Nat, count ≤ n ∧ n < count + fuel ∧ Hits d (first - n + 1)) :
    ∃ n : Nat, count ≤ n ∧ n < count + fuel ∧ (search d first count fuel).2 = first - n + 1 ∧
      Found d (search d first count fuel).1 (first - n + 1) := by
  induction fuel generalizing count with
  | zero =>
    obtain ⟨n, low, high, -⟩ := hit
    omega
  | succ fuel ih =>
    rcases search_succ d first count fuel with found | ⟨miss, rest⟩
    · exact ⟨count, Nat.le_refl _, by omega, found⟩
    · obtain ⟨n, low, high, hits⟩ := hit
      have later : count ≠ n := by
        rintro rfl
        exact miss hits
      have beyond : ∃ n : Nat, count + 1 ≤ n ∧ n < count + 1 + fuel ∧ Hits d (first - n + 1) :=
        ⟨n, by omega, by omega, hits⟩
      obtain ⟨n, low, high, found⟩ := ih beyond
      rw [rest]
      exact ⟨n, by omega, by omega, found⟩

/-- What reads back lies between the neighbouring doubles. -/
theorem Found.between {d : Double} {c : Nat} {k : Int} (found : Found d c k) :
    (4 * d.mantissa - 2) * gridUnit d k ≤ c * gridScale k ∧
      c * gridScale k ≤ (4 * d.mantissa + 2) * gridUnit d k := by
  have back := found.readsBack
  unfold Double.readsBack at back
  dsimp only at back
  have lower : (4 * d.mantissa - 2) * gridUnit d k ≤
      (if d.mantissa = twoTo 52 && 1 < d.magnitude / twoTo 52 then 4 * d.mantissa - 1
        else 4 * d.mantissa - 2) * gridUnit d k := by
    refine Nat.mul_le_mul_right _ ?_
    split <;> omega
  generalize (if d.mantissa = twoTo 52 && 1 < d.magnitude / twoTo 52 then 4 * d.mantissa - 1
    else 4 * d.mantissa - 2) = middle at back lower
  split at back
  · simp only [Bool.and_eq_true, decide_eq_true_eq] at back
    exact ⟨Nat.le_trans lower back.1, back.2⟩
  · simp only [Bool.and_eq_true, decide_eq_true_eq] at back
    exact ⟨Nat.le_trans lower (Nat.le_of_lt back.1), Nat.le_of_lt back.2⟩

theorem mantissa_pos {d : Double} (nonzero : d.magnitude ≠ 0) : 0 < d.mantissa := by
  unfold mantissa
  have lead := twoTo_pos 52
  split <;> omega

/-- The decimal that is printed for a double: so many digits that read back, at most seventeen. -/
structure Printed (d : Double) (c : Nat) (k : Int) : Prop where
  found : Found d c k
  positive : 0 < c
  short : c ≤ 10 ^ 17
  shortest : d.shortest = ⟨dropZeros (digits c), k + (digits c).length - 1⟩

theorem exists_printed {d : Double} (nonzero : d.magnitude ≠ 0) : ∃ c k, Printed d c k := by
  have positive := mantissa_pos nonzero
  have hit : ∃ n : Nat, 1 ≤ n ∧ n < 1 + 17 ∧ Hits d (d.firstExponent - n + 1) :=
    ⟨17, by decide, by decide, seventeen_digits positive (by omega)⟩
  obtain ⟨n, some_, few, place, found⟩ := search_found hit
  have reach : (d.firstExponent - n + 1) + (n - 1 : Nat) = d.firstExponent := by omega
  obtain ⟨-, high⟩ := gridScale_spec positive reach
  refine ⟨_, _, found, ?_, ?_, ?_⟩
  · refine Nat.pos_of_ne_zero fun zero => ?_
    obtain ⟨low, -⟩ := found.between
    rw [zero, Nat.zero_mul] at low
    have unit : 0 < (4 * d.mantissa - 2) * gridUnit d (d.firstExponent - n + 1) :=
      Nat.mul_pos (by omega) (gridUnit_pos d _)
    omega
  · have power : 10 * (gridScale (d.firstExponent - n + 1) * 10 ^ (n - 1)) =
        10 ^ n * gridScale (d.firstExponent - n + 1) := by
      rw [Nat.mul_left_comm, ← Nat.pow_succ', Nat.succ_eq_add_one, Nat.sub_add_cancel some_,
        Nat.mul_comm]
    rw [power] at high
    have low : gridLow d (d.firstExponent - n + 1) < 10 ^ n :=
      (Nat.div_lt_iff_lt_mul (gridScale_pos _)).mpr high
    have most : 10 ^ n ≤ 10 ^ 17 := Nat.pow_le_pow_right (by decide) (by omega)
    have near := found.near
    omega
  · rw [← place]
    rfl

/-! ## Digits without zeros at their end -/

theorem head?_append_left {first : List Char} (ne_nil : first ≠ []) (later : List Char) :
    (first ++ later).head? = first.head? := by
  rw [List.head?_append, List.head?_eq_some_head ne_nil, Option.some_or]

/-- The digits of a positive number, less the zeros at their end. -/
structure Trimmed (c : Nat) (ds : List Char) (zeros : Nat) : Prop where
  value : natOfDigits ds * 10 ^ zeros = c
  length : (digits c).length = ds.length + zeros
  ne_nil : ds ≠ []
  all : ∀ d ∈ ds, isDigit d = true
  lead : ds.head? ≠ some '0'

theorem exists_trimmed {c : Nat} (positive : 0 < c) : ∃ n, Trimmed c (dropZeros (digits c)) n := by
  obtain ⟨n, split⟩ := dropWhile_zero_append (digits c)
  rw [← dropZeros] at split
  have value : natOfDigits (dropZeros (digits c)) * 10 ^ n = c := by
    have whole := natOfDigits_digits c
    rw [split, natOfDigits_append, natOfDigits_zeros, List.length_replicate, Nat.add_zero] at whole
    exact whole
  have ne_nil : dropZeros (digits c) ≠ [] := by
    intro none_
    rw [none_] at value
    have zero : c = 0 := by rw [← value]; simp [natOfDigits]
    omega
  refine ⟨n, value, ?_, ne_nil, fun d member => ?_, ?_⟩
  · have lengths := congrArg List.length split
    rwa [List.length_append, List.length_replicate] at lengths
  · apply isDigit_of_mem_digits (n := c)
    rw [split]
    exact List.mem_append_left _ member
  · have lead := head_digits_ne_zero positive
    rw [split, head?_append_left ne_nil] at lead
    exact lead

/-! ## Numerals -/

/-- Digits with an exponent are written as a number, whatever the layout. -/
theorem numeralOf_wellFormed {s : Shortest} (ne_nil : s.digits ≠ [])
    (all : ∀ c ∈ s.digits, isDigit c = true) (lead : s.digits.head? ≠ some '0') (negative : Bool) :
    (numeralOf negative s).WellFormed := by
  have zero : isDigit '0' = true := rfl
  have zeros (n : Nat) : ∀ c ∈ List.replicate n '0', isDigit c = true := by
    intro c member
    rw [List.eq_of_mem_replicate member]
    exact zero
  have some_ : 0 < s.digits.length := List.length_pos_iff.mpr ne_nil
  unfold numeralOf
  split
  · dsimp only
    split
    case isTrue few =>
      refine ⟨by simp [ne_nil], fun c member => ?_, fun _ => ?_, ?_, by simp⟩
      · rcases List.mem_append.mp member with inside | behind
        · exact all c inside
        · exact zeros _ c behind
      · rwa [head?_append_left ne_nil]
      · rintro run ⟨⟩
        exact ⟨by simp, by simp [zero]⟩
    case isFalse many =>
      refine ⟨?_, fun c member => all c (List.mem_of_mem_take member), fun _ => ?_, ?_, by simp⟩
      · exact List.ne_nil_of_length_pos (by rw [List.length_take]; omega)
      · rwa [List.head?_take, if_neg (by omega)]
      · rintro run ⟨⟩
        refine ⟨List.ne_nil_of_length_pos (by rw [List.length_drop]; omega), fun c member => ?_⟩
        exact all c (List.mem_of_mem_drop member)
  · split
    · refine ⟨by simp, by simp [zero], by simp, ?_, by simp⟩
      rintro run ⟨⟩
      refine ⟨by simp [ne_nil], fun c member => ?_⟩
      rcases List.mem_append.mp member with before | inside
      · exact zeros _ c before
      · exact all c inside
    · refine ⟨?_, fun c member => all c (List.mem_of_mem_take member), fun long => ?_, ?_, ?_⟩
      · exact List.ne_nil_of_length_pos (by rw [List.length_take]; omega)
      · rw [List.length_take] at long
        omega
      · intro run fraction
        dsimp only at fraction
        split at fraction
        · cases fraction
        · cases fraction
          refine ⟨List.ne_nil_of_length_pos (by rw [List.length_drop]; omega), fun c member => ?_⟩
          exact all c (List.mem_of_mem_drop member)
      · rintro sign run ⟨⟩
        exact ⟨digits_ne_nil _, fun c member => isDigit_of_mem_digits member⟩

/-- Every double is written as a number. -/
theorem numeral_wellFormed (d : Double) : d.numeral.WellFormed := by
  unfold numeral
  split
  case isTrue zero =>
    refine ⟨by simp, by simp [isDigit], by simp, ?_, by simp⟩
    rintro run ⟨⟩
    exact ⟨by simp, by simp [isDigit]⟩
  case isFalse nonzero =>
    obtain ⟨c, k, printed⟩ := exists_printed nonzero
    obtain ⟨n, trimmed⟩ := exists_trimmed printed.positive
    rw [printed.shortest]
    exact numeralOf_wellFormed trimmed.ne_nil trimmed.all trimmed.lead _

end TokenDesk.Json.Double
