import TokenDesk.Time.Date

/-!
# The calendar counts days

The days of the calendar are numbered without a gap: the day after a date has the next number
(`epochDay_next`), the day before it the one below (`epochDay_prev`), whatever month, leap year or
century they end in. Two dates of the calendar with one number are the same date (`epochDay_inj`).
-/

set_option autoImplicit false

namespace TokenDesk.Time.Date

variable {d e : Date} {year : Int} {month other : Nat}

theorem exists?_iff : d.exists? = true ↔
    (1 ≤ d.month ∧ d.month ≤ 12) ∧ 1 ≤ d.day ∧ d.day ≤ daysInMonth d.year d.month := by
  simp only [exists?, Bool.and_eq_true, decide_eq_true_eq]
  omega

theorem daysInMonth_pos (year : Int) (month : Nat) : 1 ≤ daysInMonth year month := by
  unfold daysInMonth
  split
  · split <;> omega
  · split <;> omega

theorem daysInMonth_december (year : Int) : daysInMonth year 12 = 31 := rfl

/-! ## Months -/

theorem daysBefore_succ (year : Int) (positive : 1 ≤ month) :
    daysBefore year (month + 1) = daysBefore year month + daysInMonth year month := by
  cases month with
  | zero => omega
  | succ month => rfl

/-- The days of a month come before every later month. -/
theorem daysBefore_of_lt (year : Int) (positive : 1 ≤ month) (later : month < other) :
    daysBefore year month + daysInMonth year month ≤ daysBefore year other := by
  induction other with
  | zero => omega
  | succ other ih =>
    rw [daysBefore_succ year (by omega)]
    by_cases last : month = other
    · exact Nat.le_of_eq (by rw [last])
    · have earlier := ih (by omega)
      omega

/-! ## Years -/

/-- The number of the first of January, counted like `epochDay`. -/
def newYear (year : Int) : Int :=
  365 * (year - 1) + (year - 1) / 4 - (year - 1) / 100 + (year - 1) / 400 - 719162

theorem epochDay_eq (d : Date) :
    d.epochDay = newYear d.year + daysBefore d.year d.month + (d.day - 1) := by
  simp only [epochDay, newYear]
  omega

/-- The days of the first eleven months, which is where the leap day falls. -/
theorem daysBefore_december (year : Int) :
    (daysBefore year 12 : Int) + 31 = newYear (year + 1) - newYear year := by
  have months : daysBefore year 12 = daysInMonth year 2 + 306 := by
    simp [daysBefore, daysInMonth]
    omega
  have leap : (daysInMonth year 2 : Int) = 28 + (year / 4 - (year - 1) / 4) -
      (year / 100 - (year - 1) / 100) + (year / 400 - (year - 1) / 400) := by
    have rule : isLeap year = true ↔ year % 4 = 0 ∧ year % 100 ≠ 0 ∨ year % 400 = 0 := by
      simp only [isLeap, Bool.or_eq_true, Bool.and_eq_true, beq_iff_eq, bne_iff_ne, ne_eq]
    have february : daysInMonth year 2 = if isLeap year then 29 else 28 := rfl
    by_cases longer : isLeap year = true
    · rw [february, if_pos longer]
      have divides := rule.mp longer
      omega
    · rw [february, if_neg longer]
      have divides := mt rule.mpr longer
      omega
  simp only [newYear]
  omega

theorem newYear_mono {first second : Int} (earlier : first ≤ second) :
    newYear first ≤ newYear second := by
  simp only [newYear]
  omega

/-- A date lies between the beginnings of its year and of the next one. -/
theorem epochDay_bounds (real : d.exists? = true) :
    newYear d.year ≤ d.epochDay ∧ d.epochDay < newYear (d.year + 1) := by
  obtain ⟨⟨first, last⟩, begun, ended⟩ := exists?_iff.mp real
  have whole := daysBefore_december d.year
  have month : daysBefore d.year d.month + daysInMonth d.year d.month ≤ daysBefore d.year 12 + 31 := by
    by_cases december : d.month = 12
    · exact Nat.le_of_eq (by rw [december, daysInMonth_december])
    · have earlier := daysBefore_of_lt d.year first (show d.month < 12 by omega)
      omega
  rw [epochDay_eq]
  omega

/-! ## Neighbours -/

theorem epochDay_next (real : d.exists? = true) : d.next.epochDay = d.epochDay + 1 := by
  obtain ⟨⟨first, last⟩, begun, ended⟩ := exists?_iff.mp real
  unfold next
  split
  case isTrue within =>
    rw [epochDay_eq, epochDay_eq]
    dsimp only
    omega
  case isFalse full =>
    have day : d.day = daysInMonth d.year d.month := by omega
    split
    case isTrue early =>
      have month := daysBefore_succ d.year first
      rw [epochDay_eq, epochDay_eq]
      dsimp only
      omega
    case isFalse late =>
      have december : d.month = 12 := by omega
      have year := daysBefore_december d.year
      rw [december, daysInMonth_december] at day
      have none : daysBefore (d.year + 1) 1 = 0 := rfl
      rw [epochDay_eq, epochDay_eq, december]
      dsimp only
      omega

theorem exists?_next (real : d.exists? = true) : d.next.exists? = true := by
  obtain ⟨⟨first, last⟩, begun, ended⟩ := exists?_iff.mp real
  rw [exists?_iff]
  unfold next
  split
  case isTrue within => exact ⟨⟨first, last⟩, Nat.le_add_left 1 _, within⟩
  case isFalse =>
    split
    case isTrue early => exact ⟨⟨Nat.le_add_left 1 _, early⟩, Nat.le_refl 1, daysInMonth_pos _ _⟩
    case isFalse =>
      have day := daysInMonth_pos (d.year + 1) 1
      dsimp only
      omega

theorem exists?_prev (real : d.exists? = true) : d.prev.exists? = true := by
  obtain ⟨⟨first, last⟩, begun, ended⟩ := exists?_iff.mp real
  rw [exists?_iff]
  unfold prev
  split
  case isTrue later =>
    dsimp only
    omega
  case isFalse =>
    split
    case isTrue later =>
      have day := daysInMonth_pos d.year (d.month - 1)
      dsimp only
      omega
    case isFalse =>
      dsimp only
      rw [daysInMonth_december]
      omega

/-- The day after the day before is the day itself. -/
theorem next_prev (real : d.exists? = true) : d.prev.next = d := by
  obtain ⟨⟨first, last⟩, begun, ended⟩ := exists?_iff.mp real
  obtain ⟨year, month, day⟩ := d
  dsimp only at first last begun ended
  unfold prev next
  dsimp only
  split
  case isTrue within =>
    rw [if_pos (by dsimp only; omega)]
    simp only [mk.injEq, true_and]
    omega
  case isFalse =>
    have one : day = 1 := by omega
    split
    case isTrue within =>
      rw [if_neg (Nat.lt_irrefl _), if_pos (by dsimp only; omega)]
      simp only [mk.injEq, true_and]
      omega
    case isFalse =>
      have january : month = 1 := by omega
      rw [if_neg (by simp [daysInMonth_december]), if_neg (by simp)]
      simp only [mk.injEq]
      omega

theorem epochDay_prev (real : d.exists? = true) : d.prev.epochDay = d.epochDay - 1 := by
  have forth := epochDay_next (exists?_prev real)
  rw [next_prev real] at forth
  omega

/-! ## Numbers and dates -/

/-- A date of the calendar is known by its number. -/
theorem epochDay_inj (realD : d.exists? = true) (realE : e.exists? = true) :
    d.epochDay = e.epochDay ↔ d = e := by
  refine ⟨fun same => ?_, fun same => same ▸ rfl⟩
  obtain ⟨yearD, monthD, dayD⟩ := d
  obtain ⟨yearE, monthE, dayE⟩ := e
  have boundsD := epochDay_bounds realD
  have boundsE := epochDay_bounds realE
  dsimp only at boundsD boundsE
  have years : yearD = yearE := by
    rcases Int.lt_trichotomy yearD yearE with less | equal | more
    · have apart := newYear_mono (show yearD + 1 ≤ yearE by omega)
      omega
    · exact equal
    · have apart := newYear_mono (show yearE + 1 ≤ yearD by omega)
      omega
  subst years
  obtain ⟨⟨firstD, -⟩, begunD, endedD⟩ := exists?_iff.mp realD
  obtain ⟨⟨firstE, -⟩, begunE, endedE⟩ := exists?_iff.mp realE
  rw [epochDay_eq, epochDay_eq] at same
  dsimp only at firstD begunD endedD firstE begunE endedE same
  have months : monthD = monthE := by
    rcases Nat.lt_trichotomy monthD monthE with less | equal | more
    · have apart := daysBefore_of_lt yearD firstD less
      omega
    · exact equal
    · have apart := daysBefore_of_lt yearD firstE more
      omega
  subst months
  have days : dayD = dayE := by omega
  rw [days]

end TokenDesk.Time.Date
