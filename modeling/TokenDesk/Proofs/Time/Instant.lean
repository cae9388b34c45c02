import TokenDesk.Proofs.Text.Written
import TokenDesk.Time.Instant

/-!
# Written instants read back

An instant with whole milliseconds is read from its written form, an instant inside a leap second too
(`parse?_millisText`). The form has no blanks.
-/

set_option autoImplicit false

namespace TokenDesk

open TokenDesk.Text

namespace Time.Instant

/-! ## Parts of the written form -/

theorem number?_of_digits (rest : List Char) {cs : List Char} (all : ∀ c ∈ cs, isDigit c = true)
    (n : Nat) : number? cs.length n (cs ++ rest) =
      some (cs.foldl (fun n c => n * 10 + digitValue c) n, rest) := by
  induction cs generalizing n with
  | nil => rfl
  | cons c cs ih =>
    have first : isDigit c = true := all c (by simp)
    have others := ih fun c member => all c (by simp [member])
    simp [number?, digit?, first, others]

theorem number?_padded (width : Nat) {n : Nat} (positive : 0 < width) (fits : n < 10 ^ width)
    (rest : List Char) : number? width 0 (padded width n ++ rest) = some (n, rest) := by
  have all : ∀ c ∈ padded width n, isDigit c = true := fun c => isDigit_of_mem_padded
  have read := number?_of_digits rest all 0
  rw [padded_length positive fits] at read
  rw [read]
  exact congrArg (fun m => some (m, rest)) (natOfDigits_padded width n)

theorem mark?_head {marks : List Char} {c : Char} (among : c ∈ marks) (cs : List Char) :
    mark? marks (c :: cs) = some cs :=
  if_pos among

theorem daysInMonth_le (year : Int) (month : Nat) : Date.daysInMonth year month ≤ 31 := by
  unfold Date.daysInMonth
  split
  · split <;> omega
  · split <;> omega

theorem date?_chars {d : Date} (real : d.exists? = true) (early : 0 ≤ d.year) (late : d.year ≤ 9999)
    (rest : List Char) : date? (d.chars ++ rest) = some (d, rest) := by
  obtain ⟨year, month, day⟩ := d
  obtain ⟨year, rfl⟩ := Int.eq_ofNat_of_zero_le early
  have latest : year ≤ 9999 := Int.ofNat_le.mp late
  have bounds : month < 10 ^ 2 ∧ day < 10 ^ 2 := by
    have longest := daysInMonth_le year month
    simp only [Date.exists?, Bool.and_eq_true, decide_eq_true_eq] at real
    omega
  have shape : (⟨year, month, day⟩ : Date).chars ++ rest =
      padded 4 year ++ '-' :: (padded 2 month ++ '-' :: (padded 2 day ++ rest)) := by
    simp only [Date.chars, Date.yearChars, Int.natCast_nonneg, late, decide_true, Bool.and_true,
      if_true, Int.toNat_natCast]
    simp
  have first := number?_padded 4 (by decide) (Nat.lt_succ_of_le latest)
    ('-' :: (padded 2 month ++ '-' :: (padded 2 day ++ rest)))
  have second := number?_padded 2 (by decide) bounds.1 ('-' :: (padded 2 day ++ rest))
  have third := number?_padded 2 (by decide) bounds.2 rest
  have hyphen (cs : List Char) : mark? ['-'] ('-' :: cs) = some cs := mark?_head (by simp) cs
  simp [date?, shape, first, second, third, hyphen, real]

theorem clock?_chars {hour minute second : Nat} (hours : hour < 24) (minutes : minute < 60)
    (seconds : second ≤ 60) (rest : List Char) :
    clock? (padded 2 hour ++ ':' :: (padded 2 minute ++ ':' :: (padded 2 second ++ rest))) =
      if second = 60 then some (hour * 3600 + minute * 60 + 59, nanosPerSecond, rest)
      else some (hour * 3600 + minute * 60 + second, 0, rest) := by
  have first := number?_padded 2 (by decide) (show hour < 10 ^ 2 by omega)
    (':' :: (padded 2 minute ++ ':' :: (padded 2 second ++ rest)))
  have middle := number?_padded 2 (by decide) (show minute < 10 ^ 2 by omega)
    (':' :: (padded 2 second ++ rest))
  have last := number?_padded 2 (by decide) (show second < 10 ^ 2 by omega) rest
  have colon (cs : List Char) : mark? [':'] (':' :: cs) = some cs := mark?_head (by simp) cs
  simp [clock?, first, middle, last, colon, hours, minutes, seconds]

theorem fraction?_millis {millis : Nat} (fits : millis < 1000) :
    fraction? ('.' :: (padded 3 millis ++ ['Z'])) = some (millis * 1000000, ['Z']) := by
  have all : ∀ c ∈ padded 3 millis, isDigit c = true := fun c => isDigit_of_mem_padded
  have three : (padded 3 millis).length = 3 := padded_length (by decide) fits
  have there : (padded 3 millis).isEmpty = false := by
    rw [List.isEmpty_eq_false_iff, ← List.length_pos_iff, three]
    decide
  have run : (padded 3 millis ++ ['Z']).takeWhile isDigit = padded 3 millis := by
    rw [List.takeWhile_append_of_pos all]
    simp [isDigit]
  have behind : (padded 3 millis ++ ['Z']).dropWhile isDigit = ['Z'] := by
    rw [List.dropWhile_append_of_pos all]
    rfl
  have nanos : nanosOf (padded 3 millis) = millis * 1000000 := by
    rw [nanosOf, List.take_of_length_le (by omega), natOfDigits_padded, three]
    rfl
  simp [fraction?, run, behind, there, nanos]

/-- A date of the calendar, a second of the day, and nanoseconds that go past the second only where a leap
second is. -/
structure Proper (t : Instant) : Prop where
  real : t.date.exists? = true
  second : t.second < secondsPerDay
  nano : t.nano < 2 * nanosPerSecond
  leap : nanosPerSecond ≤ t.nano → t.second % 60 = 59

theorem Proper.truncate {t : Instant} (proper : t.Proper) : t.truncate.Proper := by
  obtain ⟨real, second, nano, leap⟩ := proper
  refine ⟨real, second, ?_, fun past => leap ?_⟩
  · simp only [Instant.truncate, nanosPerSecond] at nano ⊢
    omega
  · simp only [Instant.truncate, nanosPerSecond] at past ⊢
    omega

/-- What a clock gives: a date with a year of four digits, a second of the day, and nanoseconds that go
past the second only where a leap second is. -/
structure OfClock (t : Instant) : Prop where
  real : t.date.exists? = true
  early : 0 ≤ t.date.year
  late : t.date.year ≤ 9999
  second : t.second < secondsPerDay
  nano : t.nano < 2 * nanosPerSecond
  leap : nanosPerSecond ≤ t.nano → t.second % 60 = 59

theorem Proper.ofClock {t : Instant} (proper : t.Proper) (early : 0 ≤ t.date.year)
    (late : t.date.year ≤ 9999) : t.OfClock :=
  ⟨proper.real, early, late, proper.second, proper.nano, proper.leap⟩

theorem OfClock.proper {t : Instant} (clock : t.OfClock) : t.Proper :=
  ⟨clock.real, clock.second, clock.nano, clock.leap⟩

theorem OfClock.truncate {t : Instant} (clock : t.OfClock) : t.truncate.OfClock :=
  clock.proper.truncate.ofClock clock.early clock.late

theorem truncate_truncate (t : Instant) : t.truncate.truncate = t.truncate := by
  simp [truncate]

/-- The time of the day is read where it is written. -/
theorem clock?_of_clock {t : Instant} (clock : t.OfClock) (rest : List Char) :
    clock? (padded 2 (t.second / 3600) ++ ':' :: (padded 2 (t.second / 60 % 60) ++
      ':' :: (padded 2 (t.second % 60 + t.nano / nanosPerSecond) ++ rest))) =
        some (t.second, t.nano / nanosPerSecond * nanosPerSecond, rest) := by
  obtain ⟨-, -, -, day, nano, leap⟩ := clock
  simp only [secondsPerDay, nanosPerSecond] at day nano leap ⊢
  have carry : t.nano / 1000000000 ≤ 1 := by omega
  rw [clock?_chars (by omega) (by omega) (by omega)]
  split
  case isTrue inLeap =>
    have one : t.nano / 1000000000 = 1 := by omega
    have joined : t.second / 3600 * 3600 + t.second / 60 % 60 * 60 + 59 = t.second := by omega
    rw [one, joined]
    rfl
  case isFalse plain =>
    have none : t.nano / 1000000000 = 0 := by omega
    have joined : t.second / 3600 * 3600 + t.second / 60 % 60 * 60 +
        (t.second % 60 + t.nano / 1000000000) = t.second := by omega
    rw [joined, none]

theorem ofLocal_zero (date : Date) {second : Nat} (day : second < secondsPerDay) (nano : Nat) :
    ofLocal date second nano 0 = ⟨date, second, nano⟩ := by
  have begun : ¬ (second : Int) < 0 := by omega
  have inside : ¬ (secondsPerDay : Int) ≤ second := by omega
  simp [ofLocal, begun, inside]

theorem whole_millis {t : Instant} (whole : t.truncate = t) :
    t.nano / nanosPerSecond * nanosPerSecond + t.shownNanos / 1000000 * 1000000 = t.nano := by
  have millis : t.truncate.nano = t.nano := by rw [whole]
  have seconds : t.nano / nanosPerSecond = t.nano / 1000000 / 1000 := by
    rw [Nat.div_div_eq_div_mul]
    rfl
  have rest : t.shownNanos / 1000000 = t.nano / 1000000 % 1000 :=
    Nat.mod_mul_right_div_self t.nano 1000000 1000
  have scale : nanosPerSecond = 1000 * 1000000 := rfl
  rw [seconds, rest, scale, ← Nat.mul_assoc, ← Nat.add_mul, Nat.div_add_mod']
  exact millis

/-- An instant with whole milliseconds is read where it is written. -/
theorem parse?_millisText {t : Instant} (clock : t.OfClock) (whole : t.truncate = t) :
    parse? t.millisText = some t := by
  have shape : t.millisChars = t.date.chars ++ 'T' :: (padded 2 (t.second / 3600) ++
      ':' :: (padded 2 (t.second / 60 % 60) ++
        ':' :: (padded 2 (t.second % 60 + t.nano / nanosPerSecond) ++
          '.' :: (padded 3 (t.shownNanos / 1000000) ++ ['Z'])))) := by
    simp [millisChars, secondChars]
  have fits : t.shownNanos / 1000000 < 1000 := by
    simp only [shownNanos, nanosPerSecond]
    omega
  have letter (cs : List Char) : mark? ['T', 't', ' '] ('T' :: cs) = some cs := mark?_head (by simp) cs
  have nanos := whole_millis whole
  have zone : offset? ['Z'] = some 0 := rfl
  have result := ofLocal_zero t.date clock.second t.nano
  simp [parse?, millisText, parseChars?, shape, date?_chars clock.real clock.early clock.late, letter,
    clock?_of_clock clock, fraction?_millis fits, zone, nanos, result]

/-- What a written instant is made of. -/
theorem mem_millisChars {t : Instant} {c : Char} (member : c ∈ t.millisChars) :
    isDigit c = true ∨ c ∈ ['+', '-', 'T', ':', '.', 'Z'] := by
  have number {width n : Nat} (among : c ∈ padded width n) : isDigit c = true :=
    isDigit_of_mem_padded among
  have year (year : Int) (among : c ∈ Date.yearChars year) : isDigit c = true ∨ c ∈ ['+', '-'] := by
    unfold Date.yearChars at among
    split at among
    · exact .inl (number among)
    · rcases List.mem_cons.mp among with sign | digit
      · right
        split at sign <;> simp [sign]
      · exact .inl (number digit)
  -- the parts one after the other: each a number, the year, or a mark
  simp only [millisChars, secondChars, Date.chars, List.mem_append, List.mem_cons,
    List.not_mem_nil, or_false] at member ⊢
  grind

theorem unblank_millisChars {t : Instant} {c : Char} (member : c ∈ t.millisChars) :
    isBlank c = false := by
  rcases mem_millisChars member with digit | mark
  · exact isBlank_of_isDigit digit
  · have each : ['+', '-', 'T', ':', '.', 'Z'].all (!isBlank ·) = true := by decide
    simpa using List.all_eq_true.mp each c mark

end Time.Instant

end TokenDesk
