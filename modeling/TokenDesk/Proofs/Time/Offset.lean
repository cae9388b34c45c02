import TokenDesk.Proofs.Time.Calendar
import TokenDesk.Proofs.Time.Instant

/-!
# Instants written at an offset

A date and a time of the day at an offset denote one instant on the line of seconds (`Denotes`), and
that instant is what their text is read as, across the end of a day, a month, a year or a century
(`Reads.denotes`). It is written again as a text that is read just if its year has four digits, and two
texts are written alike just if they denote the same millisecond (`millisText_reread`).
-/

set_option autoImplicit false

namespace TokenDesk.Time

open TokenDesk.Text

/-- A date and a time of the day as they are written, at an offset in minutes. Nanoseconds past the
second are those of a leap second. -/
structure LocalTime where
  date : Date
  second : Nat
  nano : Nat
  offset : Int
  deriving DecidableEq, Repr

namespace LocalTime

/-- The seconds from the beginning of 1970 in universal time. -/
def epochSecond (l : LocalTime) : Int :=
  l.date.epochDay * Instant.secondsPerDay + l.second - l.offset * 60

def instant (l : LocalTime) : Instant :=
  .ofLocal l.date l.second l.nano l.offset

/-- A date of the calendar and a time that a clock shows. -/
structure Proper (l : LocalTime) : Prop where
  real : l.date.exists? = true
  second : l.second < Instant.secondsPerDay
  nano : l.nano < 2 * Instant.nanosPerSecond
  leap : Instant.nanosPerSecond ≤ l.nano → l.second % 60 = 59
  offset : -1440 < l.offset ∧ l.offset < 1440

end LocalTime

namespace Instant

variable {t u : Instant} {l m : LocalTime} {text other : String}

/-- The seconds from the beginning of 1970. -/
def epochSecond (t : Instant) : Int :=
  t.date.epochDay * secondsPerDay + t.second

/-- Date and second are known by the seconds from the beginning of 1970. -/
theorem Proper.epochSecond_inj (first : t.Proper) (second : u.Proper) :
    t.epochSecond = u.epochSecond ↔ t.date = u.date ∧ t.second = u.second := by
  have within := first.second
  have inside := second.second
  simp only [epochSecond, secondsPerDay] at within inside ⊢
  constructor
  · intro same
    have day : t.date.epochDay = u.date.epochDay := by omega
    exact ⟨(Date.epochDay_inj first.real second.real).mp day, by omega⟩
  · rintro ⟨date, second⟩
    rw [date, second]

/-! ## Local times and instants -/

/-- The instant in universal time that a local time stands for. -/
structure Denotes (l : LocalTime) (t : Instant) : Prop where
  proper : t.Proper
  seconds : t.epochSecond = l.epochSecond
  nano : t.nano = l.nano

theorem denotes_instant (proper : l.Proper) : Denotes l l.instant := by
  obtain ⟨real, second, nano, leap, behind, before⟩ := proper
  simp only [secondsPerDay] at second
  -- The shifted second lies in the day before, in the day after or in the day itself.
  unfold LocalTime.instant ofLocal
  dsimp only
  split
  case isTrue early =>
    have day := Date.epochDay_prev real
    refine ⟨⟨Date.exists?_prev real, ?_, nano, fun past => ?_⟩, ?_, rfl⟩
    · simp only [secondsPerDay]
      omega
    · have minute := leap past
      simp only [secondsPerDay]
      omega
    · simp only [epochSecond, LocalTime.epochSecond, secondsPerDay]
      omega
  case isFalse begun =>
    split
    case isTrue late =>
      have day := Date.epochDay_next real
      simp only [secondsPerDay] at late
      refine ⟨⟨Date.exists?_next real, ?_, nano, fun past => ?_⟩, ?_, rfl⟩
      · simp only [secondsPerDay]
        omega
      · have minute := leap past
        simp only [secondsPerDay]
        omega
      · simp only [epochSecond, LocalTime.epochSecond, secondsPerDay]
        omega
    case isFalse inside =>
      simp only [secondsPerDay] at inside
      refine ⟨⟨real, ?_, nano, fun past => ?_⟩, ?_, rfl⟩
      · simp only [secondsPerDay]
        omega
      · have minute := leap past
        dsimp only
        omega
      · simp only [epochSecond, LocalTime.epochSecond, secondsPerDay]
        omega

/-! ## Texts and local times -/

/-- The text is read part by part as a local time. -/
def Reads (text : String) (l : LocalTime) : Prop :=
  ∃ behindDate behindMark leap behindClock fraction behindFraction,
    date? text.toList = some (l.date, behindDate) ∧ mark? ['T', 't', ' '] behindDate = some behindMark ∧
      clock? behindMark = some (l.second, leap, behindClock) ∧
        fraction? behindClock = some (fraction, behindFraction) ∧
          offset? behindFraction = some l.offset ∧ l.nano = leap + fraction

/-- A text is accepted just if it is read as a local time, and then as the instant of that time. -/
theorem parse?_eq_some_iff : parse? text = some t ↔ ∃ l, Reads text l ∧ l.instant = t := by
  simp only [parse?, parseChars?, Option.bind_eq_bind, Option.bind_eq_some_iff, Prod.exists,
    Option.some.injEq]
  constructor
  · rintro ⟨date, behindDate, first, behindMark, mark, second, leap, behindClock, clock, fraction,
      behindFraction, more, offset, zone, same⟩
    exact ⟨⟨date, second, leap + fraction, offset⟩, ⟨behindDate, behindMark, leap, behindClock, fraction,
      behindFraction, first, mark, clock, more, zone, rfl⟩, same⟩
  · rintro ⟨⟨date, second, nano, offset⟩, ⟨behindDate, behindMark, leap, behindClock, fraction,
      behindFraction, first, mark, clock, more, zone, sum⟩, same⟩
    cases sum
    exact ⟨date, behindDate, first, behindMark, mark, second, leap, behindClock, clock, fraction,
      behindFraction, more, offset, zone, same⟩

theorem exists?_of_date? {cs rest : List Char} {date : Date} (read : date? cs = some (date, rest)) :
    date.exists? = true := by
  simp only [date?, Option.bind_eq_bind, Option.bind_eq_some_iff, Prod.exists] at read
  obtain ⟨year, behindYear, -, behindMark, -, month, behindMonth, -, again, -, day, behindDay, -, found⟩ :=
    read
  split at found
  case isTrue real =>
    cases found
    exact real
  case isFalse => cases found

/-- What a clock shows: a second of the day, and a second more of nanoseconds in a leap second. -/
theorem clock?_bounds {cs rest : List Char} {second leap : Nat}
    (read : clock? cs = some (second, leap, rest)) : second < secondsPerDay ∧
      (leap = 0 ∨ leap = nanosPerSecond ∧ second % 60 = 59) := by
  simp only [clock?, Option.bind_eq_bind, Option.bind_eq_some_iff, Prod.exists] at read
  obtain ⟨hour, behindHour, -, behindColon, -, minute, behindMinute, -, again, -, last, behindLast, -,
    found⟩ := read
  simp only [secondsPerDay]
  split at found
  case isTrue shown =>
    simp only [Bool.and_eq_true, decide_eq_true_eq] at shown
    split at found
    case isTrue =>
      cases found
      omega
    case isFalse =>
      cases found
      omega
  case isFalse => cases found

theorem nanosOf_lt {run : List Char} (all : ∀ c ∈ run, isDigit c = true) :
    nanosOf run < nanosPerSecond := by
  have kept : (run.take 9).length ≤ 9 := List.length_take_le 9 run
  have value : natOfDigits (run.take 9) < 10 ^ (run.take 9).length :=
    natOfDigits_lt fun c member => all c (List.mem_of_mem_take member)
  have filled : 10 ^ (run.take 9).length * tenTo (9 - (run.take 9).length) = nanosPerSecond := by
    change 10 ^ (run.take 9).length * 10 ^ (9 - (run.take 9).length) = nanosPerSecond
    rw [← Nat.pow_add, Nat.add_sub_cancel' kept]
    rfl
  rw [nanosOf, ← filled]
  exact Nat.mul_lt_mul_of_pos_right value (tenTo_pos _)

theorem fraction?_lt {cs rest : List Char} {nano : Nat} (read : fraction? cs = some (nano, rest)) :
    nano < nanosPerSecond := by
  unfold fraction? at read
  split at read
  case h_1 cs =>
    dsimp only at read
    split at read
    · cases read
    · cases read
      exact nanosOf_lt fun c member => List.all_eq_true.mp List.all_takeWhile c member
  case h_2 =>
    cases read
    decide

theorem offset?_bounds {cs : List Char} {offset : Int} (read : offset? cs = some offset) :
    -1440 < offset ∧ offset < 1440 := by
  unfold offset? at read
  split at read
  case h_1 | h_2 =>
    cases read
    decide
  case h_3 sign cs _ _ =>
    -- Whatever the sign, the same numbers stand behind it.
    have numbers : ∃ hours minutes : Nat, hours < 24 ∧ minutes < 60 ∧
        (offset = (hours * 60 + minutes : Nat) ∨ offset = -((hours * 60 + minutes : Nat) : Int)) := by
      dsimp only at read
      split at read
      case' isFalse => split at read
      case isFalse.isFalse => cases read
      all_goals
        simp only [Option.bind_eq_bind, Option.bind_some, Option.bind_eq_some_iff, Prod.exists] at read
        obtain ⟨hours, behindHours, -, behindColon, -, minutes, rest, -, found⟩ := read
        split at found
        case isTrue shown =>
          simp only [Bool.and_eq_true, decide_eq_true_eq] at shown
          cases found
          exact ⟨hours, minutes, shown.1.1, shown.1.2, by simp⟩
        case isFalse => cases found
    obtain ⟨hours, minutes, day, hour, plain | minus⟩ := numbers <;> omega
  case h_4 => cases read

theorem Reads.proper (reads : Reads text l) : l.Proper := by
  obtain ⟨behindDate, behindMark, leap, behindClock, fraction, behindFraction, date, -, clock, more, zone,
    sum⟩ := reads
  obtain ⟨second, leaps⟩ := clock?_bounds clock
  have below := fraction?_lt more
  simp only [nanosPerSecond] at leaps below
  refine ⟨exists?_of_date? date, second, ?_, fun past => ?_, offset?_bounds zone⟩
  · simp only [nanosPerSecond]
    omega
  · simp only [nanosPerSecond] at past
    omega

theorem Reads.denotes (reads : Reads text l) : Denotes l l.instant :=
  denotes_instant reads.proper

/-! ## Written forms -/

theorem padded_inj {width n m : Nat} : padded width n = padded width m ↔ n = m := by
  refine ⟨fun same => ?_, fun same => same ▸ rfl⟩
  rw [← natOfDigits_padded width n, same, natOfDigits_padded]

/-- A number in its place is told apart from what follows it. -/
theorem padded_append_inj {width n m : Nat} {rest more : List Char} (positive : 0 < width)
    (first : n < 10 ^ width) (second : m < 10 ^ width) :
    padded width n ++ rest = padded width m ++ more ↔ n = m ∧ rest = more := by
  have lengths : (padded width n).length = (padded width m).length := by
    rw [padded_length positive first, padded_length positive second]
  constructor
  · intro same
    obtain ⟨number, behind⟩ := List.append_inj same lengths
    exact ⟨padded_inj.mp number, behind⟩
  · rintro ⟨rfl, rfl⟩
    rfl

/-- The sign of a year outside four digits. -/
def yearSign (year : Int) : Char :=
  if year < 0 then '-' else '+'

theorem isDigit_yearSign (year : Int) : isDigit (yearSign year) = false := by
  unfold yearSign
  split <;> decide

theorem yearSign_inj {year other : Int} : yearSign year = yearSign other ↔ (year < 0 ↔ other < 0) := by
  unfold yearSign
  by_cases first : year < 0 <;> by_cases second : other < 0 <;> simp [first, second]

theorem yearChars_of_four {year : Int} (inside : 0 ≤ year ∧ year ≤ 9999) :
    Date.yearChars year = padded 4 year.toNat :=
  if_pos (by simpa using inside)

theorem yearChars_of_more {year : Int} (outside : ¬ (0 ≤ year ∧ year ≤ 9999)) :
    Date.yearChars year = yearSign year :: padded 4 year.natAbs :=
  if_neg (by simpa using outside)

theorem yearChars_inj {year other : Int} :
    Date.yearChars year = Date.yearChars other ↔ year = other := by
  refine ⟨fun same => ?_, fun same => same ▸ rfl⟩
  -- A sign is no digit, so both years have four digits or neither has.
  have unsigned (year : Int) (n m : Nat) : padded 4 n ≠ yearSign year :: padded 4 m := fun equal => by
    have digit : isDigit (yearSign year) = true :=
      isDigit_of_mem_padded (by rw [equal]; exact List.mem_cons_self)
    rw [isDigit_yearSign] at digit
    cases digit
  by_cases inside : 0 ≤ year ∧ year ≤ 9999
  · by_cases within : 0 ≤ other ∧ other ≤ 9999
    · rw [yearChars_of_four inside, yearChars_of_four within] at same
      have number := padded_inj.mp same
      omega
    · rw [yearChars_of_four inside, yearChars_of_more within] at same
      exact absurd same (unsigned _ _ _)
  · by_cases within : 0 ≤ other ∧ other ≤ 9999
    · rw [yearChars_of_more inside, yearChars_of_four within] at same
      exact absurd same.symm (unsigned _ _ _)
    · rw [yearChars_of_more inside, yearChars_of_more within] at same
      obtain ⟨signs, numbers⟩ := List.cons.inj same
      have number := padded_inj.mp numbers
      have side := yearSign_inj.mp signs
      omega

/-- The written form behind the year. -/
def behindYear (t : Instant) : List Char :=
  '-' :: (padded 2 t.date.month ++ '-' :: (padded 2 t.date.day ++ 'T' :: (padded 2 (t.second / 3600) ++
    ':' :: (padded 2 (t.second / 60 % 60) ++
      ':' :: (padded 2 (t.second % 60 + t.nano / nanosPerSecond) ++
        '.' :: (padded 3 (t.shownNanos / 1000000) ++ ['Z']))))))

theorem millisChars_eq (t : Instant) : t.millisChars = Date.yearChars t.date.year ++ t.behindYear := by
  simp [millisChars, secondChars, Date.chars, behindYear]

/-- The numbers that are shown fit their places. -/
theorem Proper.fits (proper : t.Proper) : t.date.month < 10 ^ 2 ∧ t.date.day < 10 ^ 2 ∧
    t.second / 3600 < 10 ^ 2 ∧ t.second / 60 % 60 < 10 ^ 2 ∧
      t.second % 60 + t.nano / nanosPerSecond < 10 ^ 2 ∧ t.shownNanos / 1000000 < 10 ^ 3 := by
  obtain ⟨real, second, nano, -⟩ := proper
  obtain ⟨months, days⟩ := Date.exists?_iff.mp real
  have longest := daysInMonth_le t.date.year t.date.month
  simp only [secondsPerDay, nanosPerSecond, shownNanos] at second nano ⊢
  omega

theorem Proper.length_behindYear (proper : t.Proper) : t.behindYear.length = 20 := by
  obtain ⟨month, day, hour, minute, second, milli⟩ := proper.fits
  have two {n : Nat} (fits : n < 10 ^ 2) : (padded 2 n).length = 2 := padded_length (by decide) fits
  have three : (padded 3 (t.shownNanos / 1000000)).length = 3 := padded_length (by decide) milli
  simp only [behindYear, List.length_cons, List.length_append, two month, two day, two hour, two minute,
    two second, three, List.length_nil]

/-- Instants are written alike just if they agree down to the millisecond. -/
theorem Proper.millisText_inj (first : t.Proper) (second : u.Proper) : t.millisText = u.millisText ↔
    t.date = u.date ∧ t.second = u.second ∧ t.nano / 1000000 = u.nano / 1000000 := by
  obtain ⟨monthT, dayT, hourT, minuteT, secondT, milliT⟩ := first.fits
  obtain ⟨monthU, dayU, hourU, minuteU, secondU, milliU⟩ := second.fits
  have years : t.millisChars = u.millisChars ↔
      t.date.year = u.date.year ∧ t.behindYear = u.behindYear := by
    rw [millisChars_eq, millisChars_eq]
    constructor
    · intro same
      obtain ⟨year, behind⟩ :=
        List.append_inj' same (first.length_behindYear.trans second.length_behindYear.symm)
      exact ⟨yearChars_inj.mp year, behind⟩
    · rintro ⟨year, behind⟩
      rw [year, behind]
  have places : t.behindYear = u.behindYear ↔ t.date.month = u.date.month ∧ t.date.day = u.date.day ∧
      t.second / 3600 = u.second / 3600 ∧ t.second / 60 % 60 = u.second / 60 % 60 ∧
        t.second % 60 + t.nano / nanosPerSecond = u.second % 60 + u.nano / nanosPerSecond ∧
          t.shownNanos / 1000000 = u.shownNanos / 1000000 := by
    simp only [behindYear, List.cons.injEq, true_and, padded_append_inj (by decide : 0 < 2) monthT monthU,
      padded_append_inj (by decide : 0 < 2) dayT dayU, padded_append_inj (by decide : 0 < 2) hourT hourU,
      padded_append_inj (by decide : 0 < 2) minuteT minuteU,
      padded_append_inj (by decide : 0 < 2) secondT secondU,
      padded_append_inj (by decide : 0 < 3) milliT milliU, and_true]
  have dates : t.date = u.date ↔ t.date.year = u.date.year ∧ t.date.month = u.date.month ∧
      t.date.day = u.date.day := by
    rw [Date.mk.injEq]
  obtain ⟨-, -, nanoT, leapT⟩ := first
  obtain ⟨-, -, nanoU, leapU⟩ := second
  rw [millisText, millisText, String.ofList_inj, years, places, dates]
  simp only [nanosPerSecond, shownNanos] at *
  omega

/-- A year outside four digits is written with a sign, and no text with a sign in front is read. -/
theorem parse?_millisText_of_more (outside : ¬ (0 ≤ t.date.year ∧ t.date.year ≤ 9999)) :
    parse? t.millisText = none := by
  have refused (cs : List Char) : digit? (yearSign t.date.year :: cs) = none := by
    simp [digit?, isDigit_yearSign]
  rw [parse?, millisText, String.toList_ofList, millisChars_eq, yearChars_of_more outside,
    List.cons_append, parseChars?, date?, number?, refused]
  rfl

/-! ## Reading again what is written -/

/-- An accepted text denotes one instant, whatever its offset. What is written of the instant is
accepted again just if the year in universal time has four digits. Then it is read as the instant
without what is below a millisecond, a leap second kept, and written as the same text. Two accepted
texts are written alike just if they denote the same millisecond. -/
theorem millisText_reread (read : parse? text = some t) (otherRead : parse? other = some u) :
    ∃ l m, Reads text l ∧ Reads other m ∧ Denotes l t ∧ Denotes m u ∧
      ((parse? t.millisText).isSome ↔ 0 ≤ t.date.year ∧ t.date.year ≤ 9999) ∧
      (∀ v, parse? t.millisText = some v → v = t.truncate ∧ v.millisText = t.millisText) ∧
      (t.millisText = u.millisText ↔
        l.epochSecond = m.epochSecond ∧ l.nano / 1000000 = m.nano / 1000000) := by
  obtain ⟨l, first, rfl⟩ := parse?_eq_some_iff.mp read
  obtain ⟨m, second, rfl⟩ := parse?_eq_some_iff.mp otherRead
  have denoted := first.denotes
  have otherDenoted := second.denotes
  have proper := denoted.proper
  have written : l.instant.truncate.millisText = l.instant.millisText :=
    (proper.truncate.millisText_inj proper).mpr ⟨rfl, rfl, by simp [truncate]⟩
  have again (inside : 0 ≤ l.instant.date.year ∧ l.instant.date.year ≤ 9999) :
      parse? l.instant.millisText = some l.instant.truncate := by
    rw [← written]
    exact parse?_millisText (proper.truncate.ofClock inside.1 inside.2) (truncate_truncate _)
  refine ⟨l, m, first, second, denoted, otherDenoted, ?_, ?_, ?_⟩
  · by_cases inside : 0 ≤ l.instant.date.year ∧ l.instant.date.year ≤ 9999
    · simp [again inside, inside]
    · simp [parse?_millisText_of_more inside, inside]
  · intro v found
    by_cases inside : 0 ≤ l.instant.date.year ∧ l.instant.date.year ≤ 9999
    · rw [again inside] at found
      cases found
      exact ⟨rfl, written⟩
    · rw [parse?_millisText_of_more inside] at found
      cases found
  · rw [proper.millisText_inj otherDenoted.proper, ← and_assoc,
      ← proper.epochSecond_inj otherDenoted.proper, denoted.seconds, otherDenoted.seconds, denoted.nano,
      otherDenoted.nano]

/-- A leap second at the end of 2016, written in two zones. -/
theorem millisText_reread_leap :
    parse? "2016-12-31T23:59:60.5Z" = some ⟨⟨2016, 12, 31⟩, 86399, 1500000000⟩ ∧
      parse? "2017-01-01T00:59:60.50049+01:00" = some ⟨⟨2016, 12, 31⟩, 86399, 1500490000⟩ ∧
        (⟨⟨2016, 12, 31⟩, 86399, 1500000000⟩ : Instant).millisText =
          (⟨⟨2016, 12, 31⟩, 86399, 1500490000⟩ : Instant).millisText := by
  have first : parse? "2016-12-31T23:59:60.5Z" = some ⟨⟨2016, 12, 31⟩, 86399, 1500000000⟩ := by
    decide +kernel
  have second :
      parse? "2017-01-01T00:59:60.50049+01:00" = some ⟨⟨2016, 12, 31⟩, 86399, 1500490000⟩ := by
    decide +kernel
  obtain ⟨l, m, -, -, denoted, otherDenoted, -, -, alike⟩ := millisText_reread first second
  refine ⟨first, second, alike.mpr ⟨?_, ?_⟩⟩
  · rw [← denoted.seconds, ← otherDenoted.seconds]
    rfl
  · have milli : 1500000000 / 1000000 = 1500490000 / 1000000 := by decide
    rwa [← denoted.nano, ← otherDenoted.nano]

/-- The first half hour of year 0 at an offset of an hour lies before it, and is not read again. -/
example : (parse? "0000-01-01T00:30:00+01:00").bind (fun t => parse? t.millisText) = none := by
  rfl

end Instant

end TokenDesk.Time
