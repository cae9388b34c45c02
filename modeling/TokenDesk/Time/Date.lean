import TokenDesk.Text.Decimal

/-!
# Calendar dates

Dates of the Gregorian calendar, carried on before its first and after its last common use. A year
outside 0 to 9999 is written with a sign.
-/

set_option autoImplicit false

namespace TokenDesk.Time

open TokenDesk.Text

structure Date where
  year : Int
  month : Nat
  day : Nat
  deriving DecidableEq, Repr

namespace Date

def isLeap (year : Int) : Bool :=
  (year % 4 == 0 && year % 100 != 0) || year % 400 == 0

def daysInMonth (year : Int) (month : Nat) : Nat :=
  if month = 2 then if isLeap year then 29 else 28
  else if month = 4 || month = 6 || month = 9 || month = 11 then 30
  else 31

/-- Whether the calendar has this date. -/
def exists? (d : Date) : Bool :=
  1 ≤ d.month && d.month ≤ 12 && 1 ≤ d.day && d.day ≤ daysInMonth d.year d.month

/-- The day after. -/
def next (d : Date) : Date :=
  if d.day < daysInMonth d.year d.month then ⟨d.year, d.month, d.day + 1⟩
  else if d.month < 12 then ⟨d.year, d.month + 1, 1⟩
  else ⟨d.year + 1, 1, 1⟩

/-- The day before. -/
def prev (d : Date) : Date :=
  if 1 < d.day then ⟨d.year, d.month, d.day - 1⟩
  else if 1 < d.month then ⟨d.year, d.month - 1, daysInMonth d.year (d.month - 1)⟩
  else ⟨d.year - 1, 12, 31⟩

/-- The date so many days later. -/
def addDays (d : Date) : Nat → Date
  | 0 => d
  | days + 1 => addDays d.next days

/-- The days in the months before a month. -/
def daysBefore (year : Int) : Nat → Nat
  | 0 | 1 => 0
  | month + 1 => daysBefore year month + daysInMonth year month

/-- The days from the first of January 1970. -/
def epochDay (d : Date) : Int :=
  let year := d.year - 1
  365 * year + year / 4 - year / 100 + year / 400 + daysBefore d.year d.month + d.day - 719163

/-- Four digits from 0 to 9999, otherwise a sign and at least four. -/
def yearChars (year : Int) : List Char :=
  if 0 ≤ year && year ≤ 9999 then padded 4 year.toNat
  else (if year < 0 then '-' else '+') :: padded 4 year.natAbs

/-- The written form: year, month and day. -/
def chars (d : Date) : List Char :=
  yearChars d.year ++ '-' :: padded 2 d.month ++ '-' :: padded 2 d.day

def text (d : Date) : String :=
  String.ofList d.chars

end Date

end TokenDesk.Time
