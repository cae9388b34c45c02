import TokenDesk.Time.Date
import TokenDesk.Text.Power

/-!
# Instants

Points in time in universal time, down to nanoseconds, and their written form (RFC 3339). Second 60
is kept: it is second 59 with a second more of nanoseconds, so that an instant inside a leap second
differs from every other. An offset moves an instant by less than a day.
-/

set_option autoImplicit false

namespace TokenDesk.Time

open TokenDesk.Text

/-- A date, a second of the day and the nanoseconds past it, a leap second included. -/
structure Instant where
  date : Date
  second : Nat
  nano : Nat
  deriving DecidableEq, Repr

namespace Instant

def secondsPerDay : Nat := 86400

def nanosPerSecond : Nat := 1000000000

/-- The instant without what is below a millisecond. -/
def truncate (t : Instant) : Instant :=
  { t with nano := t.nano / 1000000 * 1000000 }

/-- Reads a digit. -/
def digit? : List Char → Option (Nat × List Char)
  | [] => none
  | c :: cs => if isDigit c then some (digitValue c, cs) else none

/-- Reads exactly `count` digits on top of `n`. -/
def number? : Nat → Nat → List Char → Option (Nat × List Char)
  | 0, n, cs => some (n, cs)
  | count + 1, n, cs =>
    match digit? cs with
    | none => none
    | some (d, cs) => number? count (n * 10 + d) cs

/-- Reads one of the given marks. -/
def mark? (marks : List Char) : List Char → Option (List Char)
  | [] => none
  | c :: cs => if c ∈ marks then some cs else none

/-- Reads a calendar date. -/
def date? (cs : List Char) : Option (Date × List Char) := do
  let (year, cs) ← number? 4 0 cs
  let cs ← mark? ['-'] cs
  let (month, cs) ← number? 2 0 cs
  let cs ← mark? ['-'] cs
  let (day, cs) ← number? 2 0 cs
  let date : Date := ⟨year, month, day⟩
  if date.exists? then some (date, cs) else none

/-- Reads hours, minutes and seconds; second 60 is allowed on any minute. -/
def clock? (cs : List Char) : Option (Nat × Nat × List Char) := do
  let (hour, cs) ← number? 2 0 cs
  let cs ← mark? [':'] cs
  let (minute, cs) ← number? 2 0 cs
  let cs ← mark? [':'] cs
  let (second, cs) ← number? 2 0 cs
  if hour < 24 && minute < 60 && second ≤ 60 then
    let start := hour * 3600 + minute * 60
    if second = 60 then some (start + 59, nanosPerSecond, cs) else some (start + second, 0, cs)
  else none

/-- Nanoseconds of a run of fraction digits; those beyond the ninth count for nothing. -/
def nanosOf (fraction : List Char) : Nat :=
  let kept := fraction.take 9
  natOfDigits kept * tenTo (9 - kept.length)

/-- Reads an optional fraction of one digit or more. -/
def fraction? : List Char → Option (Nat × List Char)
  | '.' :: cs =>
    let run := cs.takeWhile isDigit
    if run.isEmpty then none else some (nanosOf run, cs.dropWhile isDigit)
  | cs => some (0, cs)

/-- Reads an offset in minutes to the end of the text. -/
def offset? : List Char → Option Int
  | ['Z'] | ['z'] => some 0
  | sign :: cs => do
    let negative ←
      if sign = '+' then some false
      else if sign = '-' || sign = '\u2212' then some true
      else none
    let (hours, cs) ← number? 2 0 cs
    let cs ← mark? [':'] cs
    let (minutes, cs) ← number? 2 0 cs
    if hours < 24 && minutes < 60 && cs.isEmpty then
      let total : Int := (hours * 60 + minutes : Nat)
      some (if negative then -total else total)
    else none
  | [] => none

/-- The instant that a local date and second denote at an offset in minutes. -/
def ofLocal (date : Date) (second nano : Nat) (offset : Int) : Instant :=
  let shifted : Int := second - offset * 60
  if shifted < 0 then ⟨date.prev, (shifted + secondsPerDay).toNat, nano⟩
  else if (secondsPerDay : Int) ≤ shifted then
    ⟨date.next, (shifted - secondsPerDay).toNat, nano⟩
  else ⟨date, shifted.toNat, nano⟩

/-- Reads the written form of an instant. -/
def parseChars? (cs : List Char) : Option Instant := do
  let (date, cs) ← date? cs
  let cs ← mark? ['T', 't', ' '] cs
  let (second, leap, cs) ← clock? cs
  let (nano, cs) ← fraction? cs
  let offset ← offset? cs
  some (ofLocal date second (leap + nano) offset)

def parse? (text : String) : Option Instant :=
  parseChars? text.toList

/-- The date and the time down to the second, in universal time. -/
def secondChars (t : Instant) : List Char :=
  t.date.chars ++ 'T' :: padded 2 (t.second / 3600) ++ ':' :: padded 2 (t.second / 60 % 60) ++
    ':' :: padded 2 (t.second % 60 + t.nano / nanosPerSecond)

/-- The nanoseconds shown after the second. -/
def shownNanos (t : Instant) : Nat :=
  t.nano % nanosPerSecond

/-- The form with milliseconds that files hold. -/
def millisChars (t : Instant) : List Char :=
  t.secondChars ++ '.' :: padded 3 (t.shownNanos / 1000000) ++ ['Z']

def millisText (t : Instant) : String :=
  String.ofList t.millisChars

/-- The milliseconds from the beginning of 1970. -/
def epochMillis (t : Instant) : Int :=
  (t.date.epochDay * secondsPerDay + t.second) * 1000 + t.nano / 1000000

/-- The instant so many nanoseconds after the beginning of 1970. -/
def ofEpochNanos (nanos : Nat) : Instant :=
  let second := nanos / nanosPerSecond
  ⟨(⟨1970, 1, 1⟩ : Date).addDays (second / secondsPerDay), second % secondsPerDay,
    nanos % nanosPerSecond⟩

/-- The fraction with no, three, six or nine digits, as few as hold it. -/
def shortFraction (nanos : Nat) : List Char :=
  if nanos = 0 then []
  else if nanos % 1000000 = 0 then '.' :: padded 3 (nanos / 1000000)
  else if nanos % 1000 = 0 then '.' :: padded 6 (nanos / 1000)
  else '.' :: padded 9 nanos

/-- The form with a numeric offset that messages show. -/
def offsetText (t : Instant) : String :=
  String.ofList (t.secondChars ++ shortFraction t.shownNanos ++ ['+', '0', '0', ':', '0', '0'])

end Instant

end TokenDesk.Time
