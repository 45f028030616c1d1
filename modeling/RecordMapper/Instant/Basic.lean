import RecordMapper.Text.Words

/-!
# Dates and instants

A date of the proleptic Gregorian calendar and an instant of universal time, to the nanosecond.

* `Date` carries the proof that its day exists. `Date.next` and `Date.previous` step over the ends
  of months and years.
* `Instant` is a date, a second of that day and a fraction of that second. A fraction of a second
  or more stands for the leap second that follows.
* `Instant.rfc3339` writes an instant with a chosen precision of the fraction.
-/

namespace RecordMapper

/-! ## Dates -/

/-- Whether a year has a 29th of February. -/
def isLeapYear (year : Int) : Bool :=
  year % 4 == 0 && (year % 100 != 0 || year % 400 == 0)

/-- The number of days of a month. -/
def daysInMonth (year : Int) (month : Nat) : Nat :=
  if month = 2 then if isLeapYear year then 29 else 28
  else if month = 4 ∨ month = 6 ∨ month = 9 ∨ month = 11 then 30
  else 31

/-- A date of the proleptic Gregorian calendar; the year before year 1 is year 0. -/
structure Date where
  /-- The year. -/
  year : Int
  /-- The month, from 1. -/
  month : Nat
  /-- The day of the month, from 1. -/
  day : Nat
  /-- The month and the day exist. -/
  valid : (1 ≤ month ∧ month ≤ 12) ∧ (1 ≤ day ∧ day ≤ daysInMonth year month)
deriving DecidableEq, Repr

theorem daysInMonth_pos (year : Int) (month : Nat) : 28 ≤ daysInMonth year month := by
  unfold daysInMonth
  split
  · split <;> omega
  · split <;> omega

namespace Date

/-- The date of a year, month and day, if it exists. -/
def of? (year : Int) (month day : Nat) : Option Date :=
  if h : (1 ≤ month ∧ month ≤ 12) ∧ (1 ≤ day ∧ day ≤ daysInMonth year month) then
    some ⟨year, month, day, h⟩
  else none

/-- The day after. -/
def next (d : Date) : Date :=
  if h : d.day < daysInMonth d.year d.month then
    ⟨d.year, d.month, d.day + 1, d.valid.1, by omega⟩
  else if hm : d.month < 12 then
    ⟨d.year, d.month + 1, 1, by omega, by have := daysInMonth_pos d.year (d.month + 1); omega⟩
  else ⟨d.year + 1, 1, 1, by omega, by have := daysInMonth_pos (d.year + 1) 1; omega⟩

/-- The day before. -/
def previous (d : Date) : Date :=
  if h : 1 < d.day then
    ⟨d.year, d.month, d.day - 1, d.valid.1, by have := d.valid.2; omega⟩
  else if hm : 1 < d.month then
    ⟨d.year, d.month - 1, daysInMonth d.year (d.month - 1), by have := d.valid.1; omega,
      by have := daysInMonth_pos d.year (d.month - 1); omega⟩
  else
    ⟨d.year - 1, 12, daysInMonth (d.year - 1) 12, by omega,
      by have := daysInMonth_pos (d.year - 1) 12; omega⟩

/-- A year: four digits, or a sign and at least four digits where four do not do. -/
def yearText (year : Int) : String :=
  if 0 ≤ year ∧ year ≤ 9999 then Text.padded 4 year.natAbs
  else (if year < 0 then "-" else "+") ++ Text.padded 4 year.natAbs

/-- A date as `year-month-day`. -/
def text (d : Date) : String :=
  yearText d.year ++ "-" ++ Text.padded 2 d.month ++ "-" ++ Text.padded 2 d.day

end Date

/-! ## Instants -/

/-- An instant of universal time. -/
structure Instant where
  /-- The date. -/
  date : Date
  /-- The second of the day. -/
  second : Fin 86400
  /-- The nanoseconds since that second began; from 10 ^ 9 on they belong to a leap second. -/
  nano : Fin 2000000000
deriving DecidableEq, Repr

/-- How many digits of a second's fraction are written. -/
inductive Precision where
  /-- Three digits, the rest cut off. -/
  | millis
  /-- Nine digits. -/
  | nanos
  /-- None if the fraction is zero, else as few of three, six or nine digits as lose nothing. -/
  | least
deriving DecidableEq, Repr

namespace Instant

/-- The first instant of a date. -/
def midnight (d : Date) : Instant :=
  ⟨d, 0, 0⟩

/-- The first instant of 1970. -/
def epoch : Instant :=
  midnight ⟨1970, 1, 1, by decide, by decide⟩

instance : Inhabited Instant := ⟨epoch⟩

/-- The instant of a date and a time of day. The second 60 is the leap second after second 59. -/
def of? (date : Date) (hour minute second nano : Nat) : Option Instant :=
  if hour < 24 ∧ minute < 60 ∧ nano < 1000000000 then
    let start := 3600 * hour + 60 * minute
    if second < 60 then
      some ⟨date, Fin.ofNat 86400 (start + second), Fin.ofNat 2000000000 nano⟩
    else if second = 60 then
      some ⟨date, Fin.ofNat 86400 (start + 59), Fin.ofNat 2000000000 (1000000000 + nano)⟩
    else none
  else none

/-- The instant that many minutes earlier, less than a day. -/
def minusMinutes (t : Instant) (minutes : Int) : Instant :=
  let moved : Int := (t.second.val : Int) - 60 * minutes
  if moved < 0 then
    { t with date := t.date.previous, second := Fin.ofNat 86400 (moved + 86400).toNat }
  else if 86400 ≤ moved then
    { t with date := t.date.next, second := Fin.ofNat 86400 (moved - 86400).toNat }
  else { t with second := Fin.ofNat 86400 moved.toNat }

/-- The second of the minute; 60 in a leap second. -/
def secondOfMinute (t : Instant) : Nat :=
  t.second % 60 + t.nano / 1000000000

/-- The nanoseconds since the second, or leap second, began. -/
def fraction (t : Instant) : Nat :=
  t.nano % 1000000000

/-- The time of day as `hour:minute:second`. -/
def clockText (t : Instant) : String :=
  Text.padded 2 (t.second / 3600) ++ ":" ++ Text.padded 2 (t.second / 60 % 60) ++ ":"
    ++ Text.padded 2 t.secondOfMinute

/-- The fraction of the second after a point. -/
def fractionText (precision : Precision) (nano : Nat) : String :=
  match precision with
  | .millis => "." ++ Text.padded 3 (nano / 1000000)
  | .nanos => "." ++ Text.padded 9 nano
  | .least =>
    if nano = 0 then ""
    else if nano % 1000000 = 0 then "." ++ Text.padded 3 (nano / 1000000)
    else if nano % 1000 = 0 then "." ++ Text.padded 6 (nano / 1000)
    else "." ++ Text.padded 9 nano

/-- An instant as RFC 3339 writes it, with `zone` at the end. -/
def rfc3339 (precision : Precision) (zone : String) (t : Instant) : String :=
  t.date.text ++ "T" ++ t.clockText ++ fractionText precision t.fraction ++ zone

/-- The canonical text of an instant, which is what is stored: milliseconds and the zone `Z`. -/
def canonical (t : Instant) : String :=
  t.rfc3339 .millis "Z"

/-- An instant as diagnostics show it. -/
def inspect (t : Instant) : String :=
  t.rfc3339 .least "Z"

/-- An instant as a comment in a file shows it. -/
def stamp (t : Instant) : String :=
  t.rfc3339 .least "+00:00"

/-- An instant as fourteen digits in a row, which sort as time does. -/
def serial (t : Instant) : String :=
  Date.yearText t.date.year ++ Text.padded 2 t.date.month ++ Text.padded 2 t.date.day
    ++ Text.padded 2 (t.second / 3600) ++ Text.padded 2 (t.second / 60 % 60)
    ++ Text.padded 2 t.secondOfMinute

end Instant

end RecordMapper
