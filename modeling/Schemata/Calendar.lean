import Schemata.Number.Decimal
/-!
# Dates and moments

Civil dates of the proleptic Gregorian calendar and moments of time with an optional offset from
UTC.

* `Date.dayNumber` counts days from `0000-03-01`; `Date.ofDayNumber` is its inverse.
* `Moment.instant` counts microseconds from there, in UTC; `Moment.ofInstant` is its inverse.
* `Moment.toUtc?` moves a moment to UTC, which fails when it leaves the years 1 to 9999.
* `Moment.stamp?` is the timestamp written into documents.
-/

namespace Schemata

open Decimal (zeroPadded)

/-! ## 1. Dates -/

/-- A civil date. -/
structure Date where
  year : Nat
  month : Nat
  day : Nat
  deriving DecidableEq, Repr, Inhabited

namespace Date

/-- A leap year has a 29th of February. -/
def isLeap (year : Nat) : Bool := year % 4 = 0 && (year % 100 ≠ 0 || year % 400 = 0)

/-- The number of days of a month. -/
def daysInMonth (year month : Nat) : Nat :=
  if month = 2 then (if isLeap year then 29 else 28)
  else if month = 4 || month = 6 || month = 9 || month = 11 then 30
  else 31

/-- Days since `0000-03-01`.  Years are counted from March, so that the leap day is the last. -/
def dayNumber (d : Date) : Int :=
  let y : Int := if d.month ≤ 2 then (d.year : Int) - 1 else d.year
  let m : Int := if d.month ≤ 2 then (d.month : Int) + 9 else (d.month : Int) - 3
  365 * y + y.fdiv 4 - y.fdiv 100 + y.fdiv 400 + (153 * m + 2).fdiv 5 + d.day - 1

/-- The year (counted from March), month and day of a day number. -/
def ofDayNumber (n : Int) : Int × Nat × Nat :=
  let era := n.fdiv 146097
  let dayOfEra := n - era * 146097
  let yearOfEra :=
    (dayOfEra - dayOfEra.fdiv 1460 + dayOfEra.fdiv 36524 - dayOfEra.fdiv 146096).fdiv 365
  let dayOfYear := dayOfEra - (365 * yearOfEra + yearOfEra.fdiv 4 - yearOfEra.fdiv 100)
  let m := (5 * dayOfYear + 2).fdiv 153
  let day := dayOfYear - (153 * m + 2).fdiv 5 + 1
  let month := if m < 10 then m + 3 else m - 9
  let year := yearOfEra + era * 400 + (if month ≤ 2 then 1 else 0)
  (year, month.toNat, day.toNat)

/-- A date written `YYYY-MM-DD`. -/
def iso (d : Date) : String :=
  zeroPadded 4 d.year ++ "-" ++ zeroPadded 2 d.month ++ "-" ++ zeroPadded 2 d.day

end Date

/-! ## 2. Offsets -/

/-- Microseconds of a second. -/
def microsecondsPerSecond : Nat := 1000000

/-- Microseconds of a minute. -/
def microsecondsPerMinute : Nat := 60 * microsecondsPerSecond

/-- Microseconds of an hour. -/
def microsecondsPerHour : Nat := 60 * microsecondsPerMinute

/-- Microseconds of a day. -/
def microsecondsPerDay : Nat := 24 * microsecondsPerHour

/-- How far a clock is ahead of UTC; a clock behind it has a negative offset. -/
structure Offset where
  microseconds : Int
  deriving DecidableEq, Repr, Inhabited

namespace Offset

/-- The offset of UTC itself. -/
def utc : Offset := ⟨0⟩

/-- An offset of whole minutes. -/
def ofMinutes (n : Int) : Offset := ⟨n * microsecondsPerMinute⟩

/-- A number that stands for an offset counts minutes. -/
instance : Coe Int Offset := ⟨ofMinutes⟩

/-- An offset written `+HH:MM`, with seconds and microseconds only when there are some. -/
def text (o : Offset) : String :=
  let n := o.microseconds.natAbs
  let second := n / microsecondsPerSecond % 60
  let microsecond := n % microsecondsPerSecond
  (if o.microseconds < 0 then "-" else "+") ++ zeroPadded 2 (n / microsecondsPerHour) ++ ":" ++
    zeroPadded 2 (n / microsecondsPerMinute % 60) ++
    (if second = 0 ∧ microsecond = 0 then "" else ":" ++ zeroPadded 2 second) ++
    (if microsecond = 0 then "" else "." ++ zeroPadded 6 microsecond)

end Offset

/-! ## 3. Moments -/

/-- A date and a time of day, with the offset of its clock; the offset is absent for a moment that
does not say where it is. -/
structure Moment where
  date : Date
  hour : Nat
  minute : Nat
  second : Nat
  microsecond : Nat
  offset : Option Offset
  deriving DecidableEq, Repr, Inhabited

namespace Moment

/-- The microseconds since midnight. -/
def timeOfDay (t : Moment) : Nat :=
  t.hour * microsecondsPerHour + t.minute * microsecondsPerMinute +
    t.second * microsecondsPerSecond + t.microsecond

/-- Microseconds since `0000-03-01` in UTC; a moment without an offset is in UTC. -/
def instant (t : Moment) : Int :=
  t.date.dayNumber * microsecondsPerDay + t.timeOfDay - (t.offset.getD .utc).microseconds

/-- The moment in UTC at an instant that is not before the year 0. -/
def ofInstant (n : Int) : Moment :=
  let days := n.fdiv microsecondsPerDay
  let rest := (n - days * microsecondsPerDay).toNat
  let (year, month, day) := Date.ofDayNumber days
  ⟨⟨year.toNat, month, day⟩, rest / microsecondsPerHour, rest / microsecondsPerMinute % 60,
    rest / microsecondsPerSecond % 60, rest % microsecondsPerSecond, some .utc⟩

/-- The same instant in UTC, unless it lies outside the years 1 to 9999. -/
def toUtc? (t : Moment) : Option Moment :=
  let u := ofInstant t.instant
  if 1 ≤ u.date.year ∧ u.date.year ≤ 9999 then some u else none

/-- The moment that lies a number of microseconds after the start of 1970 in UTC. -/
def ofUnixMicroseconds (n : Int) : Moment :=
  ofInstant (n + Date.dayNumber ⟨1970, 1, 1⟩ * microsecondsPerDay)

/-- The hours, minutes and seconds of a time of day. -/
def clockText (t : Moment) : String :=
  zeroPadded 2 t.hour ++ ":" ++ zeroPadded 2 t.minute ++ ":" ++ zeroPadded 2 t.second

/-- A moment in UTC to the millisecond, the year without padding. -/
def utcText (u : Moment) : String :=
  toString u.date.year ++ "-" ++ zeroPadded 2 u.date.month ++ "-" ++ zeroPadded 2 u.date.day ++
    "T" ++ u.clockText ++ "." ++ zeroPadded 3 (u.microsecond / 1000) ++ "Z"

/-- The timestamp of an instant: the text of its UTC form. -/
def stamp? (t : Moment) : Option String := t.toUtc?.map utcText

/-- The time of day, microseconds only when there are some, and the offset if there is one. -/
def timeText (t : Moment) : String :=
  t.clockText ++ (if t.microsecond = 0 then "" else "." ++ zeroPadded 6 t.microsecond) ++
    (match t.offset with
      | some o => o.text
      | none => "")

/-- A moment with the letter `T` between date and time. -/
def iso (t : Moment) : String := t.date.iso ++ "T" ++ t.timeText

/-- A moment with a space between date and time. -/
def spaced (t : Moment) : String := t.date.iso ++ " " ++ t.timeText

/-- Two moments are the same key when both have an offset and denote one instant, or neither has
one and they agree. -/
def sameInstant (a b : Moment) : Bool :=
  a.offset.isSome == b.offset.isSome && a.instant == b.instant

end Moment

end Schemata
