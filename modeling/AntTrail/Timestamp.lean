/-!
Instants of Coordinated Universal Time, to the nanosecond.

An instant is a day, a second of the day and a nanosecond. During a leap second
the nanosecond runs on past the last second of a minute, up to two billion. Days
are counted from 1 March of the year 0, so that the leap day is the last of a
year and the months of a year start at fixed days.
-/
namespace AntTrail

/-- A date of the Gregorian calendar, extended to all years. -/
structure Date where
  year : Int
  month : Nat
  day : Nat
deriving DecidableEq, Repr

namespace Date

/-- Every fourth year is a leap year, less the full centuries, of which every
fourth is. -/
def isLeapYear (year : Int) : Bool := year % 4 == 0 && (year % 100 != 0 || year % 400 == 0)

/-- The number of days of a month. -/
def daysInMonth (year : Int) (month : Nat) : Nat :=
  if month = 2 then (if isLeapYear year then 29 else 28)
  else if month = 4 ∨ month = 6 ∨ month = 9 ∨ month = 11 then 30
  else 31

/-- The first year that instants can have. -/
def minYear : Int := -262143

/-- The last year that instants can have. -/
def maxYear : Int := 262142

/-- A date that exists. -/
def valid (d : Date) : Bool :=
  minYear ≤ d.year && d.year ≤ maxYear && 1 ≤ d.month && d.month ≤ 12 && 1 ≤ d.day &&
    d.day ≤ daysInMonth d.year d.month

/-- The days from 1 March of the year 0. -/
def toDays (d : Date) : Int :=
  let year := if d.month ≤ 2 then d.year - 1 else d.year
  let month : Int := if d.month ≤ 2 then d.month + 9 else d.month - 3
  365 * year + year / 4 - year / 100 + year / 400 + (153 * month + 2) / 5 + d.day - 1

/-- The date a number of days from 1 March of the year 0. -/
def ofDays (n : Int) : Date :=
  let era := n / 146097
  let dayOfEra := n % 146097
  let yearOfEra := (dayOfEra - dayOfEra / 1460 + dayOfEra / 36524 - dayOfEra / 146096) / 365
  let dayOfYear := dayOfEra - (365 * yearOfEra + yearOfEra / 4 - yearOfEra / 100)
  let month := (5 * dayOfYear + 2) / 153
  let day := dayOfYear - (153 * month + 2) / 5 + 1
  let year := era * 400 + yearOfEra + (if month < 10 then 0 else 1)
  ⟨year, (if month < 10 then month + 3 else month - 9).toNat, day.toNat⟩

end Date

/-- An instant. -/
structure Timestamp where
  day : Int
  second : Nat
  nanosecond : Nat
deriving DecidableEq, Repr

namespace Timestamp

/-- The seconds of a day. -/
def secondsPerDay : Int := 86400

/-- The days from 1 March of the year 0 to 1 January 1970. -/
def epochDay : Int := 719468

/-- The instant a number of nanoseconds after the beginning of 1970. -/
def ofNanoseconds (n : Int) : Timestamp :=
  let seconds := n / 1000000000
  ⟨epochDay + seconds / secondsPerDay, (seconds % secondsPerDay).toNat, (n % 1000000000).toNat⟩

/-- The same instant shown by a clock that is `seconds` later. -/
def shift (t : Timestamp) (seconds : Int) : Timestamp :=
  let s := (t.second : Int) + seconds
  { t with day := t.day + s / secondsPerDay, second := (s % secondsPerDay).toNat }

/-- An instant within the years that instants can have. -/
def inRange (t : Timestamp) : Bool :=
  let year := (Date.ofDays t.day).year
  Date.minYear ≤ year && year ≤ Date.maxYear

end Timestamp
end AntTrail
