/-!
# The calendar

Dates of the Gregorian calendar, also before it was introduced. A date is a year from 1 to 9999, a
month and a day of that month. Days are counted from the first of January 1970; the count goes by
eras of 400 years, which all have the same number of days, with years that begin in March, so that
the leap day is the last day of its year.
-/

namespace AuthKeyspace.Time

/-- Has the year a leap day? -/
def isLeap (year : Int) : Bool := year % 4 == 0 && (year % 100 != 0 || year % 400 == 0)

/-- The number of days of a month. -/
def monthLength (year : Int) (month : Nat) : Nat :=
  if month = 2 then (if isLeap year then 29 else 28)
  else if month = 4 ∨ month = 6 ∨ month = 9 ∨ month = 11 then 30
  else 31

/-! ## Dates -/

/-- A day of the calendar. -/
structure Date where
  year : Nat
  month : Nat
  day : Nat
deriving DecidableEq, Repr

/-- Why three numbers are no date. -/
inductive DateFault
  | year (number : Nat)
  | month
  | day
deriving DecidableEq, Repr

/-- What is said of three numbers that are no date. -/
def DateFault.message : DateFault → String
  | .year n => "year " ++ toString n ++ " is out of range"
  | .month => "month must be in 1..12"
  | .day => "day is out of range for month"

/-- The date with the given numbers; the year is looked at first and the day last. -/
def Date.ofNumbers (year month day : Nat) : Except DateFault Date :=
  if year < 1 ∨ 9999 < year then .error (.year year)
  else if month < 1 ∨ 12 < month then .error .month
  else if day < 1 ∨ monthLength year month < day then .error .day
  else .ok ⟨year, month, day⟩

/-! ## Counting days -/

/-- A day as the calendar shows it, in any year. -/
structure CivilDay where
  year : Int
  month : Int
  day : Int
deriving DecidableEq, Repr

/-- The day that comes `days` days after the first of January 1970. -/
def CivilDay.ofDays (days : Int) : CivilDay :=
  let shifted := days + 719468
  let era := shifted / 146097
  let dayOfEra := shifted % 146097
  let yearOfEra := (dayOfEra - dayOfEra / 1460 + dayOfEra / 36524 - dayOfEra / 146096) / 365
  let dayOfYear := dayOfEra - (365 * yearOfEra + yearOfEra / 4 - yearOfEra / 100)
  let monthFromMarch := (5 * dayOfYear + 2) / 153
  let month := if monthFromMarch < 10 then monthFromMarch + 3 else monthFromMarch - 9
  { year := yearOfEra + era * 400 + (if month ≤ 2 then 1 else 0)
    month
    day := dayOfYear - (153 * monthFromMarch + 2) / 5 + 1 }

/-- A time of day on some day. -/
structure Moment where
  date : CivilDay
  hour : Int
  minute : Int
  second : Int
deriving DecidableEq, Repr

/-- The moment that comes `seconds` seconds after the beginning of 1970. -/
def Moment.ofSeconds (seconds : Int) : Moment where
  date := .ofDays (seconds / 86400)
  hour := seconds % 86400 / 3600
  minute := seconds % 3600 / 60
  second := seconds % 60

/-! ## What a clock can show -/

/-- Why a clock cannot show a moment. -/
inductive ClockLimit
  | seconds
  | years
  | writtenYears
deriving DecidableEq, Repr

/-- What is said of a moment that a clock cannot show. -/
def ClockLimit.message : ClockLimit → String
  | .seconds => "timestamp out of range for platform time_t"
  | .years => "[Errno 75] Value too large for defined data type"
  | .writtenYears => "signed integer is greater than maximum"

/-- Does a number fit into so many bits, one of them for the sign? -/
def fitsBits (bits : Nat) (n : Int) : Bool := -Int.pow 2 (bits - 1) ≤ n && n < Int.pow 2 (bits - 1)

/-- The moment that a clock shows after some seconds. It counts seconds in 64 bits and the years
from 1900 in 32 bits, and writes years of 32 bits. -/
def Moment.ofClock (seconds : Int) : Except ClockLimit Moment :=
  let m := Moment.ofSeconds seconds
  if !fitsBits 64 seconds then .error .seconds
  else if !fitsBits 32 (m.date.year - 1900) then .error .years
  else if !fitsBits 32 m.date.year then .error .writtenYears
  else .ok m

end AuthKeyspace.Time
