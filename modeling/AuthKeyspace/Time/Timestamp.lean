import AuthKeyspace.Time.Calendar

/-!
# Moments with a clock

A moment is a day with the time of day to the microsecond. It can say how far its clock is from
universal time; then it is one moment all over the world, and two that are the same can be written
in different ways. Clocks are less than a day away from universal time.
-/

namespace AuthKeyspace.Time

/-- A day and the time of day; the offset from universal time is in seconds. -/
structure Timestamp where
  date : Date
  hour : Nat
  minute : Nat
  second : Nat
  micros : Nat
  offset? : Option Int
deriving DecidableEq, Repr

/-- Why some numbers are no moment. -/
inductive ClockFault
  | date (fault : DateFault)
  | hour
  | minute
  | second
  | offset (seconds : Int)
deriving DecidableEq, Repr

/-- The number of seconds of a day. -/
def secondsPerDay : Int := 86400

/-- A span of seconds as messages show it, in days and seconds. -/
def spanText (seconds : Int) : String :=
  let days := Int.fdiv seconds secondsPerDay
  let left := Int.fmod seconds secondsPerDay
  let part (name : String) (n : Int) := if n = 0 then [] else [name ++ "=" ++ toString n]
  let parts := part "days" days ++ part "seconds" left
  "datetime.timedelta(" ++ (if parts.isEmpty then "0" else ", ".intercalate parts) ++ ")"

/-- What is said of some numbers that are no moment. -/
def ClockFault.message : ClockFault → String
  | .date fault => fault.message
  | .hour => "hour must be in 0..23"
  | .minute => "minute must be in 0..59"
  | .second => "second must be in 0..59"
  | .offset seconds =>
    "offset must be a timedelta strictly between -timedelta(hours=24) and " ++
      "timedelta(hours=24), not " ++ spanText seconds ++ "."

namespace Timestamp

/-- Is a clock less than a day away from universal time? -/
def isOffset (seconds : Int) : Bool := -secondsPerDay < seconds && seconds < secondsPerDay

/-- The moment with the given numbers; the offset is looked at first, and then all from the year
on. -/
def ofNumbers (year month day hour minute second micros : Nat) (offset? : Option Int) :
    Except ClockFault Timestamp :=
  if (offset?.map isOffset).getD true then do
    let date ← (Date.ofNumbers year month day).mapError .date
    if 23 < hour then .error .hour
    else if 59 < minute then .error .minute
    else if 59 < second then .error .second
    else return ⟨date, hour, minute, second, micros, offset?⟩
  else .error (.offset (offset?.getD 0))

/-- The number of days from the first of January in the year one. -/
def dayNumber (d : Date) : Int :=
  let before := (d.year : Int) - 1
  let lengths := (List.range (d.month - 1)).map fun m => (monthLength d.year (m + 1) : Int)
  365 * before + before / 4 - before / 100 + before / 400 + lengths.foldl (· + ·) 0 + d.day - 1

/-- The number of microseconds to a moment, by a clock with an offset from universal time. -/
def instant (t : Timestamp) (offset : Int) : Int :=
  let minutes := (dayNumber t.date * 24 + t.hour) * 60 + t.minute
  (minutes * 60 + t.second - offset) * 1000000 + t.micros

/-- Are two moments the same? Clocks that tell their offset are compared by universal time; without
an offset only the clocks can be compared. -/
def same (t u : Timestamp) : Bool :=
  match t.offset?, u.offset? with
  | some x, some y => t.instant x == u.instant y
  | none, none => t == u
  | _, _ => false

end Timestamp

end AuthKeyspace.Time
