/-!
# Durations

A duration is a whole number of microseconds. It is shown as days, seconds of a day and microseconds
of a second, the latter two never negative, so that one millisecond before nothing is a day back and
nearly a day forward. Its days have at most nine digits; a longer time is an overflow.

Main statements: `Duration.parts` (the three parts make up the whole) and
`Duration.ofMicros_eq_ok_iff` (which numbers are durations).
-/

namespace AuthKeyspace.Time

/-- Microseconds in a second. -/
def microsPerSecond : Int := 1000000

/-- Microseconds in a day. -/
def microsPerDay : Int := 86400000000

/-- The days of a duration are between this number and its opposite. -/
def maxDays : Int := 999999999

/-- A time span with a resolution of one microsecond. -/
structure Duration where
  micros : Int
  days_le : micros / microsPerDay ≤ maxDays
  le_days : -maxDays ≤ micros / microsPerDay
deriving DecidableEq, Repr

/-- A time span that is too long, by its days. -/
structure Overflow where
  days : Int
deriving DecidableEq, Repr

/-- What is said of a time span that is too long; beyond a machine word its days are not named. -/
def Overflow.message (e : Overflow) : String :=
  if -2147483648 ≤ e.days ∧ e.days ≤ 2147483647 then
    "days=" ++ toString e.days ++ "; must have magnitude <= " ++ toString maxDays
  else "Python int too large to convert to C int"

namespace Duration

/-- The duration of so many microseconds. -/
def ofMicros (n : Int) : Except Overflow Duration :=
  if h : -maxDays ≤ n / microsPerDay ∧ n / microsPerDay ≤ maxDays then .ok ⟨n, h.2, h.1⟩
  else .error ⟨n / microsPerDay⟩

/-- The duration of so many milliseconds. -/
def ofMillis (n : Int) : Except Overflow Duration := ofMicros (n * 1000)

/-- The duration of so many seconds. -/
def ofSeconds (n : Int) : Except Overflow Duration := ofMicros (n * microsPerSecond)

/-- Whole days, counted downwards. -/
def days (d : Duration) : Int := d.micros / microsPerDay

/-- Whole seconds behind the days. -/
def seconds (d : Duration) : Int := d.micros % microsPerDay / microsPerSecond

/-- Microseconds behind the seconds. -/
def microseconds (d : Duration) : Int := d.micros % microsPerSecond

theorem parts (d : Duration) :
    d.days * microsPerDay + d.seconds * microsPerSecond + d.microseconds = d.micros := by
  simp only [days, seconds, microseconds, microsPerDay, microsPerSecond]
  omega

theorem ofMicros_eq_ok_iff {n : Int} {d : Duration} : ofMicros n = .ok d ↔ d.micros = n := by
  unfold ofMicros
  constructor
  · intro h
    split at h
    · cases h; rfl
    · cases h
  · rintro rfl
    simp [d.days_le, d.le_days]

end Duration

end AuthKeyspace.Time
