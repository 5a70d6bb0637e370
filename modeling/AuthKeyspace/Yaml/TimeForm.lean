import AuthKeyspace.Text.Integer
import AuthKeyspace.Yaml.Character

/-!
# The forms of times

A time is a day, with hyphens between its numbers, and perhaps a clock behind it: hours, minutes and
seconds with colons between them, a fraction of a second, and how far the clock is from universal
time. Here only the form is read; whether there is such a day is another question.
-/

namespace AuthKeyspace.Yaml

/-- The numbers of a clock; the fraction is given by its digits, the offset in seconds. -/
structure Clock where
  hour : Nat
  minute : Nat
  second : Nat
  fraction : List Char
  offset? : Option Int
deriving DecidableEq, Repr

/-- The numbers of a time. -/
structure TimeForm where
  year : Nat
  month : Nat
  day : Nat
  clock? : Option Clock
deriving DecidableEq, Repr

/-! ## Clocks -/

namespace Clock

/-- The number that digits at the start show, and what is behind them. There are at least `least` of
them, and no more than `most` are read. -/
def digits? (least most : Nat) (cs : List Char) : Option (Nat × List Char) :=
  let run := (cs.take most).takeWhile Char.isDigit
  if run.length < least then none
  else (Text.digitsValue? 10 run).map fun n => (n, cs.drop run.length)

/-- What is behind a mark at the start. -/
def behind? (mark : Char) : List Char → Option (List Char)
  | c :: rest => if c = mark then some rest else none
  | [] => none

/-- The size of an offset in seconds: hours, and perhaps minutes. -/
def zoneSize? (cs : List Char) : Option Int := do
  let (hours, rest) ← digits? 1 2 cs
  match rest with
  | [] => return hours * 3600
  | rest =>
    let (minutes, rest) ← digits? 2 2 (← behind? ':' rest)
    if rest.isEmpty then some (hours * 3600 + minutes * 60) else none

/-- The offset from universal time, which is all that is left. -/
def zone? : List Char → Option Int
  | ['Z'] => some 0
  | '+' :: rest => zoneSize? rest
  | '-' :: rest => (zoneSize? rest).map (- ·)
  | _ => none

/-- The clock that is all that is left. -/
def ofChars? (cs : List Char) : Option Clock := do
  let (hour, rest) ← digits? 1 2 cs
  let (minute, rest) ← digits? 2 2 (← behind? ':' rest)
  let (second, rest) ← digits? 2 2 (← behind? ':' rest)
  let (fraction, rest) := match rest with
    | '.' :: rest => (rest.takeWhile Char.isDigit, rest.dropWhile Char.isDigit)
    | rest => ([], rest)
  if rest.isEmpty then return ⟨hour, minute, second, fraction, none⟩
  else return ⟨hour, minute, second, fraction, some (← zone? (rest.dropWhile isBlank))⟩

/-- The microseconds of a clock; digits behind the sixth are left out. -/
def micros (c : Clock) : Nat :=
  let digits := c.fraction.take 6
  (Text.digitsValue? 10 (digits ++ List.replicate (6 - digits.length) '0')).getD 0

end Clock

/-! ## Times -/

open Clock in
/-- Read the form of a time. -/
def TimeForm.ofChars? (cs : List Char) : Option TimeForm := do
  let (year, rest) ← digits? 4 4 cs
  let (month, rest) ← digits? 1 2 (← behind? '-' rest)
  let (day, rest) ← digits? 1 2 (← behind? '-' rest)
  match rest with
  | [] => return ⟨year, month, day, none⟩
  | 'T' :: rest | 't' :: rest => return ⟨year, month, day, some (← Clock.ofChars? rest)⟩
  | c :: rest =>
    if isBlank c then
      return ⟨year, month, day, some (← Clock.ofChars? (rest.dropWhile isBlank))⟩
    else none

end AuthKeyspace.Yaml
