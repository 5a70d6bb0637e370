import AuthKeyspace.Log.Record
import AuthKeyspace.Time.Calendar

/-!
# Records on a console

A record is shown on one line: the time to the millisecond, the name of the logger, the name of the
level and the message. A coloured line is put between the escape sequence of its level and the one
that resets the terminal. There is no line where a level without a name has a number that is too
long, or where no clock can show the time.
-/

namespace AuthKeyspace.Log

/-! ## Levels -/

/-- The severity with the given number. -/
def Severity.ofLevel? (level : Int) : Option Severity :=
  [Severity.debug, .info, .warning, .error, .critical].find? fun s => s.level == level

/-- The name of a level. -/
def levelName (level : Int) : Except Text.NumberTooLong String :=
  match Severity.ofLevel? level with
  | some s => .ok s.name
  | none => if level = 0 then .ok "NOTSET" else do return "Level " ++ (← Text.writeInteger level)

/-- Back to the colours the terminal started with. -/
def resetColour : String := "\x1b[0m"

/-- The escape sequence for a severity. -/
def Severity.colour : Severity → String
  | .debug => "\x1b[37m"
  | .info => "\x1b[34m"
  | .warning => "\x1b[33m"
  | .error => "\x1b[31m"
  | .critical => "\x1b[1m\x1b[41m"

/-- The escape sequence for a level. -/
def levelColour (level : Int) : String :=
  match Severity.ofLevel? level with
  | some s => s.colour
  | none => resetColour

/-! ## Lines -/

/-- Why there is no line. -/
inductive LineFault
  | numberTooLong (error : Text.NumberTooLong)
  | clock (limit : Time.ClockLimit)
deriving DecidableEq, Repr

/-- What is said where there is no line. -/
def LineFault.message : LineFault → String
  | .numberTooLong e => e.message
  | .clock limit => limit.message

/-- A record on its way to the console. -/
structure Entry where
  seconds : Int
  millis : Nat
  logger : String
  level : Int
  message : String
deriving DecidableEq, Repr

namespace Entry

/-- The time of an entry. -/
def time (e : Entry) : Except Time.ClockLimit String := do
  let m ← Time.Moment.ofClock e.seconds
  let two (n : Int) := Text.paddedText 2 n.toNat
  return toString m.date.year ++ "-" ++ two m.date.month ++ "-" ++ two m.date.day ++ " " ++
    two m.hour ++ ":" ++ two m.minute ++ ":" ++ two m.second ++ "," ++ Text.paddedText 3 e.millis

/-- The line without colours. -/
def plain (e : Entry) : Except LineFault String := do
  let name ← (levelName e.level).mapError .numberTooLong
  let time ← e.time.mapError .clock
  return time ++ " - " ++ e.logger ++ " - " ++ name ++ " - " ++ e.message

/-- The line in the colour of its level. -/
def coloured (e : Entry) : Except LineFault String := do
  return levelColour e.level ++ (← e.plain) ++ resetColour

/-- The line, with or without colours. -/
def line (e : Entry) (inColour : Bool) : Except LineFault String :=
  if inColour then e.coloured else e.plain

end Entry

end AuthKeyspace.Log
