import AuthKeyspace.Text.Quoted

/-!
# Loggers

A logger has a level and handlers, and is known by a name; the empty name and `root` are one logger.
To configure a logger is to give it a level, to take away the handlers it has one after the other,
and to attach a new one of the same level. A level is given by its name. A name that no level has
ends what is being done (`Change`), but what was done before it stays.

Main statements: `Loggers.get_set_self` and `Loggers.get_set_of_ne`, what changing one logger does.
-/

namespace AuthKeyspace.Log

/-! ## Handlers -/

/-- How a handler lays out a record. -/
inductive Layout
  | plain
  | coloured
  /-- A layout from elsewhere, by its pattern. -/
  | other (pattern : String)
deriving DecidableEq, Repr

/-- The layout that a handler has until it is given one: the message alone. -/
def Layout.initial : Layout := .other "%(message)s"

/-- Something that shows records from a level on. -/
structure Handler where
  level : Int := 0
  layout : Layout := .initial
deriving DecidableEq, Repr

/-! ## Levels -/

/-- A name that no level has. -/
structure UnknownLevel where
  name : String
deriving DecidableEq, Repr

/-- What is said of a name that no level has. -/
def UnknownLevel.message (e : UnknownLevel) : String := "Unknown level: " ++ Text.quoted e.name

/-- The level with the given name. -/
def levelNamed : String → Except UnknownLevel Int
  | "CRITICAL" | "FATAL" => .ok 50
  | "ERROR" => .ok 40
  | "WARNING" | "WARN" => .ok 30
  | "INFO" => .ok 20
  | "DEBUG" => .ok 10
  | "NOTSET" => .ok 0
  | name => .error ⟨name⟩

/-- The handler with the given level, in one of the two layouts of the library. -/
def Handler.build (level : String) (coloured : Bool) : Except UnknownLevel Handler := do
  let fresh : Handler := {}
  let levelled := { fresh with level := ← levelNamed level }
  return { levelled with layout := if coloured then .coloured else .plain }

/-! ## Loggers -/

/-- A level, and what shows the records. -/
structure Logger where
  level : Int := 0
  handlers : List Handler := []
deriving DecidableEq, Repr

/-- The one name of a logger. -/
def loggerKey (name : String) : String := if name = "" then "root" else name

/-- All loggers. -/
structure Loggers where
  loggerAt : String → Logger := fun _ => {}

/-- A change of the loggers. If it fails, the loggers are left as they are at that point. -/
abbrev Change := ExceptT UnknownLevel (StateM Loggers)

namespace Loggers

/-- The logger of a name. -/
def get (ls : Loggers) (name : String) : Logger := ls.loggerAt (loggerKey name)

/-- Put another logger in the place of the one of a name. -/
def set (ls : Loggers) (name : String) (logger : Logger) : Loggers :=
  ⟨fun key => if key = loggerKey name then logger else ls.loggerAt key⟩

theorem get_set_self (ls : Loggers) (name : String) (logger : Logger) :
    (ls.set name logger).get name = logger := if_pos rfl

theorem get_set_of_ne {name other : String} (h : loggerKey other ≠ loggerKey name) (ls : Loggers)
    (logger : Logger) : (ls.set name logger).get other = ls.get other := if_neg h

/-- Replace the logger of a name by what `f` makes of it. -/
def update (name : String) (f : Logger → Logger) : Change Unit :=
  modify fun ls => ls.set name (f (ls.get name))

/-- Give a logger a level. A name that no level has changes nothing. -/
def setLevel (name level : String) : Change Unit := do
  let n ← MonadExcept.ofExcept (levelNamed level)
  update name fun logger => { logger with level := n }

/-- Take a handler away from a logger. -/
def detach (name : String) (handler : Handler) : Change Unit :=
  update name fun logger => { logger with handlers := logger.handlers.erase handler }

/-- Attach a new handler to a logger, behind those that it has. -/
def attach (name : String) (handler : Handler) : Change Unit :=
  update name fun logger => { logger with handlers := logger.handlers ++ [handler] }

/-- Give a logger a level and one handler of that level in place of all it had. -/
def configure (name level : String) (coloured : Bool) : Change Unit := do
  setLevel name level
  let attached := ((← MonadState.get).get name).handlers
  forM attached (detach name)
  attach name (← MonadExcept.ofExcept (Handler.build level coloured))

end Loggers

end AuthKeyspace.Log
