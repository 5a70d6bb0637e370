import AuthKeyspace.Log.Console
import AuthKeyspace.Log.Logger
import AuthKeyspace.Startup.Command
import AuthKeyspace.Yaml.Document
import Std.Time.DateTime.Timestamp

/-!
# The command itself

The program takes its settings from the environment, reads the node config that it was given, and
runs the command on them. Records go to the standard error as lines of the configured logger.
-/

namespace AuthKeyspace

open AuthKeyspace.Config AuthKeyspace.Log

/-- The variables of the environment that count. -/
def environmentNames : List String :=
  ["SYSTEM_AUTH_DEFAULT_RF", "SUPERUSER_SETUP_DELAY_MS", "AUTH_SCHEMA_CONFIG_PATH", "LOG_LEVEL",
    "LOGGER_NAME", "LOG_COLOUR_ENABLED"]

/-- What the environment says. -/
def readEnvironment : IO (List (String × String)) :=
  environmentNames.filterMapM fun name => do
    return (← IO.getEnv name).map fun value => (name, value)

/-- The number of a fault; some calls give it with the opposite sign. -/
def errorNumber (code : UInt32) : Nat := code.toInt32.toInt.natAbs

/-- The fault with a number, and a reason in case it is none of the known ones. -/
def faultNumbered (number : Nat) (reason : String) : Files.ReadFault :=
  let known : List Files.ReadFault := [.missing, .notAFolder, .isAFolder, .nameTooLong]
  (known.find? (·.number == number)).getD (.other number reason)

/-- The fault that a failed read shows. -/
def faultOf : IO.Error → Files.ReadFault
  | .noFileOrDirectory .. => .missing
  | .inappropriateType _ code reason | .invalidArgument _ code reason
  | .permissionDenied _ code reason => faultNumbered (errorNumber code) reason
  | e => .other 5 (toString e)

/-- The bytes of a file, or the fault of reading it. -/
def readFile (path : Files.Path) : IO (Except Files.ReadFault (List UInt8)) := do
  try
    return .ok (← IO.FS.readBinFile path.text).toList
  catch e => return .error (faultOf e)

/-- Write a record as a line of the logger, if it can be written and the logger takes records of its
level. -/
def writeRecord (logger : Logger) (name : String) (r : Record) : IO Unit := do
  for handler in logger.handlers do
    if r.isWritable && handler.level ≤ r.severity.level then
      let now := (← Std.Time.Timestamp.now).toMillisecondsSinceUnixEpoch.val
      let entry : Entry := {
        seconds := now / 1000
        millis := (now % 1000).toNat
        logger := name
        level := r.severity.level
        message := r.message }
      let line := match handler.layout with
        | .plain => entry.line false
        | .coloured => entry.line true
        | .other _ => .ok entry.message
      match line with
      | .ok line => IO.eprintln line
      | .error fault => IO.eprintln fault.message

/-- A value that has to be there, or the end of the program. -/
def orExit {ε α : Type} (message : ε → String) : Except ε α → IO α
  | .ok a => pure a
  | .error e => throw (IO.userError (message e))

/-- Run the program. -/
def runProgram (arguments : List String) : IO UInt32 := do
  let environment ← readEnvironment
  let settings ← orExit Text.IntegerFault.message
    (Settings.ofEnvironment fun name => environment.lookup name)
  let (configured, loggers) :=
    (Loggers.configure settings.loggerName settings.logLevel settings.colouredLog).run.run {}
  orExit UnknownLevel.message configured
  let files : FileReader ← match Startup.configPath? settings arguments with
    | some path => do
      let contents ← readFile path
      pure fun _ => contents
    | none => pure fun _ => .error .missing
  -- From here on everything is decided; what is left is to write it down.
  let result := Startup.run settings ⟨files, Yaml.Document.ofPortions⟩ arguments
  for r in result.records do
    writeRecord (loggers.get settings.loggerName) (loggerKey settings.loggerName) r
  let ending ← orExit Startup.StartError.message result.outcome
  IO.print ending.output
  IO.eprint ending.errorOutput
  return UInt32.ofNat ending.exitCode

end AuthKeyspace

/-- The command describes the auth keyspace of a node as statements. -/
def main (arguments : List String) : IO UInt32 := AuthKeyspace.runProgram arguments
