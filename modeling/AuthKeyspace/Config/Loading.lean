import AuthKeyspace.Config.NodeConfig
import AuthKeyspace.Config.Settings
import AuthKeyspace.Log.Record

/-!
# From a node config to what a start needs

Two entries of a node config count: the number of copies of a row, and the delay of the first
privileges in milliseconds. Each has to be a whole number that is not negative; a truth value is no
number. What is no use is replaced with a warning, the number of copies by the floor and the delay
by the one of the settings. A delay that is not there at all is replaced without a word. A warning
shows what is of no use; where that has a number too long to be written there is no warning but a
failure.
-/

namespace AuthKeyspace.Config

open AuthKeyspace.Log AuthKeyspace.Time

/-! ## Entries -/

/-- The entry for the number of copies. -/
def factorKey : String := "default_keyspace_rf"

/-- The entry for the delay. -/
def delayKey : String := "superuser_setup_delay_ms"

/-- Why an entry is of no use. -/
inductive EntryFault
  | missing (key : String)
  | notAnInteger (key : String) (value : Yaml.Value)
  | negative (key : String) (number : Int)

/-- What is said of an entry of no use, if it can be written. -/
def EntryFault.message : EntryFault → Except Text.NumberTooLong String
  | .missing key => .ok (key ++ " is not configured.")
  | .notAnInteger key value => do
    return key ++ " must be an integer, got " ++ (← value.shown) ++ "."
  | .negative key number => do
    return key ++ " must be non-negative, got " ++ (← Text.writeInteger number) ++ "."

/-- The whole number in an entry. -/
def nonNegative (conf : Yaml.Entries) (key : String) : Except EntryFault Int :=
  match (conf.lookup key).map Thunk.get with
  | none | some (.scalar .null) => .error (.missing key)
  | some (.scalar (.integer n)) => if n < 0 then .error (.negative key n) else .ok n
  | some other => .error (.notAnInteger key other)

/-- The configured number of copies. -/
def configuredFactor (conf : Yaml.Entries) : Logged Text.NumberTooLong (Option Int) :=
  match nonNegative conf factorKey with
  | .ok n => pure (some n)
  | .error fault => do
    let message ← .ofExcept fault.message
    Logged.tell (Severity.warning.record (message ++ " Falling back to the replication floor."))
    return none

/-! ## Loading -/

/-- Why loading fails. -/
inductive LoadError
  | breakdown (breakdown : Breakdown)
  | overflow (overflow : Overflow)
  | numberTooLong (error : Text.NumberTooLong)
deriving DecidableEq, Repr

/-- What is said of a failure to load. -/
def LoadError.message : LoadError → String
  | .breakdown b => b.message
  | .overflow o => o.message
  | .numberTooLong e => e.message

/-- The configured delay. The delay of the settings has to be a duration even if it is not
needed. -/
def configuredDelay (s : Settings) (conf : Yaml.Entries) : Logged LoadError Duration := do
  let default ← .ofExcept ((Bootstrap.defaultDelay s).mapError .overflow)
  if (conf.lookup delayKey).isNone then return default
  else
    match nonNegative conf delayKey with
    | .ok n => .ofExcept ((Duration.ofMillis n).mapError .overflow)
    | .error fault => do
      let message ← .ofExcept (fault.message.mapError .numberTooLong)
      Logged.tell <| Severity.warning.recordOf do
        return message ++ " Using " ++ (← Text.writeInteger s.setupDelayMillis) ++ " ms."
      return default

/-- What a start needs, from a node config that was read. -/
def ofEntries (s : Settings) (conf : Yaml.Entries) : Logged LoadError Bootstrap := do
  let configuredFactor? ← (configuredFactor conf).mapError .numberTooLong
  let setupDelay ← configuredDelay s conf
  return ⟨configuredFactor?, s.replicationFloor, setupDelay⟩

/-- What a start needs, where there is no node config. -/
def withoutConfig (s : Settings) : Logged LoadError Bootstrap :=
  .ofExcept ((Bootstrap.ofSettings s).mapError .overflow)

/-- What a start needs, from the node config at a path. -/
def loadFrom (s : Settings) (source : Source) (path : String) : Logged LoadError Bootstrap := do
  match NodeConfig.read source path with
  | .ok conf => ofEntries s conf
  | .error (.breakdown b) => .ofExcept (.error (.breakdown b))
  | .error (.defect d) =>
    Logged.tell (Severity.warning.record (d.message ++ " Falling back to defaults."))
    withoutConfig s

/-- What a start needs. Without a path the one of the settings is taken. -/
def load (s : Settings) (source : Source) (path? : Option String) :
    Logged LoadError Bootstrap := do
  match path?.or s.configPath? with
  | some path => loadFrom s source path
  | none =>
    Logged.tell
      (Severity.info.record "No node config given; auth keyspace uses the replication floor.")
    withoutConfig s

end AuthKeyspace.Config
