import AuthKeyspace.Text.Integer
import AuthKeyspace.Time.Duration

/-!
# Settings from the environment

A node takes six values from its environment; each has a default. Two of them are numbers, and they
are read before anything else is done: a node whose numbers cannot be read does nothing at all.

Three values are settled before a node starts: the configured number of copies, if there is one, the
floor below which the number of copies never goes, and how long a node waits before it grants the
first privileges.

Main statement: `Bootstrap.ofSettings_floor`, the floor is always the one of the settings.
-/

namespace AuthKeyspace.Config

/-- What a node is told by its environment. -/
structure Settings where
  replicationFloor : Int := 1
  setupDelayMillis : Int := 10000
  configPath? : Option String := none
  logLevel : String := "INFO"
  loggerName : String := "auth-schema"
  colouredLog : Bool := true
deriving DecidableEq, Repr

namespace Settings

/-- Read a number, or take the default where nothing is set. -/
def number (value? : Option String) (default : Int) : Except Text.IntegerFault Int :=
  match value? with
  | none => .ok default
  | some text => Text.readInteger text

/-- Does the text say yes? Only the word `true` does, in any case. -/
def isYes (text : String) : Bool := text.map Char.toUpper == "TRUE"

/-- Settings from the variables of an environment, the floor being read before the delay. -/
def ofEnvironment (lookup? : String → Option String) : Except Text.IntegerFault Settings := do
  let replicationFloor ← number (lookup? "SYSTEM_AUTH_DEFAULT_RF") 1
  let setupDelayMillis ← number (lookup? "SUPERUSER_SETUP_DELAY_MS") 10000
  return {
    replicationFloor
    setupDelayMillis
    configPath? := lookup? "AUTH_SCHEMA_CONFIG_PATH"
    logLevel := (lookup? "LOG_LEVEL").getD "INFO"
    loggerName := (lookup? "LOGGER_NAME").getD "auth-schema"
    colouredLog := ((lookup? "LOG_COLOUR_ENABLED").map isYes).getD true }

end Settings

/-! ## What a start needs -/

/-- The values that a start needs. -/
structure Bootstrap where
  configuredFactor? : Option Int
  floor : Int
  setupDelay : Time.Duration
deriving DecidableEq, Repr

namespace Bootstrap

/-- The delay of the settings as a duration. -/
def defaultDelay (s : Settings) : Except Time.Overflow Time.Duration :=
  Time.Duration.ofMillis s.setupDelayMillis

/-- The values that the settings alone give. -/
def ofSettings (s : Settings) : Except Time.Overflow Bootstrap := do
  return ⟨none, s.replicationFloor, ← defaultDelay s⟩

theorem ofSettings_floor {s : Settings} {b : Bootstrap} (h : ofSettings s = .ok b) :
    b.floor = s.replicationFloor ∧ b.configuredFactor? = none := by
  unfold ofSettings at h
  cases hd : defaultDelay s with
  | error e => simp [hd, bind, Except.bind] at h
  | ok d =>
    simp only [hd, bind, Except.bind, pure, Except.pure, Except.ok.injEq] at h
    cases h
    exact ⟨rfl, rfl⟩

end Bootstrap

end AuthKeyspace.Config
