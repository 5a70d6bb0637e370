import AuthKeyspace.Startup.Arguments
import AuthKeyspace.Startup.Registry

/-!
# Describing the keyspace

A description is a comment with the generation and then the statement of the keyspace and of every
table, with blank lines between them. The number of copies can be given; it takes the place of the
configured one and is held to the same rules.

The command writes a description, or the help it was asked for, or why it was refused. A start that
fails for a reason that lies in what the node was given is logged, and the command fails; other
reasons end the program.
-/

namespace AuthKeyspace.Startup

open AuthKeyspace.Config AuthKeyspace.Findings AuthKeyspace.Log

/-! ## The description -/

/-- The same values with another configured number of copies, if there is one. -/
def withFactor (factor? : Option Int) (b : Bootstrap) : Bootstrap :=
  match factor? with
  | some factor => { b with configuredFactor? := some factor }
  | none => b

/-- The text that describes what a registry holds. -/
def Registry.description (r : Registry) : Except Text.NumberTooLong String := do
  let generation ← Text.writeInteger r.generation
  let statements ← r.keyspace.cql
  return "-- " ++ r.keyspace.name ++ " generation " ++ generation ++ "\n\n" ++ statements

/-- The text that describes the keyspace of a node. -/
def describe (s : Settings) (source : Source) (path? : Option String) (factor? : Option Int) :
    Logged StartError String := do
  let b ← (load s source path?).mapError .load
  let r ← start (withFactor factor? b) RuleSet.standard
  .ofExcept (r.description.mapError .numberTooLong)

/-! ## The command -/

/-- How a run of the command ends. -/
inductive Ending
  | described (text : String)
  | failed
  | helped
  | refused (error : UsageError)
deriving DecidableEq, Repr

namespace Ending

/-- The exit code. -/
def exitCode : Ending → Nat
  | .described _ | .helped => 0
  | .failed => 1
  | .refused _ => 2

/-- What is written to the standard output. -/
def output : Ending → String
  | .described text => text ++ "\n"
  | .helped => helpText
  | .failed | .refused _ => ""

/-- What is written to the standard error. -/
def errorOutput : Ending → String
  | .refused error => error.report
  | _ => ""

end Ending

/-- Is the reason one that the command tells of, instead of ending the program? -/
def StartError.isTold : StartError → Bool
  | .load (.breakdown (.content fault)) => fault.isOfValue
  | .load (.breakdown .nulInPath) | .load (.numberTooLong _) => true
  | .assembly _ | .check (.numberTooLong _) | .rejected _ | .numberTooLong _ => true
  | .load (.overflow _) | .check (.overflow _) | .noPath | .noFactor => false

/-- The end of a run that was to describe a keyspace. -/
def endingOf (described : Logged StartError String) : Logged StartError Ending :=
  match described.outcome with
  | .ok text => ⟨described.records, .ok (.described text)⟩
  | .error e =>
    if e.isTold then
      let told := Severity.error.record ("Cannot describe auth keyspace: " ++ e.message)
      ⟨described.records ++ [told], .ok .failed⟩
    else ⟨described.records, .error e⟩

/-- Describe the keyspace without the number of copies that an option was to give. A floor that is
too low is found before that. -/
def describeWithoutFactor (s : Settings) (source : Source) (path? : Option String) :
    Logged StartError String := do
  let b ← (load s source path?).mapError .load
  match (resolveFactor b.floor none).outcome with
  | .error fault => .ofExcept (.error (.assembly (.factor fault)))
  | .ok _ => .ofExcept (.error .noFactor)

/-- Describe the keyspace with the number of copies that an option gives. -/
def describeWith (s : Settings) (source : Source) (path? : Option String) :
    Option (Given Int) → Logged StartError String
  | some .nothing => describeWithoutFactor s source path?
  | some (.value factor) => describe s source path? (some factor)
  | none => describe s source path? none

/-- Describe the keyspace as the arguments say. -/
def describeFor (s : Settings) (source : Source) (a : Arguments) : Logged StartError String :=
  match a.config? with
  | some .nothing => .ofExcept (.error .noPath)
  | some (.value path) => describeWith s source (some path) a.factor?
  | none => describeWith s source none a.factor?

/-- Run the command. -/
def run (s : Settings) (source : Source) (arguments : List String) : Logged StartError Ending :=
  match parse arguments with
  | .error e => pure (.refused e)
  | .ok .help => pure .helped
  | .ok (.describe a) => endingOf (describeFor s source a)

/-- The path of the node config that a run reads, if it reads one. -/
def configPath? (s : Settings) (arguments : List String) : Option Files.Path :=
  match parse arguments with
  | .ok (.describe a) =>
    match a.config? with
    | some .nothing => none
    | some (.value path) => some (Files.Path.ofText path)
    | none => s.configPath?.map Files.Path.ofText
  | _ => none

end AuthKeyspace.Startup
