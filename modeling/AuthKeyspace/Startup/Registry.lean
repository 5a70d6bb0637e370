import AuthKeyspace.Config.Loading
import AuthKeyspace.Declared.Generation
import AuthKeyspace.Findings.Rule
import AuthKeyspace.Keyspace.Assembly

/-!
# Starting a node

A start assembles the declared tables, applies the rules to the result and logs every finding at its
level. If one of them is an error the start fails, and names all errors; otherwise the keyspace goes
into a registry with everything else that a node needs to know.
-/

namespace AuthKeyspace.Startup

open AuthKeyspace.Config AuthKeyspace.Findings AuthKeyspace.Log

/-- What a node knows once it has started. -/
structure Registry where
  generation : Int
  keyspace : Keyspace
  floor : Int
  setupDelay : Time.Duration
deriving DecidableEq, Repr

/-- Why a start fails. -/
inductive StartError
  | load (error : LoadError)
  | assembly (error : AssemblyError)
  | check (fault : CheckFault)
  | rejected (report : Report)
  | numberTooLong (error : Text.NumberTooLong)
  | noPath
  | noFactor
deriving DecidableEq, Repr

/-- What is said of an assembly that fails. -/
def assemblyMessage : AssemblyError → String
  | .factor fault => fault.message
  | .table error => error.message
  | .duplicateNames error => error.message

/-- What is said of a start that fails. -/
def StartError.message : StartError → String
  | .load e => e.message
  | .assembly e => assemblyMessage e
  | .check e => e.message
  | .rejected r => "Auth keyspace failed validation: " ++ "; ".intercalate (r.errors.map (·.text))
  | .numberTooLong e => e.message
  | .noPath => "expected str, bytes or os.PathLike object, not list"
  | .noFactor => "'<' not supported between instances of 'list' and 'int'"

/-- The record that a keyspace is ready. -/
def readyRecord (r : Registry) : Record :=
  Severity.info.recordOf do
    return "Auth keyspace " ++ r.keyspace.name ++ " ready: generation " ++
      (← Text.writeInteger r.generation) ++ ", " ++ toString r.keyspace.tables.length ++
      " tables, replication factor " ++ (← Text.writeInteger r.keyspace.replication.factor) ++ "."

/-- The registry with a keyspace. -/
def registryOf (b : Bootstrap) (k : Keyspace) : Registry :=
  ⟨Declared.currentGeneration, k, b.floor, b.setupDelay⟩

/-- Log what the rules have found; an error among it ends the start, otherwise the node is ready. -/
def accept (b : Bootstrap) (k : Keyspace) (report : Report) : Logged StartError Registry :=
  let found := report.findings.map Finding.record
  if report.isOk then
    let r := registryOf b k
    ⟨found ++ [readyRecord r], .ok r⟩
  else ⟨found, .error (.rejected report)⟩

/-- Start a node. -/
def start (b : Bootstrap) (rules : RuleSet) : Logged StartError Registry := do
  let k ← (Keyspace.assemble Declared.keyspaceName b.floor b.configuredFactor?
    Declared.declarations).mapError .assembly
  let report ← .ofExcept ((rules.report k b.floor).mapError .check)
  accept b k report

/-- Start a node with what its settings and its node config say. -/
def startConfigured (s : Settings) (source : Source) (rules : RuleSet) :
    Logged StartError Registry := do
  let b ← (load s source none).mapError .load
  start b rules

end AuthKeyspace.Startup
