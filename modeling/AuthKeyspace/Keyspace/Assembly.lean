import AuthKeyspace.Declared.Tables
import AuthKeyspace.Keyspace.Basic

/-!
# Assembling a keyspace

The number of copies is the larger of a floor and a configured value; without a configured value it
is the floor, which is worth a record. A floor below one and a configured value below zero are
refused, before any table is looked at. Then every declaration is built in order, the first failure
being the failure of the whole, and last the names have to be distinct.
-/

namespace AuthKeyspace

open AuthKeyspace.Table AuthKeyspace.Log

/-- Why a number of copies cannot be settled. -/
inductive FactorFault
  | lowFloor (floor : Int)
  | negative (configured : Int)
deriving DecidableEq, Repr

/-- What is said of a number of copies that cannot be settled. -/
def FactorFault.message : FactorFault → String
  | .lowFloor floor => Text.said do
    return "Replication floor must be at least 1, got " ++ (← Text.writeInteger floor) ++ "."
  | .negative configured => Text.said do
    return "Configured replication factor must be non-negative, got " ++
      (← Text.writeInteger configured) ++ "."

/-- Why a keyspace cannot be assembled. -/
inductive AssemblyError
  | factor (fault : FactorFault)
  | table (error : BuildError)
  | duplicateNames (error : DuplicateNames)
deriving DecidableEq, Repr

/-- The record that nothing was configured. -/
def unconfiguredRecord (floor : Int) : Record :=
  Severity.info.recordOf do
    return "No default keyspace replication factor configured; using floor " ++
      (← Text.writeInteger floor) ++ "."

/-- The larger of the floor and the configured number of copies. -/
def resolveFactor (floor : Int) (configured? : Option Int) : Logged FactorFault Replication :=
  if h : 1 ≤ floor then
    match configured? with
    | none => ⟨[unconfiguredRecord floor], .ok ⟨floor, h⟩⟩
    | some configured =>
      if configured < 0 then ⟨[], .error (.negative configured)⟩
      else ⟨[], .ok ⟨max floor configured, Int.le_trans h (Int.le_max_left floor configured)⟩⟩
  else ⟨[], .error (.lowFloor floor)⟩

/-- Build the tables in order; the first that fails ends it. -/
def buildTables (keyspace : String) : List Declaration → Logged BuildError (List Descriptor)
  | [] => pure []
  | d :: ds => do
    let t ← Descriptor.buildLogged keyspace d
    let ts ← buildTables keyspace ds
    return t :: ts

/-- The keyspace with the given tables. -/
def Keyspace.assemble (name : String) (floor : Int) (configured? : Option Int)
    (declarations : List Declaration) : Logged AssemblyError Keyspace := do
  let replication ← (resolveFactor floor configured?).mapError .factor
  let tables ← (buildTables name declarations).mapError .table
  .ofExcept ((Keyspace.ofTables name replication tables true).mapError .duplicateNames)

theorem resolveFactor_outcome_of_le {floor : Int} (h : 1 ≤ floor) {configured : Int}
    (h₀ : 0 ≤ configured) :
    (resolveFactor floor (some configured)).outcome = .ok ⟨max floor configured, by omega⟩ := by
  have : ¬ configured < 0 := by omega
  simp [resolveFactor, h, this]

end AuthKeyspace
