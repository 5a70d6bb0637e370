import AuthKeyspace.Declared.Tables
import AuthKeyspace.Findings.Basic
import AuthKeyspace.Keyspace.Basic

/-!
# Rules for a keyspace

A rule looks at one table or at the whole keyspace and says what it finds. Five rules come with the
library: a table's identifier is made from its names, deleted data is remembered for the whole grace
period, statements are guarded, the tables are the declared ones, and there are as many copies as
the floor asks for. A rule set looks at each table with each of its table rules, in the order of the
tables, and then at the keyspace.

A rule that compares times fails where a table's option is no duration, and one that shows numbers
where a number is too long to be written. A rule that fails ends the report.

Main statements: `findEach_of_finds` (what is found in several comes in their order),
`tableIdentity_check_eq_nil_iff` and `replicationFloor_check_of_le`.
-/

namespace AuthKeyspace.Findings

open AuthKeyspace.Table

/-- The codes of the rules that come with the library. -/
inductive RuleCode
  | tableSet | tableIdentity | retentionWindow | replicationFloor | idempotentCreation
deriving DecidableEq, Repr

/-- The code as findings carry it. -/
def RuleCode.text : RuleCode → String
  | .tableSet => "TABLE_SET_MATCHES_DECLARED"
  | .tableIdentity => "TABLE_IDENTITY_MATCHES_NAME"
  | .retentionWindow => "RETENTION_WINDOW"
  | .replicationFloor => "REPLICATION_FLOOR_RESPECTED"
  | .idempotentCreation => "IDEMPOTENT_CREATION"

/-- All codes, in the order in which they were given out. -/
def RuleCode.all : List RuleCode :=
  [.tableSet, .tableIdentity, .retentionWindow, .replicationFloor, .idempotentCreation]

/-- Why a rule cannot say what it finds. -/
inductive CheckFault
  | overflow (overflow : Time.Overflow)
  | numberTooLong (error : Text.NumberTooLong)
deriving DecidableEq, Repr

/-- What is said of a rule that cannot say what it finds. -/
def CheckFault.message : CheckFault → String
  | .overflow o => o.message
  | .numberTooLong e => e.message

/-- A rule for one table. -/
structure TableRule where
  code : String
  description : String
  check : Descriptor → Except CheckFault (List Finding)

/-- A rule for a keyspace and the replication floor. -/
structure KeyspaceRule where
  code : String
  description : String
  check : Keyspace → Int → Except CheckFault (List Finding)

/-! ## Rules for a table -/

/-- The identifier has to be the one made from the names of keyspace and table. -/
def tableIdentity : TableRule where
  code := RuleCode.tableIdentity.text
  description := "Table id must be derived from keyspace and table name."
  check t :=
    let expected := Digest.Uuid.ofName t.keyspace t.name
    .ok <| if t.id = expected then [] else [{
      tableKey := t.fullName
      level := .error
      code := RuleCode.tableIdentity.text
      message := "Table id " ++ t.id.text ++ " does not match derived id " ++ expected.text
      hint := "Build descriptors with build_table instead of constructing them by hand." }]

/-- Deleted data has to be remembered for exactly the expected time. -/
def retentionWindow (expected : Time.Duration) : TableRule where
  code := RuleCode.retentionWindow.text
  description := "Auth tables must retain tombstones for the full gc grace period."
  check t := do
    let found ← t.retention.mapError .overflow
    return if found = expected then [] else [{
      tableKey := t.fullName
      level := .error
      code := RuleCode.retentionWindow.text
      message := "Retention is " ++ toString found.days ++ " days, expected " ++
        toString expected.days ++ " days" }]

/-- Statements that are not guarded are reported, no more. -/
def idempotentCreation : TableRule where
  code := RuleCode.idempotentCreation.text
  description := "Schema texts should use CREATE TABLE IF NOT EXISTS consistently."
  check t :=
    .ok <| if t.layout.guarded then [] else [{
      tableKey := t.fullName
      level := .info
      code := RuleCode.idempotentCreation.text
      message := "Schema text is declared without IF NOT EXISTS"
      hint := "Rendered statements always use IF NOT EXISTS." }]

/-! ## Rules for a keyspace -/

/-- The names in `a` that are not in `b`, each once, in order. -/
def namesBeyond (a b : List String) : List String :=
  sortNames (a.filter fun n => !b.contains n).eraseDups

/-- The names that are missing from a keyspace, and those that should not be in it. -/
def nameFindings (expected : List String) (k : Keyspace) : List Finding :=
  let missing := namesBeyond expected k.tableNames
  let undeclared := namesBeyond k.tableNames expected
  (if missing.isEmpty then [] else [{
    tableKey := ""
    level := .error
    code := RuleCode.tableSet.text
    message := "Keyspace " ++ k.name ++ " is missing tables: " ++ Text.quotedList missing }]) ++
  (if undeclared.isEmpty then [] else [{
    tableKey := ""
    level := .error
    code := RuleCode.tableSet.text
    message := "Keyspace " ++ k.name ++ " has undeclared tables: " ++ Text.quotedList undeclared
    hint := "Add the table to TABLE_NAMES and bump the schema generation." }])

/-- The tables have to be those with the expected names. -/
def tableSet (expected : List String) : KeyspaceRule where
  code := RuleCode.tableSet.text
  description := "Assembled tables must equal the declared table names."
  check k _ := .ok (nameFindings expected k)

/-- What is said of fewer copies than the floor asks for. -/
def belowFloorMessage (factor floor : Int) : Except Text.NumberTooLong String := do
  return "Replication factor " ++ (← Text.writeInteger factor) ++ " is below the floor " ++
    (← Text.writeInteger floor)

/-- There have to be as many copies as the floor asks for. -/
def replicationFloor : KeyspaceRule where
  code := RuleCode.replicationFloor.text
  description := "Replication factor must be at least the replication floor."
  check k floor :=
    if floor ≤ k.replication.factor then .ok [] else do
      let message ← (belowFloorMessage k.replication.factor floor).mapError .numberTooLong
      return [{
        tableKey := ""
        level := .error
        code := RuleCode.replicationFloor.text
        message }]

/-! ## Rule sets -/

/-- What a check finds in each of several, in their order. -/
def findEach {α : Type} (check : α → Except CheckFault (List Finding)) :
    List α → Except CheckFault (List Finding)
  | [] => .ok []
  | a :: as => do
    let found ← check a
    let more ← findEach check as
    return found ++ more

/-- Rules that are applied together. -/
structure RuleSet where
  tableRules : List TableRule
  keyspaceRules : List KeyspaceRule

namespace RuleSet

/-- The rules that a node applies when it starts. -/
def standard : RuleSet where
  tableRules := [tableIdentity, retentionWindow gracePeriod, idempotentCreation]
  keyspaceRules := [tableSet Declared.tableNames, replicationFloor]

/-- What the table rules find in one table. -/
def checkTable (rules : List TableRule) (t : Descriptor) : Except CheckFault (List Finding) :=
  findEach (fun r => r.check t) rules

/-- What all rules find, table by table and then in the keyspace. -/
def report (rules : RuleSet) (k : Keyspace) (floor : Int) : Except CheckFault Report := do
  let inTables ← findEach (checkTable rules.tableRules) k.tables
  let inKeyspace ← findEach (fun r => r.check k floor) rules.keyspaceRules
  return ⟨inTables ++ inKeyspace⟩

end RuleSet

theorem tableIdentity_check_eq_nil_iff {t : Descriptor} :
    tableIdentity.check t = .ok [] ↔ t.id = .ofName t.keyspace t.name := by
  simp only [tableIdentity, Except.ok.injEq]
  split <;> simp_all

theorem replicationFloor_check_of_le {k : Keyspace} {floor : Int}
    (h : floor ≤ k.replication.factor) : replicationFloor.check k floor = .ok [] := by
  simp only [replicationFloor, h, if_true]

/-- What a check finds in each of several, given what it finds in one. -/
theorem findEach_of_finds {α : Type} {check : α → Except CheckFault (List Finding)}
    {find : α → List Finding} {as : List α} (h : ∀ a ∈ as, check a = .ok (find a)) :
    findEach check as = .ok (as.flatMap find) := by
  induction as with
  | nil => rfl
  | cons a as ih =>
    obtain ⟨ha, has⟩ := List.forall_mem_cons.1 h
    rw [findEach, ha, ih has]
    rfl

end AuthKeyspace.Findings
