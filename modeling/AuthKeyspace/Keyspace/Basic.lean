import AuthKeyspace.Table.Descriptor

/-!
# Keyspaces

A keyspace has a name, a number of copies kept of every row, and tables with names of their own.
Both are part of the type: there is at least one copy, and no two tables share a name. A table is
looked up by its name, which the tables' structures do not have to share. A keyspace can be written
if every number in it can.

Main statements: `Keyspace.ofTables_eq_ok_iff` and `Keyspace.table?_eq_some_iff`: since names are
distinct, a look-up finds the one table of that name.
-/

namespace AuthKeyspace

open AuthKeyspace.Cql AuthKeyspace.Table

/-! ## Replication -/

/-- How many copies of a row there are. -/
structure Replication where
  factor : Int
  one_le_factor : 1 ≤ factor
deriving DecidableEq, Repr

namespace Replication

/-- The strategy that places copies. -/
def strategy : String := "SimpleStrategy"

/-- Replication with the given number of copies, if there is at least one. -/
def ofFactor? (factor : Int) : Option Replication :=
  if h : 1 ≤ factor then some ⟨factor, h⟩ else none

/-- What is said of too few copies. -/
def tooFewMessage (factor : Int) : String :=
  Text.said do
    return "Replication factor must be at least 1, got " ++ (← Text.writeInteger factor) ++ "."

/-- Replication as options of a keyspace. -/
def options (r : Replication) : Except Text.NumberTooLong (List (String × String)) := do
  return [("class", strategy), ("replication_factor", ← Text.writeInteger r.factor)]

end Replication

/-! ## Keyspaces -/

/-- A keyspace with its tables. -/
structure Keyspace where
  name : String
  replication : Replication
  tables : List Descriptor
  durableWrites : Bool
  names_nodup : (tables.map (·.name)).Nodup
deriving DecidableEq, Repr

/-- Names that more than one table of a keyspace would have. -/
structure DuplicateNames where
  keyspace : String
  names : List String
deriving DecidableEq, Repr

/-- What is said of tables that share names. -/
def DuplicateNames.message (e : DuplicateNames) : String :=
  "Duplicate table names in keyspace " ++ e.keyspace ++ ": " ++ Text.quotedList e.names

/-- Names in the order of their code points. -/
def sortNames (names : List String) : List String := names.mergeSort fun a b => decide (a ≤ b)

/-- The names that occur more than once, each once, in order. -/
def repeatedNames (names : List String) : List String :=
  sortNames (names.filter fun n => 1 < names.count n).eraseDups

namespace Keyspace

/-- The keyspace with the given tables, if their names are distinct. -/
def ofTables (name : String) (replication : Replication) (tables : List Descriptor)
    (durableWrites : Bool) : Except DuplicateNames Keyspace :=
  if h : (tables.map (·.name)).Nodup then .ok ⟨name, replication, tables, durableWrites, h⟩
  else .error ⟨name, repeatedNames (tables.map (·.name))⟩

/-- The names of the tables, in the order of the tables. -/
def tableNames (k : Keyspace) : List String := k.tables.map (·.name)

/-- The table called `name`. -/
def table? (k : Keyspace) (name : String) : Option Descriptor := k.tables.find? (·.name == name)

/-- The statement that creates the keyspace. -/
def createCql (k : Keyspace) (guarded : Bool) : Except Text.NumberTooLong String := do
  let options ← k.replication.options
  return "CREATE KEYSPACE " ++ guardCql guarded ++ quoteName k.name ++ " WITH replication = " ++
    mapLiteral options ++ " AND durable_writes = " ++
    (if k.durableWrites then "true" else "false") ++ ";"

/-- The statements that create the keyspace and its tables, with a blank line between them. -/
def cql (k : Keyspace) : Except Text.NumberTooLong String := do
  let own ← k.createCql true
  let tables ← k.tables.mapM fun t => t.cql true
  return "\n\n".intercalate (own :: tables)

theorem ofTables_eq_ok_iff {name : String} {replication : Replication} {tables : List Descriptor}
    {durableWrites : Bool} {k : Keyspace} :
    ofTables name replication tables durableWrites = .ok k ↔
      k.name = name ∧ k.replication = replication ∧ k.tables = tables ∧
        k.durableWrites = durableWrites := by
  unfold ofTables
  constructor
  · intro h
    split at h
    · cases h; exact ⟨rfl, rfl, rfl, rfl⟩
    · cases h
  · rintro ⟨rfl, rfl, rfl, rfl⟩
    simp [k.names_nodup]

theorem table?_eq_some_iff {k : Keyspace} {name : String} {t : Descriptor} :
    k.table? name = some t ↔ t ∈ k.tables ∧ t.name = name := by
  have key : ∀ ts : List Descriptor, (ts.map (·.name)).Nodup →
      (ts.find? (·.name == name) = some t ↔ t ∈ ts ∧ t.name = name) := by
    intro ts nodup
    induction ts with
    | nil => simp
    | cons u us ih =>
      simp only [List.map_cons, List.nodup_cons, List.mem_map, not_exists, not_and] at nodup
      by_cases hu : u.name = name
      · simp only [List.find?_cons, hu, beq_self_eq_true, Option.some.injEq, List.mem_cons]
        constructor
        · rintro rfl
          exact ⟨.inl rfl, hu⟩
        · rintro ⟨rfl | mem, eq⟩
          · rfl
          · exact absurd (eq.trans hu.symm) (nodup.1 t mem)
      · have hne : (u.name == name) = false := by simpa using hu
        simp only [List.find?_cons, hne, List.mem_cons, ih nodup.2]
        constructor
        · rintro ⟨mem, eq⟩
          exact ⟨.inr mem, eq⟩
        · rintro ⟨rfl | mem, eq⟩
          · exact absurd eq hu
          · exact ⟨mem, eq⟩
  exact key k.tables k.names_nodup

end Keyspace

end AuthKeyspace
