import AuthKeyspace.Cql.DataType
import AuthKeyspace.Cql.Identifier

/-!
# The structure of a table

What a statement declares: a table in a keyspace, its columns in order, and the key, which names the
columns that place a row on a node (the partition) and then those that order rows there (the
clustering). Whether the key names declared columns is a matter of reading a statement; a structure
made by other means need not.

A table is written as one statement: its qualified name, its columns in order and its key as a
clause of its own. Names are quoted where they have to be, so that what was written is read back as
the same table. A partition of several columns gets parentheses.
-/

namespace AuthKeyspace.Cql

/-- A column: its name and its type. -/
structure Column where
  name : String
  type : DataType
deriving DecidableEq, Repr

/-- The columns that identify a row. The partition has one column or more. -/
structure PrimaryKey where
  partition : List String
  clustering : List String
  partition_ne_nil : partition ≠ []
deriving DecidableEq, Repr

namespace PrimaryKey

/-- All key columns: the partition, then the clustering. -/
def columns (k : PrimaryKey) : List String := k.partition ++ k.clustering

/-- A key with the given columns, if the partition has one. -/
def ofLists? (partition clustering : List String) : Option PrimaryKey :=
  if h : partition = [] then none else some ⟨partition, clustering, h⟩

/-- What is said of a key without partition columns. -/
def emptyPartitionMessage : String := "A primary key needs at least one partition key column."

/-- The key whose partition is `first` and perhaps more columns. -/
def ofFirst (first : String) (more clustering : List String) : PrimaryKey :=
  ⟨first :: more, clustering, List.cons_ne_nil _ _⟩

/-- The key of one column. -/
def single (name : String) : PrimaryKey := ofFirst name [] []

end PrimaryKey

/-- What a statement says about a table. `guarded` tells whether it was written to be skipped where
the table exists; that is no part of the table. -/
structure Structure where
  keyspace : String
  name : String
  columns : List Column
  primaryKey : PrimaryKey
  guarded : Bool
deriving DecidableEq, Repr

namespace Structure

/-- The names of keyspace and table. -/
def qualifiedName (s : Structure) : QualifiedName := ⟨s.keyspace, s.name⟩

/-- The names of the columns in order. -/
def columnNames (s : Structure) : List String := s.columns.map (·.name)

/-- The first column called `name`. -/
def column? (s : Structure) (name : String) : Option Column := s.columns.find? (·.name == name)

/-- Have two tables the same columns and the same key? Names of tables and guards do not count. -/
def sameShape (s t : Structure) : Bool := s.columns == t.columns && s.primaryKey == t.primaryKey

theorem sameShape_comm (s t : Structure) : s.sameShape t = t.sameShape s := by
  simp [sameShape, Bool.beq_comm]

end Structure

/-! ## Writing a statement -/

/-- Names with commas between them, as a statement has them. -/
def namesCql (names : List String) : String := ", ".intercalate (names.map quoteName)

/-- The partition of a key: one name, or several in parentheses. -/
def partitionCql : List String → String
  | [name] => quoteName name
  | names => "(" ++ namesCql names ++ ")"

/-- The clause that declares a key. -/
def PrimaryKey.cql (k : PrimaryKey) : String :=
  "PRIMARY KEY(" ++ ", ".intercalate (partitionCql k.partition :: k.clustering.map quoteName) ++ ")"

/-- The definition of a column. -/
def Column.cql (c : Column) : String := quoteName c.name ++ " " ++ c.type.cql

/-- The words that keep a statement from failing where the thing exists. -/
def guardCql (guarded : Bool) : String := if guarded then "IF NOT EXISTS " else ""

/-- The statement that creates a table, without options. -/
def Structure.cql (s : Structure) (guarded : Bool) : String :=
  "CREATE TABLE " ++ guardCql guarded ++ s.qualifiedName.cql ++ " (" ++
    ", ".intercalate (s.columns.map Column.cql ++ [s.primaryKey.cql]) ++ ")"

end AuthKeyspace.Cql
