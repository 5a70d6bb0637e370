import AuthKeyspace.Keyspace.Assembly

/-!
# Changing a keyspace by hand

A keyspace that has been assembled can be changed in single steps: tables come, go and move, and
parts of them are replaced. A step names a table by its name; it fails if there is none, if what it
brings cannot be built or read, or if two tables would share a name. Nothing else is checked: that
the result still is what a node wants is for the rules to say.
-/

namespace AuthKeyspace

open AuthKeyspace.Table AuthKeyspace.Log

/-- One change of a keyspace. -/
inductive Edit
  /-- Change nothing. -/
  | keep
  /-- Take a table away. -/
  | drop (table : String)
  /-- Build a table and put it last; it belongs to this keyspace unless another is named. -/
  | add (declaration : Declaration) (keyspace? : Option String)
  /-- Put a table a second time. -/
  | duplicate (table : String)
  /-- Know a table by another name; its structure and identifier stay. -/
  | rename (table name : String)
  /-- Read another statement for a table; everything else of it stays. -/
  | restructure (table schemaText : String)
  /-- Give a table another identifier, as text. -/
  | setId (table id : String)
  /-- Remember deleted data of a table for another time. -/
  | setGrace (table : String) (seconds : Int)
  /-- Give a table another description and comment. -/
  | setDescription (table text : String)
  | setFactor (factor : Int)
  | setDurable (durable : Bool)
  | setName (name : String)
  /-- Put the tables in the opposite order. -/
  | reverse
deriving Repr

/-- Why a change cannot be made. -/
inductive EditError
  | noSuchTable (name : String)
  | table (error : BuildError)
  | unreadable (error : Cql.ParseError)
  | malformedId (fault : Digest.Uuid.Fault)
  | tooFewCopies (factor : Int)
  | duplicateNames (error : DuplicateNames)
deriving DecidableEq, Repr

namespace Keyspace

/-- The table called `name`, or the failure to find it. -/
def find (k : Keyspace) (name : String) : Except EditError Descriptor :=
  match k.table? name with
  | some t => .ok t
  | none => .error (.noSuchTable name)

/-- The keyspace with other tables. -/
def withTables (k : Keyspace) (tables : List Descriptor) : Except EditError Keyspace :=
  (ofTables k.name k.replication tables k.durableWrites).mapError .duplicateNames

/-- The keyspace with the table called `name` replaced. -/
def replaceTable (k : Keyspace) (name : String) (t : Descriptor) : Except EditError Keyspace :=
  k.withTables (k.tables.map fun u => if u.name = name then t else u)

/-- Make a change that builds nothing. -/
def editDirectly (k : Keyspace) : Edit → Except EditError Keyspace
  | .keep | .add .. => .ok k
  | .drop table => do
    let _ ← k.find table
    k.withTables (k.tables.filter (·.name != table))
  | .duplicate table => do
    let t ← k.find table
    k.withTables (k.tables ++ [t])
  | .rename table name => do
    let t ← k.find table
    k.replaceTable table { t with name }
  | .restructure table schemaText => do
    let t ← k.find table
    match Cql.Structure.ofText t.keyspace schemaText with
    | .ok layout => k.replaceTable table { t with layout }
    | .error e => .error (.unreadable e)
  | .setId table id => do
    let t ← k.find table
    match Digest.Uuid.ofText id with
    | .ok id => k.replaceTable table { t with id }
    | .error fault => .error (.malformedId fault)
  | .setGrace table seconds => do
    let t ← k.find table
    k.replaceTable table { t with options := { t.options with graceSeconds := seconds } }
  | .setDescription table text => do
    let t ← k.find table
    k.replaceTable table
      { t with description := text, options := { t.options with comment := text } }
  | .setFactor factor =>
    match Replication.ofFactor? factor with
    | some replication => .ok { k with replication }
    | none => .error (.tooFewCopies factor)
  | .setDurable durableWrites => .ok { k with durableWrites }
  | .setName name => .ok { k with name }
  | .reverse => k.withTables k.tables.reverse

/-- Make a change. -/
def edit (k : Keyspace) : Edit → Logged EditError Keyspace
  | .add declaration keyspace? => do
    let t ← (Descriptor.buildLogged (keyspace?.getD k.name) declaration).mapError .table
    .ofExcept (k.withTables (k.tables ++ [t]))
  | change => .ofExcept (k.editDirectly change)

end Keyspace

end AuthKeyspace
