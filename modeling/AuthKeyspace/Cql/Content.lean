import AuthKeyspace.Cql.Statement

/-!
# From a text to a table

A statement may be well formed and declare no table: it may belong to another keyspace, name a
column twice, or declare no usable key. `Structure.ofStatement` checks all that in a fixed order and
gives the table that is declared; `Structure.ofText` starts from the text. Every way to fail is a
`ParseError`, which knows where in the text the fault was seen, if it was seen at one place.

Main statement: `firstRepeated?_eq_none_iff`.
-/

namespace AuthKeyspace.Cql

/-! ## Faults -/

/-- Why a statement declares no table. -/
inductive ContentFault
  | foreignKeyspace (declared expected : String)
  | duplicateColumn (name : String)
  | noColumns
  | noKey
  | severalKeys
  | repeatedKeyColumn (columns : List String)
  | unknownKeyColumn (name : String)
  | multiCellKeyColumn (name : String)
deriving DecidableEq, Repr

/-- What is said of a statement that declares no table. -/
def ContentFault.message : ContentFault → String
  | .foreignKeyspace declared expected =>
    "Table is declared in keyspace " ++ Text.quoted declared ++ ", expected " ++
      Text.quoted expected
  | .duplicateColumn name => "Duplicate column " ++ Text.quoted name
  | .noColumns => "Table declares no columns"
  | .noKey => "No PRIMARY KEY specified"
  | .severalKeys => "Multiple PRIMARY KEY declarations"
  | .repeatedKeyColumn columns => "Column repeated in PRIMARY KEY " ++ Text.quotedList columns
  | .unknownKeyColumn name => "Unknown column " ++ Text.quoted name ++ " referenced in PRIMARY KEY"
  | .multiCellKeyColumn name =>
    "Invalid non-frozen collection type for PRIMARY KEY component " ++ Text.quoted name

/-- Why a text declares no table. -/
inductive ParseFault
  | blank
  | unexpectedCharacter (char : Char)
  | grammar (error : GrammarError)
  | content (fault : ContentFault)
deriving DecidableEq, Repr

/-- What is said of a text that declares no table. -/
def ParseFault.message : ParseFault → String
  | .blank => "Schema text is empty"
  | .unexpectedCharacter c => "Unexpected character " ++ Text.quoted (String.singleton c)
  | .grammar error => error.message
  | .content fault => fault.message

/-- A fault, where in the text it was seen, and the table it is about, where that is known. -/
structure ParseError where
  fault : ParseFault
  position? : Option Nat
  table? : Option String
deriving DecidableEq, Repr

/-- A message about a table begins with the table's name, if there is one. -/
def aboutTable (table? : Option String) (message : String) : String :=
  match table? with
  | none => message
  | some "" => message
  | some table => table ++ ": " ++ message

/-- What is said of an error: the table, the fault and the place. -/
def ParseError.message (e : ParseError) : String :=
  let text := aboutTable e.table? e.fault.message
  match e.position? with
  | none => text
  | some position => text ++ " (at offset " ++ toString position ++ ")"

/-! ## Columns and keys of a statement -/

namespace Definition

/-- The column a definition declares. -/
def column? : Definition → Option Column
  | .column c _ _ => some c
  | .key _ => none

/-- The name of the column a definition declares, and where the name stands. -/
def namePosition? : Definition → Option (String × Nat)
  | .column c position _ => some (c.name, position)
  | .key _ => none

/-- The key a definition declares. -/
def key? : Definition → Option PrimaryKey
  | .column c _ true => some (.single c.name)
  | .column _ _ false => none
  | .key k => some k

end Definition

namespace Statement

/-- The declared columns in order. -/
def columns (s : Statement) : List Column := s.definitions.filterMap Definition.column?

/-- The declared keys in order. -/
def keys (s : Statement) : List PrimaryKey := s.definitions.filterMap Definition.key?

end Statement

/-- The first entry whose name occurred before, `seen` being the names that came earlier. -/
def firstRepeated? {α : Type} (seen : List String) : List (String × α) → Option (String × α)
  | [] => none
  | (name, a) :: rest =>
    if seen.contains name then some (name, a) else firstRepeated? (name :: seen) rest

theorem firstRepeated?_eq_none_iff {α : Type} {seen : List String} {entries : List (String × α)} :
    firstRepeated? seen entries = none ↔
      (entries.map (·.1)).Nodup ∧ ∀ e ∈ entries, e.1 ∉ seen := by
  induction entries generalizing seen with
  | nil => simp [firstRepeated?]
  | cons e entries ih =>
    obtain ⟨name, a⟩ := e
    by_cases h : name ∈ seen
    · simp [firstRepeated?, h]
    · simp only [firstRepeated?, List.contains_eq_mem, h, decide_false, Bool.false_eq_true,
        if_false, ih, List.map_cons, List.nodup_cons, List.mem_cons, not_or, List.mem_map,
        not_exists, not_and, forall_eq_or_imp, not_false_eq_true, true_and, Prod.forall]
      constructor
      · rintro ⟨nodup, fresh⟩
        exact ⟨⟨fun n b hb e => (fresh n b hb).1 e, nodup⟩, fun n b hb => (fresh n b hb).2⟩
      · rintro ⟨⟨fresh, nodup⟩, apart⟩
        exact ⟨nodup, fun n b hb => ⟨fresh n b hb, apart n b hb⟩⟩

/-! ## The checks -/

/-- Is `name` a declared column that can be part of a key? -/
def checkKeyColumn (columns : List Column) (name : String) : Except ContentFault Unit :=
  match columns.find? (·.name == name) with
  | none => .error (.unknownKeyColumn name)
  | some c => if c.type.isMultiCell then .error (.multiCellKeyColumn name) else .ok ()

/-- Check each key column in order. -/
def checkKeyColumns (columns : List Column) : List String → Except ContentFault Unit
  | [] => .ok ()
  | name :: rest => do
    checkKeyColumn columns name
    checkKeyColumns columns rest

/-- The one key that is declared, if it is made of declared columns. -/
def checkKey (columns : List Column) : List PrimaryKey → Except ContentFault PrimaryKey
  | [] => .error .noKey
  | [key] => do
    if (firstRepeated? [] (key.columns.map fun n => (n, ()))).isSome then
      .error (.repeatedKeyColumn key.columns)
    checkKeyColumns columns key.columns
    return key
  | _ => .error .severalKeys

namespace Structure

/-- The table that a statement declares in `keyspace`. -/
def ofStatement (keyspace : String) (s : Statement) : Except ParseError Structure := do
  if let some declared := s.keyspace? then
    if declared ≠ keyspace then
      .error ⟨.content (.foreignKeyspace declared keyspace), none, some s.table⟩
  if let some (name, position) :=
      firstRepeated? [] (s.definitions.filterMap Definition.namePosition?) then
    .error ⟨.content (.duplicateColumn name), some position, none⟩
  if s.columns.isEmpty then .error ⟨.content .noColumns, none, none⟩
  match checkKey s.columns s.keys with
  | .error fault => .error ⟨.content fault, none, none⟩
  | .ok key =>
    return {
      keyspace, name := s.table, columns := s.columns, primaryKey := key, guarded := s.guarded }

/-- The table that a text declares in `keyspace`. -/
def ofText (keyspace : String) (text : String) : Except ParseError Structure :=
  let cs := text.toList
  if Text.allBlank cs then .error ⟨.blank, some 0, none⟩
  else
    match tokenize cs with
    | .error e => .error ⟨.unexpectedCharacter e.char, some e.position, none⟩
    | .ok tokens =>
      match Statement.ofTokens tokens with
      | .error e =>
        let position := match e.token? with
          | some t => t.position
          | none => cs.length
        .error ⟨.grammar e, some position, none⟩
      | .ok s => ofStatement keyspace s

end Structure

end AuthKeyspace.Cql
