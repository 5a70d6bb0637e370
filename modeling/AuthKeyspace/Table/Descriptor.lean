import AuthKeyspace.Cql.Content
import AuthKeyspace.Digest.Uuid
import AuthKeyspace.Log.Record
import AuthKeyspace.Table.Options

/-!
# Tables ready to be created

A table is made from its name, a description and the text of its statement, which is a template: its
first `%s` stands for the name, and a text without one is taken as it is. The name is checked, put
into the text, the text is read, and what it declares has to carry that very name. The identifier
depends on the names of keyspace and table only, so a table keeps it when its columns change.

Main statements: `fillChars_of_free` (without a place for a name nothing changes),
`Descriptor.build_name` and `Descriptor.build_id` (what a built table carries).
-/

namespace AuthKeyspace.Table

open AuthKeyspace.Cql

/-! ## Templates -/

/-- Is there a place for a name? -/
def hasPlace : List Char → Bool
  | [] => false
  | '%' :: 's' :: _ => true
  | _ :: rest => hasPlace rest

/-- Put `name` in the first place for a name. -/
def fillChars (name : List Char) : List Char → List Char
  | [] => []
  | '%' :: 's' :: rest => name ++ rest
  | c :: rest => c :: fillChars name rest

/-- Put a name in the first place of a template. -/
def fill (template name : String) : String :=
  String.ofList (fillChars name.toList template.toList)

theorem fillChars_of_free {name cs : List Char} (h : hasPlace cs = false) :
    fillChars name cs = cs := by
  fun_induction fillChars name cs with
  | case1 => rfl
  | case2 rest => simp [hasPlace] at h
  | case3 c rest hne ih =>
    rw [hasPlace] at h
    · rw [ih h]
    · exact hne

/-! ## Tables -/

/-- The text of a table before it is built. -/
structure Declaration where
  name : String
  description : String
  schemaText : String
deriving DecidableEq, Repr

/-- A table: its structure, its options and its stable identifier. The name is the one the table is
known by; usually the structure has the same. -/
structure Descriptor where
  name : String
  description : String
  layout : Structure
  id : Digest.Uuid
  options : Options
  schemaText : String
deriving DecidableEq, Repr

/-- Why a table cannot be built. -/
inductive BuildError
  | illegalName (name : String) (fault : TableNameFault)
  | blankText (name : String)
  | unreadable (name : String) (error : ParseError)
  | otherTable (name declared : String)
deriving DecidableEq, Repr

namespace BuildError

/-- The table an error is about; an empty name is no name. -/
def table? : BuildError → Option String
  | .illegalName "" _ => none
  | .illegalName name _ | .blankText name | .unreadable name _ | .otherTable name _ => some name

/-- What is said of a table that cannot be built. -/
def message : BuildError → String
  | .illegalName name fault => aboutTable (some name) (fault.message name)
  | .blankText name => aboutTable (some name) "Schema text is empty"
  | .unreadable name error => { error with table? := some name : ParseError }.message
  | .otherTable name declared =>
    aboutTable (some name) ("Schema text defines table " ++ Text.quoted declared)

end BuildError

namespace Descriptor

/-- The keyspace of a table. -/
def keyspace (d : Descriptor) : String := d.layout.keyspace

/-- The name of a table with its keyspace, as its structure has them. -/
def fullName (d : Descriptor) : String := d.layout.qualifiedName.plain

/-- How long deleted data is remembered. -/
def retention (d : Descriptor) : Except Time.Overflow Time.Duration := d.options.retention

/-- Build a table of `keyspace`. -/
def build (keyspace : String) (declaration : Declaration) : Except BuildError Descriptor :=
  let name := declaration.name
  match tableNameFault? name with
  | some fault => .error (.illegalName name fault)
  | none =>
    if Text.allBlank declaration.schemaText.toList then .error (.blankText name)
    else
      let text := fill declaration.schemaText name
      match Structure.ofText keyspace text with
      | .error error => .error (.unreadable name error)
      | .ok s =>
        if s.name = name then
          .ok {
            name
            description := declaration.description
            layout := s
            id := .ofName keyspace name
            options := { comment := declaration.description }
            schemaText := text }
        else .error (.otherTable name s.name)

/-- The record that a table was built. -/
def builtRecord (d : Descriptor) : Log.Record :=
  Log.Severity.debug.record ("Built table " ++ d.fullName ++ " (id=" ++ d.id.text ++ ")")

/-- Build a table and tell of it. -/
def buildLogged (keyspace : String) (declaration : Declaration) :
    Log.Logged BuildError Descriptor :=
  match build keyspace declaration with
  | .error e => ⟨[], .error e⟩
  | .ok d => ⟨[d.builtRecord], .ok d⟩

/-- The statement that creates the table, with its options. -/
def cql (d : Descriptor) (guarded : Bool) : Except Text.NumberTooLong String := do
  let options ← d.options.cql
  return d.layout.cql guarded ++ "\n    " ++ options ++ ";"

theorem build_name {keyspace : String} {declaration : Declaration} {d : Descriptor}
    (h : build keyspace declaration = .ok d) :
    d.name = declaration.name ∧ d.layout.name = declaration.name := by
  unfold build at h
  dsimp only at h
  repeat' split at h
  all_goals first | (cases h; exact ⟨rfl, by assumption⟩) | cases h

theorem build_id {keyspace : String} {declaration : Declaration} {d : Descriptor}
    (h : build keyspace declaration = .ok d) : d.id = .ofName keyspace declaration.name := by
  unfold build at h
  dsimp only at h
  repeat' split at h
  all_goals first | (cases h; rfl) | cases h

end Descriptor

end AuthKeyspace.Table
