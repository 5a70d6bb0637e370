import AuthKeyspace.Text.Quoted

/-!
# Names in statements

A name is a word, a letter or underscore followed by letters, digits and underscores, or any text in
double quotes. A word stands for itself in lower case, so only a word without capitals needs no
quotes to be read back as it is.

Main statements: `quoteName_of_isBare` and `quoteName_of_not_isBare`, the two ways to write a name.
The names of tables are words without capitals of at most `maxTableName` letters
(`tableNameFault?`).
-/

namespace AuthKeyspace.Cql

/-! ## Words -/

/-- Can a word begin with `c`? -/
def isWordStart (c : Char) : Bool := c.isAlpha || c = '_'

/-- Can a word go on with `c`? -/
def isWordRest (c : Char) : Bool := c.isAlphanum || c = '_'

/-- Is the text one word? -/
def isWord : List Char → Bool
  | [] => false
  | c :: rest => isWordStart c && rest.all isWordRest

/-- A word in lower case; words hold ASCII letters only. -/
def foldCase (cs : List Char) : List Char := cs.map Char.toLower

/-- Is the text a word that case folding leaves alone? -/
def isBare (cs : List Char) : Bool := isWord cs && foldCase cs == cs

/-! ## Writing a name -/

/-- A name as it is written in a statement: in quotes unless it is a word without capitals. -/
def quoteChars (cs : List Char) : List Char :=
  if isBare cs then cs else '"' :: Text.double '"' cs ++ ['"']

/-- A name as it is written in a statement. -/
def quoteName (name : String) : String := String.ofList (quoteChars name.toList)

theorem quoteName_of_isBare {name : String} (h : isBare name.toList = true) :
    quoteName name = name := by
  simp [quoteName, quoteChars, h]

theorem quoteName_of_not_isBare {name : String} (h : isBare name.toList = false) :
    (quoteName name).toList = '"' :: Text.double '"' name.toList ++ ['"'] := by
  simp [quoteName, quoteChars, h]

/-! ## Qualified names -/

/-- The name of a table inside a keyspace. -/
structure QualifiedName where
  keyspace : String
  table : String
deriving DecidableEq, Repr

/-- The two names with a dot between them, without quotes. -/
def QualifiedName.plain (n : QualifiedName) : String := n.keyspace ++ "." ++ n.table

/-- The two names with a dot between them, as a statement has them. -/
def QualifiedName.cql (n : QualifiedName) : String :=
  quoteName n.keyspace ++ "." ++ quoteName n.table

/-! ## Names of tables -/

/-- The longest name of a table. -/
def maxTableName : Nat := 48

/-- Why a text is not the name of a table. -/
inductive TableNameFault
  | empty
  | notAWord
  | capitals
  | tooLong
deriving DecidableEq, Repr

/-- What is said of a text that is not the name of a table. -/
def TableNameFault.message (name : String) : TableNameFault → String
  | .empty => "Table name must not be empty."
  | .notAWord => "Table name " ++ Text.quoted name ++ " is not a valid identifier."
  | .capitals => "Table name " ++ Text.quoted name ++ " must be lowercase."
  | .tooLong =>
    "Table name " ++ Text.quoted name ++ " exceeds " ++ toString maxTableName ++ " characters."

/-- Why a text is not the name of a table, `none` if it is one. The first fault counts. -/
def tableNameFault? (name : String) : Option TableNameFault :=
  let cs := name.toList
  if cs.isEmpty then some .empty
  else if !isWord cs then some .notAWord
  else if foldCase cs != cs then some .capitals
  else if maxTableName < cs.length then some .tooLong
  else none

theorem tableNameFault?_eq_none_iff {name : String} :
    tableNameFault? name = none ↔
      isBare name.toList = true ∧ name.toList.length ≤ maxTableName := by
  unfold tableNameFault? isBare
  cases h : name.toList with
  | nil => simp [isWord]
  | cons c cs =>
    by_cases hw : isWord (c :: cs) = true <;> by_cases hf : foldCase (c :: cs) = c :: cs <;>
      by_cases hl : maxTableName < (c :: cs).length <;> simp_all

end AuthKeyspace.Cql
