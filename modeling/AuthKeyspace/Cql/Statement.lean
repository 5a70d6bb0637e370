import AuthKeyspace.Cql.Table
import AuthKeyspace.Cql.Token

/-!
# Reading a CREATE TABLE statement

From the tokens of a text, a statement: the name of the table and perhaps its keyspace, whether it
is guarded by IF NOT EXISTS, and the definitions between the parentheses in their order. A
definition is a column, which may be declared the key on the spot, or a key clause. Options behind
the closing parenthesis are refused.

    CREATE TABLE [IF NOT EXISTS] [keyspace.]name (definition, ...) [;]
    definition:  name type [PRIMARY KEY]  or  PRIMARY KEY (key)
    key:         partition {, clustering}, the partition being one name or (name, ...)

Each reader takes the tokens that are left and gives back what it read with the tokens behind it. A
fault carries the token at which it was seen, `none` standing for the end of the text. Where a
reader calls itself, its first argument bounds the number of tokens left; the bound that
`Statement.ofTokens` gives is the length of the text's token list, which shrinks with every step.

Types stand in one another as deep as they are written. To read a type takes a stack as deep as the
type, and where a stack ends depends on who asks for the statement; that limit is left out here.

Main statements: `Reader.length_name`, `Reader.length_symbol`: a reader that succeeds leaves fewer
tokens.
-/

namespace AuthKeyspace.Cql

/-! ## Faults -/

/-- What could have stood at a place. -/
inductive Expectation
  | keyword (word : String)
  | symbol (symbol : Symbol)
  | tableName | columnName | partitionColumn | clusteringColumn
  | type
  | endOfStatement
deriving DecidableEq, Repr

/-- The words for what could have stood at a place. -/
def Expectation.phrase : Expectation → String
  | .keyword w => w
  | .symbol s => String.ofList ['\'', s.char, '\'']
  | .tableName => "table name"
  | .columnName => "column name"
  | .partitionColumn => "partition key column"
  | .clusteringColumn => "clustering column"
  | .type => "a type"
  | .endOfStatement => "end of statement"

/-- Why tokens are no statement. -/
inductive GrammarFault
  | expected (what : Expectation)
  | optionsNotSupported
  | takesNoParameters (word : String)
  | unknownType
  | unfitType (fault : TypeFault)
deriving DecidableEq, Repr

/-- A fault and the token at which it is reported. -/
structure GrammarError where
  fault : GrammarFault
  token? : Option Token
deriving DecidableEq, Repr

/-- How a message names the token it is about. -/
def describeToken : Option Token → String
  | none => "end of input"
  | some t => Text.quoted (String.ofList t.text)

/-- What is said of tokens that are no statement. -/
def GrammarError.message (e : GrammarError) : String :=
  let found := ", found " ++ describeToken e.token?
  match e.fault with
  | .expected what => "Expected " ++ what.phrase ++ found
  | .optionsNotSupported => "Table options are not supported in schema text" ++ found
  | .takesNoParameters word => "Type " ++ word ++ " takes no parameters" ++ found
  | .unknownType => "Unknown type " ++ describeToken e.token?
  | .unfitType fault => fault.message

/-- One item between the parentheses of a statement. -/
inductive Definition
  /-- A column, where its name stands, and whether it is declared the key on the spot. -/
  | column (column : Column) (position : Nat) (isKey : Bool)
  /-- A key clause. -/
  | key (key : PrimaryKey)
deriving DecidableEq, Repr

/-- A CREATE TABLE statement. -/
structure Statement where
  keyspace? : Option String
  table : String
  guarded : Bool
  definitions : List Definition
deriving DecidableEq, Repr

/-- A reader of tokens: what it read, and the tokens behind it. -/
abbrev Reader (α : Type) := List Token → Except GrammarError (α × List Token)

namespace Reader

/-! ## Words, symbols and names -/

/-- The fault of not finding `what` before the given tokens. -/
def missing {α : Type} (what : Expectation) (tokens : List Token) : Except GrammarError α :=
  .error ⟨.expected what, tokens.head?⟩

/-- Is the next token the keyword `k`? -/
def startsWithKeyword (k : String) : List Token → Bool
  | t :: _ => t.lexeme.isKeyword k
  | [] => false

/-- Is the next token the symbol `s`? -/
def startsWithSymbol (s : Symbol) : List Token → Bool
  | t :: _ => t.lexeme.isSymbol s
  | [] => false

/-- Read the keyword `k`. -/
def keyword (k : String) (tokens : List Token) : Except GrammarError (List Token) :=
  if startsWithKeyword k tokens then .ok tokens.tail else missing (.keyword k) tokens

/-- Read the symbol `s`. -/
def symbol (s : Symbol) (tokens : List Token) : Except GrammarError (List Token) :=
  if startsWithSymbol s tokens then .ok tokens.tail else missing (.symbol s) tokens

/-- Read a name that stands for `what`. -/
def name (what : Expectation) : Reader String
  | [] => missing what []
  | t :: rest =>
    match t.lexeme.name? with
    | some n => .ok (n, rest)
    | none => missing what (t :: rest)

/-- Read further names, each after a comma. -/
def furtherNames (what : Expectation) : Reader (List String)
  | [] => .ok ([], [])
  | t :: rest =>
    if t.lexeme.isSymbol .comma then
      match rest with
      | [] => missing what []
      | u :: rest =>
        match u.lexeme.name? with
        | none => missing what (u :: rest)
        | some n => do
          let (ns, rest) ← furtherNames what rest
          return (n :: ns, rest)
    else .ok ([], t :: rest)

/-! ## Types -/

mutual
/-- Read a type, out of at most `bound` tokens. -/
def type (bound : Nat) : Reader DataType
  | [] => missing .type []
  | t :: rest =>
    match bound, t.lexeme with
    | bound + 1, .word cs =>
      let word := String.ofList (foldCase cs)
      match ScalarType.ofWord? word, TypeConstructor.ofWord? word with
      | some s, _ =>
        if startsWithSymbol .openAngle rest then .error ⟨.takesNoParameters word, rest.head?⟩
        else .ok (.scalar s, rest)
      | none, none => .error ⟨.unknownType, some t⟩
      | none, some c => do
        let rest ← symbol .openAngle rest
        let (first, rest) ← type bound rest
        let (more, rest) ← furtherTypes bound rest
        let rest ← symbol .closeAngle rest
        match c.apply first more with
        | .ok formed => return (formed, rest)
        | .error fault => .error ⟨.unfitType fault, some t⟩
    | _, _ => missing .type (t :: rest)
/-- Read further types, each after a comma, out of at most `bound` tokens. -/
def furtherTypes (bound : Nat) : Reader (List DataType)
  | [] => .ok ([], [])
  | t :: rest =>
    match bound with
    | bound + 1 =>
      if t.lexeme.isSymbol .comma then do
        let (first, rest) ← type bound rest
        let (more, rest) ← furtherTypes bound rest
        return (first :: more, rest)
      else .ok ([], t :: rest)
    | 0 => .ok ([], t :: rest)
end

/-! ## Definitions -/

/-- Read the columns of a key clause, from its opening parenthesis to its closing one. -/
def keyColumns : Reader PrimaryKey := fun tokens => do
  let tokens ← symbol .openParen tokens
  if startsWithSymbol .openParen tokens then do
    let (first, tokens) ← name .partitionColumn tokens.tail
    let (more, tokens) ← furtherNames .partitionColumn tokens
    let tokens ← symbol .closeParen tokens
    let (clustering, tokens) ← furtherNames .clusteringColumn tokens
    let tokens ← symbol .closeParen tokens
    return (.ofFirst first more clustering, tokens)
  else do
    let (first, tokens) ← name .partitionColumn tokens
    let (clustering, tokens) ← furtherNames .clusteringColumn tokens
    let tokens ← symbol .closeParen tokens
    return (.ofFirst first [] clustering, tokens)

/-- Read a column: its name, its type, and the words that make it the key. -/
def columnDefinition : Reader Definition := fun tokens => do
  let position := (tokens.head?.map (·.position)).getD 0
  let (columnName, tokens) ← name .columnName tokens
  let (columnType, tokens) ← type tokens.length tokens
  if startsWithKeyword "PRIMARY" tokens then do
    let tokens ← keyword "KEY" tokens.tail
    return (.column ⟨columnName, columnType⟩ position true, tokens)
  else return (.column ⟨columnName, columnType⟩ position false, tokens)

/-- Read one definition. Only both words together open a key clause, so a column may be called
`primary`. -/
def definition : Reader Definition := fun tokens =>
  if startsWithKeyword "PRIMARY" tokens && startsWithKeyword "KEY" tokens.tail then do
    let (key, tokens) ← keyColumns tokens.tail.tail
    return (.key key, tokens)
  else columnDefinition tokens

/-- Read definitions with commas between them, out of at most `bound` tokens. -/
def definitions : Nat → Reader (List Definition)
  | 0, tokens => do
    let (only, tokens) ← definition tokens
    return ([only], tokens)
  | bound + 1, tokens => do
    let (first, tokens) ← definition tokens
    if startsWithSymbol .comma tokens then do
      let (more, tokens) ← definitions bound tokens.tail
      return (first :: more, tokens)
    else return ([first], tokens)

/-! ## The statement -/

/-- Read the guard, if there is one. The word IF commits to it. -/
def guard : Reader Bool := fun tokens =>
  if startsWithKeyword "IF" tokens then do
    let tokens ← keyword "NOT" tokens.tail
    let tokens ← keyword "EXISTS" tokens
    return (true, tokens)
  else .ok (false, tokens)

/-- Read the name of a table, perhaps behind a keyspace and a dot. -/
def qualifiedName : Reader (Option String × String) := fun tokens => do
  let (first, tokens) ← name .tableName tokens
  if startsWithSymbol .dot tokens then do
    let (second, tokens) ← name .tableName tokens.tail
    return ((some first, second), tokens)
  else return ((none, first), tokens)

/-- Nothing but a semicolon may follow the closing parenthesis. -/
def endOfStatement (tokens : List Token) : Except GrammarError Unit :=
  if startsWithKeyword "WITH" tokens then .error ⟨.optionsNotSupported, tokens.head?⟩
  else
    let tokens := if startsWithSymbol .semicolon tokens then tokens.tail else tokens
    if tokens.isEmpty then .ok () else missing .endOfStatement tokens

/-! ## Readers leave fewer tokens -/

theorem length_symbol {s : Symbol} {tokens rest : List Token} (h : symbol s tokens = .ok rest) :
    rest.length + 1 = tokens.length := by
  unfold symbol at h
  cases tokens with
  | nil => simp [startsWithSymbol, missing] at h
  | cons t ts =>
    split at h
    · cases h; simp
    · cases h

theorem length_name {what : Expectation} {tokens rest : List Token} {n : String}
    (h : name what tokens = .ok (n, rest)) : rest.length + 1 = tokens.length := by
  unfold name at h
  split at h
  · simp [missing] at h
  · split at h
    · cases h; simp
    · simp [missing] at h

end Reader

/-- Read a statement that takes all tokens. -/
def Statement.ofTokens (tokens : List Token) : Except GrammarError Statement := do
  let tokens ← Reader.keyword "CREATE" tokens
  let tokens ← Reader.keyword "TABLE" tokens
  let (guarded, tokens) ← Reader.guard tokens
  let ((keyspace?, table), tokens) ← Reader.qualifiedName tokens
  let tokens ← Reader.symbol .openParen tokens
  let (definitions, tokens) ← Reader.definitions tokens.length tokens
  let tokens ← Reader.symbol .closeParen tokens
  Reader.endOfStatement tokens
  return { keyspace?, table, guarded, definitions }

end AuthKeyspace.Cql
