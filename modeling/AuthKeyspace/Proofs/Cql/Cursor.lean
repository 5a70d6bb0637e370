import AuthKeyspace.Cql.Statement

/-!
# Reading a statement with a cursor

The readers of `Cql/Statement` take tokens off a list. One can also leave the items
of a text where they are, the tokens and behind them the end, and move a cursor
along them. Then a reader looks at the item under the cursor or at the one behind
it, and when it has use for a token it moves the cursor on.

Such a walk could go wrong in ways that the readers of lists cannot. The cursor
could leave the items, or be left standing where it is by a loop that never ends. So
a walk keeps a record of what it does (`Event`), and loops have a bound: as many
rounds as there are items left, and any number, `slack`, more. A walk that uses up a
bound is `cutShort`, and one that would need an item where there is none is
`nowhere`. `Proofs/Cql/Progress` shows that neither comes up.
-/

namespace AuthKeyspace.Cql

/-- The token that an item is, if it is not the end. -/
def Item.token? : Item → Option Token
  | .token t => some t
  | .textEnd _ => none

namespace Walk

/-! ## Walks -/

/-- Things of which a walk does one after the other. -/
inductive Work
  /-- One definition and the comma behind it, if there is one. -/
  | definition
  /-- A comma and the name of a column behind it. -/
  | keyColumn
  /-- A comma and a type behind it. -/
  | typeArgument
  /-- A type with all that is inside it. -/
  | type
deriving DecidableEq, Repr

/-- What a walk does. -/
inductive Event
  /-- Look at the item `offset` places behind the cursor. -/
  | look (index offset : Nat)
  /-- Move the cursor from one place to the next. -/
  | move (index next : Nat)
  /-- Finish a piece of work that was begun at `start`. -/
  | finish (work : Work) (start stop : Nat)
deriving DecidableEq, Repr

/-- Where the cursor stands after an event. -/
def Event.index : Event → Nat
  | .look index _ => index
  | .move _ next => next
  | .finish _ _ stop => stop

/-- A cursor and all that has been done with it. -/
structure Cursor where
  index : Nat := 0
  events : List Event := []
deriving DecidableEq, Repr

/-- Something happens: the cursor stands where that leaves it. -/
def Cursor.after (c : Cursor) (e : Event) : Cursor := ⟨e.index, c.events ++ [e]⟩

/-- Why a walk ends before it has read what it was to read. -/
inductive Stop
  /-- The tokens are not what they should be. -/
  | fault (error : GrammarError)
  /-- A bound is used up. -/
  | cutShort
  /-- There is no item to look at. -/
  | nowhere
deriving DecidableEq, Repr

/-- What a walk goes along, and how many rounds more than there are items left a loop
may take. -/
structure Track where
  items : List Item
  slack : Nat

end Walk

/-- Something that is done with a cursor. If it fails, the cursor stays where it was
then. -/
abbrev Walk := ReaderT Walk.Track (ExceptT Walk.Stop (StateM Walk.Cursor))

namespace Walk

/-- Go a walk from where a cursor stands. -/
def go {α : Type} (w : Walk α) (track : Track) (c : Cursor) : Except Stop α × Cursor :=
  ((w.run track).run).run c

/-! ## Looking and moving -/

/-- The place of the cursor. -/
def place : Walk Nat := return (← get).index

/-- Note an event. -/
def happen (e : Event) : Walk Unit := modify (·.after e)

/-- End the walk with a fault. -/
def fail {α : Type} (fault : GrammarFault) (token? : Option Token) : Walk α :=
  throw (.fault ⟨fault, token?⟩)

/-- The item some places behind the cursor, or else the last one. -/
def look (offset : Nat) : Walk Item := do
  let index ← place
  happen (.look index offset)
  let items := (← read).items
  match items[min (index + offset) (items.length - 1)]? with
  | some item => return item
  | none => throw .nowhere

/-- Move the cursor on, unless it stands at the end. -/
def advance : Walk Unit := do
  let item ← look 0
  let index ← place
  match item with
  | .token _ => happen (.move index (index + 1))
  | .textEnd _ => happen (.move index index)

/-- Finish a piece of work that was begun at a place. -/
def finish (work : Work) (start : Nat) : Walk Unit := do happen (.finish work start (← place))

/-- How many rounds a loop may take that begins here. -/
def bound : Walk Nat := do
  let track ← read
  return track.items.length - (← place) + track.slack

/-- Does the item some places behind the cursor pass a test? -/
def sees (test : Lexeme → Bool) (offset : Nat) : Walk Bool := do
  return (← look offset).token?.any (test ·.lexeme)

/-- The fault of not finding `what` at the cursor. -/
def missing {α : Type} (what : Expectation) : Walk α := do
  fail (.expected what) (← look 0).token?

/-- Move on if the item at the cursor passes a test. -/
def accept (test : Lexeme → Bool) : Walk Bool := do
  if ← sees test 0 then
    advance
    return true
  else return false

/-- Move on behind something that has to be there. -/
def expect (what : Expectation) (test : Lexeme → Bool) : Walk Unit := do
  if ← accept test then return () else missing what

/-! ## The readers -/

/-- Read the keyword `k`. -/
def keyword (k : String) : Walk Unit := expect (.keyword k) (·.isKeyword k)

/-- Read the symbol `s`. -/
def symbol (s : Symbol) : Walk Unit := expect (.symbol s) (·.isSymbol s)

/-- Read a name that stands for `what`. -/
def name (what : Expectation) : Walk String := do
  match (← look 0).token?.bind (·.lexeme.name?) with
  | some n =>
    advance
    return n
  | none => missing what

/-- Read further names, each after a comma. -/
def furtherNames (what : Expectation) : Nat → Walk (List String)
  | 0 => throw .cutShort
  | bound + 1 => do
    let start ← place
    if ← accept (·.isSymbol .comma) then
      let n ← name what
      finish .keyColumn start
      let ns ← furtherNames what bound
      return n :: ns
    else return []

/-- Read what is behind the word of a type, by given walks for the first argument and
for the others. -/
def typeBehind (word : Token) (cs : List Char) (first : Walk DataType)
    (further : Walk (List DataType)) : Walk DataType :=
  let typeName := String.ofList (foldCase cs)
  match ScalarType.ofWord? typeName, TypeConstructor.ofWord? typeName with
  | some s, _ => do
    if ← sees (·.isSymbol .openAngle) 0 then
      fail (.takesNoParameters typeName) (← look 0).token?
    else return .scalar s
  | none, none => fail .unknownType (some word)
  | none, some c => do
    symbol .openAngle
    let first ← first
    let more ← further
    symbol .closeAngle
    match c.apply first more with
    | .ok formed => return formed
    | .error fault => fail (.unfitType fault) (some word)

mutual
/-- Read a type. -/
def type : Nat → Walk DataType
  | 0 => throw .cutShort
  | bound + 1 => do
    let start ← place
    match (← look 0).token? with
    | some ⟨.word cs, position⟩ =>
      advance
      let read ← typeBehind ⟨.word cs, position⟩ cs (type bound) (furtherTypes bound)
      finish .type start
      return read
    | _ => missing .type
/-- Read further types, each after a comma. -/
def furtherTypes : Nat → Walk (List DataType)
  | 0 => throw .cutShort
  | bound + 1 => do
    let start ← place
    if ← accept (·.isSymbol .comma) then
      let first ← type bound
      finish .typeArgument start
      let more ← furtherTypes bound
      return first :: more
    else return []
end

/-- Read the columns of a key clause, from its opening parenthesis to its closing one. -/
def keyColumns : Walk PrimaryKey := do
  symbol .openParen
  if ← accept (·.isSymbol .openParen) then
    let first ← name .partitionColumn
    let more ← furtherNames .partitionColumn (← bound)
    symbol .closeParen
    let clustering ← furtherNames .clusteringColumn (← bound)
    symbol .closeParen
    return .ofFirst first more clustering
  else
    let first ← name .partitionColumn
    let clustering ← furtherNames .clusteringColumn (← bound)
    symbol .closeParen
    return .ofFirst first [] clustering

/-- Read a column: its name, its type, and the words that make it the key. -/
def columnDefinition : Walk Definition := do
  let position := (← look 0).position
  let columnName ← name .columnName
  let columnType ← type (← bound)
  if ← accept (·.isKeyword "PRIMARY") then
    keyword "KEY"
    return .column ⟨columnName, columnType⟩ position true
  else return .column ⟨columnName, columnType⟩ position false

/-- Read one definition. The second item is looked at only if the first one is the word
PRIMARY. -/
def definition : Walk Definition := do
  if ← sees (·.isKeyword "PRIMARY") 0 then
    if ← sees (·.isKeyword "KEY") 1 then
      advance
      advance
      let key ← keyColumns
      return .key key
    else columnDefinition
  else columnDefinition

/-- Read definitions with commas between them. -/
def definitions : Nat → Walk (List Definition)
  | 0 => throw .cutShort
  | bound + 1 => do
    let start ← place
    let first ← definition
    let goesOn ← accept (·.isSymbol .comma)
    finish .definition start
    if goesOn then
      let more ← definitions bound
      return first :: more
    else return [first]

/-- Read the guard, if there is one. -/
def guard : Walk Bool := do
  if ← accept (·.isKeyword "IF") then
    keyword "NOT"
    keyword "EXISTS"
    return true
  else return false

/-- Read the name of a table, perhaps behind a keyspace and a dot. -/
def qualifiedName : Walk (Option String × String) := do
  let first ← name .tableName
  if ← accept (·.isSymbol .dot) then
    let second ← name .tableName
    return (some first, second)
  else return (none, first)

/-- Nothing but a semicolon may follow the closing parenthesis. -/
def endOfStatement : Walk Unit := do
  if ← sees (·.isKeyword "WITH") 0 then fail .optionsNotSupported (← look 0).token?
  else
    let _ ← accept (·.isSymbol .semicolon)
    if (← look 0).token?.isSome then missing .endOfStatement else return ()

/-- Read a statement that takes all tokens. -/
def statement : Walk Statement := do
  keyword "CREATE"
  keyword "TABLE"
  let guarded ← guard
  let (keyspace?, table) ← qualifiedName
  symbol .openParen
  let definitions ← definitions (← bound)
  symbol .closeParen
  endOfStatement
  return { keyspace?, table, guarded, definitions }

end Walk

end AuthKeyspace.Cql
