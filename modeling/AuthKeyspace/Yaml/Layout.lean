import AuthKeyspace.Yaml.Block
import AuthKeyspace.Yaml.Plain
import AuthKeyspace.Yaml.Property

/-!
# From layout to tokens

Outside of brackets the columns say what belongs together: a line that is indented further begins a
collection, and a line that is indented less ends those that were deeper. That something is a key
shows only when the colon behind it is read. Until then its place is kept as a candidate, one for
each depth of brackets; the colon has to come on the same line and not too far behind. A text that
begins a line where keys of a mapping begin has to be a key.

Tokens are read one by one, and no further than is needed: a token is ready when it is certain that
no key begins with it.
-/

namespace AuthKeyspace.Yaml

/-- A place where a key may have begun. -/
structure Candidate where
  depth : Nat
  token : Nat
  required : Bool
  index : Nat
  line : Nat
  column : Nat
deriving DecidableEq, Repr

/-- How many characters a key and the colon behind it can be apart. -/
def maxKeyLength : Nat := 1024

/-- The tokens read so far, how many of them were taken, the place reached, whether that is the end,
and what is open there: brackets, and collections by their columns. A text can break off, so that
there is a fault at its end. -/
structure Layout where
  cursor : Cursor
  cut? : Option Fault := none
  tokens : Array Token := #[]
  taken : Nat := 0
  isDone : Bool := false
  depth : Nat := 0
  indent : Int := -1
  outer : List Int := []
  keyAllowed : Bool := true
  candidates : List Candidate := []

namespace Layout

/-! ## Candidates for keys -/

/-- Can the candidate no longer be a key? -/
def isStale (s : Layout) (k : Candidate) : Bool :=
  k.line != s.cursor.line || k.index + maxKeyLength < s.cursor.index

/-- Forget the candidates that can no longer be keys; one that had to be a key is a fault. -/
def dropStale (s : Layout) : Except Fault Layout :=
  if s.candidates.any fun k => k.required && s.isStale k then .error .malformed
  else .ok { s with candidates := s.candidates.filter fun k => !s.isStale k }

/-- Forget the candidate at the present depth; one that had to be a key is a fault. -/
def dropCandidate (s : Layout) : Except Fault Layout :=
  if s.candidates.any fun k => k.required && k.depth == s.depth then .error .malformed
  else .ok { s with candidates := s.candidates.filter (·.depth != s.depth) }

/-- A key may begin here. -/
def saveCandidate (s : Layout) : Except Fault Layout :=
  if s.keyAllowed then do
    let s ← s.dropCandidate
    let candidate := {
      depth := s.depth
      token := s.tokens.size
      required := s.depth == 0 && s.indent == s.cursor.column
      index := s.cursor.index
      line := s.cursor.line
      column := s.cursor.column }
    return { s with candidates := candidate :: s.candidates }
  else .ok s

/-! ## Columns -/

/-- Leave the collections deeper than a column: how many, and what is open then. -/
def leave (column indent : Int) : List Int → Nat × Int × List Int
  | [] => (0, indent, [])
  | next :: outer =>
    if column < indent then
      let (count, indent, outer) := leave column next outer
      (count + 1, indent, outer)
    else (0, indent, next :: outer)

/-- Put a token behind the others. -/
def emit (s : Layout) (t : Token) : Layout := { s with tokens := s.tokens.push t }

/-- End the collections deeper than a column; inside brackets columns say nothing. -/
def unwind (s : Layout) (column : Int) : Layout :=
  if s.depth = 0 then
    let (count, indent, outer) := leave column s.indent s.outer
    { s with indent, outer, tokens := s.tokens ++ Array.replicate count Token.blockEnd }
  else s

/-- Begin a collection at a column, if it is deeper than what is open; `place` is where its token
belongs. -/
def openBlock (s : Layout) (column : Nat) (place : Nat) (t : Token) : Layout :=
  if s.depth = 0 ∧ s.indent < column then
    { s with
      indent := column
      outer := s.indent :: s.outer
      tokens := s.tokens.insertIdxIfInBounds place t }
  else s

/-- Go past some characters and put a token behind the others. -/
def mark (s : Layout) (count : Nat) (t : Token) : Layout :=
  { s.emit t with cursor := s.cursor.skip count }

/-! ## Tokens -/

/-- A directive, or a line that separates documents, ends everything that is open. -/
def endAll (s : Layout) : Except Fault Layout := do
  let s ← (s.unwind (-1)).dropCandidate
  return { s with keyAllowed := false }

/-- The opening of brackets. -/
def openBracket (s : Layout) (t : Token) : Except Fault Layout := do
  let s ← s.saveCandidate
  return { s.mark 1 t with depth := s.depth + 1, keyAllowed := true }

/-- The end of brackets; there has to be something to end. -/
def closeBracket (s : Layout) (t : Token) : Except Fault Layout := do
  let s ← s.dropCandidate
  if s.depth = 0 then .error .malformed
  else return { s.mark 1 t with depth := s.depth - 1, keyAllowed := false }

/-- A comma between brackets. -/
def comma (s : Layout) : Except Fault Layout := do
  let s ← s.dropCandidate
  return { s.mark 1 .comma with keyAllowed := true }

/-- A dash before an item. -/
def dash (s : Layout) : Except Fault Layout := do
  if s.depth = 0 ∧ s.keyAllowed = false then .error .malformed
  else
    let s := s.openBlock s.cursor.column s.tokens.size .blockSequence
    let s ← s.dropCandidate
    return { s.mark 1 .dash with keyAllowed := true }

/-- A question mark before a key. -/
def keyMark (s : Layout) : Except Fault Layout := do
  if s.depth = 0 ∧ s.keyAllowed = false then .error .malformed
  else
    let s := s.openBlock s.cursor.column s.tokens.size .blockMapping
    let s ← s.dropCandidate
    return { s.mark 1 .keyMark with keyAllowed := s.depth == 0 }

/-- A colon: the candidate at this depth is a key, or the key came behind a question mark. -/
def valueMark (s : Layout) : Except Fault Layout :=
  match s.candidates.find? (·.depth == s.depth) with
  | some k =>
    let s := { s with
      candidates := s.candidates.filter (·.depth != s.depth)
      tokens := s.tokens.insertIdxIfInBounds k.token .keyMark }
    let s := s.openBlock k.column k.token .blockMapping
    .ok { s.mark 1 .valueMark with keyAllowed := false }
  | none => do
    if s.depth = 0 ∧ s.keyAllowed = false then .error .malformed
    else
      let s := s.openBlock s.cursor.column s.tokens.size .blockMapping
      let s ← s.dropCandidate
      return { s.mark 1 .valueMark with keyAllowed := s.depth == 0 }

/-- A token that may be, or may begin, a key. -/
def item (s : Layout) (read : Cursor → Except Fault (Token × Cursor)) : Except Fault Layout := do
  let s ← s.saveCandidate
  let (t, cursor) ← read s.cursor
  return { s.emit t with cursor, keyAllowed := false }

/-- A text in quotes. -/
def quotedItem (s : Layout) (isDouble : Bool) : Except Fault Layout :=
  s.item fun c => do
    let (chars, left) ← quotedBody (s.cut?.getD .malformed) isDouble (c.rest.drop 1)
    return (.text chars false, c.goTo left)

/-- A text in indented lines; a key may begin behind it. -/
def blockItem (s : Layout) (folded : Bool) : Except Fault Layout := do
  let s ← s.dropCandidate
  let (chars, cursor) ← orMalformed (blockText? folded (s.indent + 1).toNat s.cursor)
  return { s.emit (.text (Text.pointsOf chars) false) with cursor, keyAllowed := true }

/-- A text without quotes; a key may begin behind it if its line has ended. -/
def plainItem (s : Layout) : Except Fault Layout := do
  let s ← s.saveCandidate
  let p := plainText (s.depth != 0) (s.indent + 1).toNat s.cursor
  if p.chars.isEmpty then .error .malformed
  else return { s.emit (.text (Text.pointsOf p.chars) true) with
    cursor := p.cursor
    keyAllowed := p.brokeLine }

/-- Can a plain text begin with `c`? -/
def beginsPlain (s : Layout) (c : Char) : Bool :=
  !(isBlank c || isBreak c || "-?:,[]\x7b\x7d#&*!|>'\"%@\x60".toList.contains c) ||
    (!endsWord s.cursor.second? && (c = '-' || (s.depth == 0 && (c = '?' || c = ':'))))

/-- Read the token that begins with `c`. -/
def next (s : Layout) (c : Char) : Except Fault Layout :=
  let wordEnds := endsWord s.cursor.second?
  let inFlow := s.depth != 0
  if s.cursor.column = 0 ∧ c = '%' then do
    let s ← s.endAll
    let (d, cursor) ← directive s.cursor
    return { s.emit (.directive d) with cursor }
  else if s.cursor.column = 0 ∧ isSeparator s.cursor.rest then do
    let s ← s.endAll
    return s.mark 3 (if c = '-' then .documentStart else .documentEnd)
  else if c = '[' then s.openBracket .bracketOpen
  else if c = '\x7b' then s.openBracket .braceOpen
  else if c = ']' then s.closeBracket .bracketClose
  else if c = '\x7d' then s.closeBracket .braceClose
  else if c = ',' then s.comma
  -- A hyphen, a question mark and a colon count as words of their own; between brackets the latter
  -- two need no blank behind them.
  else if c = '-' ∧ wordEnds then s.dash
  else if c = '?' ∧ (inFlow || wordEnds) then s.keyMark
  else if c = ':' ∧ (inFlow || wordEnds) then s.valueMark
  else if c = '*' then
    s.item fun place => orMalformed ((anchorName? place).map fun (name, c) => (.reference name, c))
  else if c = '&' then
    s.item fun place => orMalformed ((anchorName? place).map fun (name, c) => (.anchor name, c))
  else if c = '!' then s.item fun place => orMalformed (tag? place)
  else if c = '|' ∧ !inFlow then s.blockItem false
  else if c = '>' ∧ !inFlow then s.blockItem true
  else if c = '\'' then s.quotedItem false
  else if c = '"' then s.quotedItem true
  else if s.beginsPlain c then s.plainItem
  else .error .malformed

/-- Go to the next token, past spaces, comments and line ends. -/
def toNextToken : Nat → Layout → Layout
  | 0, s => s
  | fuel + 1, s =>
    let c := s.cursor.skipSpaces
    let c := if c.head? = some '#' then c.skipLine else c
    match c.break? with
    | some (_, cursor) =>
      toNextToken fuel { s with cursor, keyAllowed := s.keyAllowed || s.depth == 0 }
    | none => { s with cursor := c }

/-- Has the text not broken off yet? -/
def checkCut (s : Layout) : Except Fault Layout :=
  match s.cut? with
  | some fault => if s.cursor.rest.isEmpty then .error fault else .ok s
  | none => .ok s

/-- Read one token more, or the end; there are no more than `lines` lines to come. -/
def fetch (lines : Nat) (s : Layout) : Except Fault Layout := do
  let s ← (toNextToken lines s).checkCut
  let s ← s.dropStale
  let s := s.unwind s.cursor.column
  match s.cursor.head? with
  | none =>
    let s ← s.endAll
    return { s with isDone := true }
  | some c => (← s.next c).checkCut

/-- Read on until the next token is ready; each step takes one character at least, or reaches the
end. -/
def ready : Nat → Layout → Except Fault Layout
  | 0, _ => .error .malformed
  | fuel + 1, s =>
    if s.isDone then .ok s
    else if s.taken = s.tokens.size then do ready fuel (← s.fetch (fuel + 1))
    else do
      let s ← s.dropStale
      if s.candidates.any (·.token == s.taken) then ready fuel (← s.fetch (fuel + 1)) else return s

/-- The token that is next; there is none at the end. -/
def peek? (s : Layout) : Option Token := s.tokens[s.taken]?

/-- Take the next token away. -/
def take (s : Layout) : Layout := { s with taken := s.taken + 1 }

/-- The layout of a document before anything is read. A mark at its very beginning is left out. -/
def ofChars (cs : List Char) (cut? : Option Fault) : Layout :=
  let start : Cursor := { rest := cs }
  { cursor := if start.head? = some byteOrderMark then start.advance else start
    cut? }

end Layout

end AuthKeyspace.Yaml
