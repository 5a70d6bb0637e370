import AuthKeyspace.Yaml.Character

/-!
# A place in a document

Layout depends on lines and columns, so reading goes on from a cursor, which has the characters that
are left and knows how many were read, in which line it is and in which column.
-/

namespace AuthKeyspace.Yaml

/-- A place in a document. -/
structure Cursor where
  rest : List Char
  index : Nat := 0
  line : Nat := 0
  column : Nat := 0
deriving DecidableEq, Repr

namespace Cursor

/-- The character at the cursor. -/
def head? (c : Cursor) : Option Char := c.rest.head?

/-- The character behind the one at the cursor. -/
def second? (c : Cursor) : Option Char := c.rest[1]?

/-- Go past one character. -/
def advance (c : Cursor) : Cursor :=
  match c.rest with
  | [] => c
  | x :: rest =>
    if isBreak x then ⟨rest, c.index + 1, c.line + 1, 0⟩
    else ⟨rest, c.index + 1, c.line, if x = byteOrderMark then c.column else c.column + 1⟩

/-- Go past some characters. -/
def skip : Nat → Cursor → Cursor
  | 0, c => c
  | n + 1, c => skip n c.advance

/-- The characters up to the first that is not `p`. -/
def run (p : Char → Bool) (c : Cursor) : List Char := c.rest.takeWhile p

/-- Go past the characters that are `p`. -/
def skipWhile (p : Char → Bool) (c : Cursor) : Cursor := c.skip (c.run p).length

/-- Go past spaces. -/
def skipSpaces (c : Cursor) : Cursor := c.skipWhile (· == ' ')

/-- Go past what is left of the line. -/
def skipLine (c : Cursor) : Cursor := c.skipWhile fun x => !isBreak x

/-- The line end at the cursor, and the place behind it. -/
def break? (c : Cursor) : Option (Char × Cursor) :=
  match c.head? with
  | some x => if isBreak x then some (breakValue x, c.advance) else none
  | none => none

/-- Go past a line end, if there is one. -/
def skipBreak (c : Cursor) : Cursor := if (c.head?.map isBreak).getD false then c.advance else c

/-- Go to the place where `rest` is left. -/
def goTo (c : Cursor) (rest : List Char) : Cursor := c.skip (c.rest.length - rest.length)

/-- Go past spaces, a comment and the end of the line; nothing else may be there. -/
def skipEmptyLine? (c : Cursor) : Option Cursor :=
  let c := c.skipSpaces
  let c := if c.head? = some '#' then c.skipLine else c
  if endsLine c.head? then some c.skipBreak else none

end Cursor

end AuthKeyspace.Yaml
