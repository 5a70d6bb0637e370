import AuthKeyspace.Yaml.Cursor

/-!
# Texts in indented lines

A bar or an angle begins a text that is written in the indented lines below. Behind the bar every
line end counts; behind the angle a single line end between two lines that begin with no blank
counts as a space. The indentation is the one of the first line that is not empty, or is given by a
digit; a sign says whether the line ends behind the last line are all kept or all dropped.
-/

namespace AuthKeyspace.Yaml

/-- What happens to the line ends behind the last line: one is kept, none or all. -/
inductive Chomping
  | clip
  | strip
  | keep
deriving DecidableEq, Repr

/-- The chomping that a sign asks for. -/
def chomping? : Char → Option Chomping
  | '+' => some .keep
  | '-' => some .strip
  | _ => none

/-- The indentation that a digit gives; zero is none. -/
def indentation? (c : Char) : Option Nat :=
  if '1' ≤ c ∧ c ≤ '9' then some (c.toNat - 48) else none

/-- Read sign and digit, in either order; the digit zero may not stand in their place. -/
def blockIndicators? : List Char → Option (Chomping × Option Nat × Nat)
  | [] => some (.clip, none, 0)
  | c :: rest =>
    match chomping? c, indentation? c with
    | some chomping, _ =>
      match rest.head? with
      | none => some (chomping, none, 1)
      | some d =>
        if d = '0' then none
        else if (indentation? d).isSome then some (chomping, indentation? d, 2)
        else some (chomping, none, 1)
    | none, some n =>
      match rest.head?.bind chomping? with
      | some chomping => some (chomping, some n, 2)
      | none => some (.clip, some n, 1)
    | none, none => if c = '0' then none else some (.clip, none, 0)

/-- The header behind a bar or an angle, and the place where the next line begins. -/
def blockHeader? (c : Cursor) : Option (Chomping × Option Nat × Cursor) := do
  let (chomping, indent?, length) ← blockIndicators? c.rest
  let c := c.skip length
  if endsName c.head? then
    let c ← c.skipEmptyLine?
    return (chomping, indent?, c)
  else none

/-- The line ends before the first line with a text, the widest indentation on the way, and the
place of the text. -/
def blockStart : Nat → Nat → Cursor → List Char × Nat × Cursor
  | 0, widest, c => ([], widest, c)
  | fuel + 1, widest, c =>
    let c := c.skipSpaces
    let widest := max widest c.column
    match c.break? with
    | some (b, next) =>
      let (breaks, widest, c) := blockStart fuel widest next
      (b :: breaks, widest, c)
    | none => ([], widest, c)

/-- Line ends of lines with nothing but indentation, and the place of the next text. -/
def blockBreaks (indent : Nat) : Nat → Cursor → List Char × Cursor
  | 0, c => ([], c)
  | fuel + 1, c =>
    let c := c.skip (min (indent - c.column) (c.run (· == ' ')).length)
    match c.break? with
    | some (b, next) =>
      let (breaks, c) := blockBreaks indent fuel next
      (b :: breaks, c)
    | none => ([], c)

/-- The lines of a text, the end of the last line, the line ends behind it, and the place behind
those. -/
structure BlockLines where
  chars : List Char
  lastBreak : List Char
  breaks : List Char
  cursor : Cursor

/-- Does a line begin with a blank here? -/
def beginsBlank (c : Cursor) : Bool := (c.head?.map isBlank).getD false

/-- Read lines with the given indentation, `breaks` being the line ends before them. -/
def blockLines (folded : Bool) (indent : Nat) : Nat → List Char → Cursor → BlockLines
  | 0, breaks, c => ⟨[], [], breaks, c⟩
  | fuel + 1, breaks, c =>
    if c.column = indent ∧ c.head?.isSome then
      let line := c.run fun x => !isBreak x
      let behind := c.skipLine
      let (lineBreak, next) := match behind.break? with
        | some (b, next) => ([b], next)
        | none => ([], behind)
      let (more, next) := blockBreaks indent c.rest.length next
      if next.column = indent ∧ next.head?.isSome then
        -- Lines are joined with a space only if neither begins with a blank and none is left empty.
        let joint :=
          if folded && lineBreak = ['\n'] && !beginsBlank c && !beginsBlank next then
            if more.isEmpty then [' '] else []
          else lineBreak
        let lines := blockLines folded indent fuel more next
        { lines with chars := breaks ++ line ++ joint ++ lines.chars }
      else ⟨breaks ++ line, lineBreak, more, next⟩
    else ⟨[], [], breaks, c⟩

/-- The text whose bar or angle is at the cursor, and the place behind it. Its lines are indented by
more than the columns left of `least`. -/
def blockText? (folded : Bool) (least : Nat) (c : Cursor) : Option (List Char × Cursor) := do
  let (chomping, indent?, c) ← blockHeader? c.advance
  let least := max 1 least
  let size := c.rest.length
  let (breaks, indent, c) := match indent? with
    | some n =>
      let indent := least + n - 1
      let (breaks, c) := blockBreaks indent size c
      (breaks, indent, c)
    | none =>
      let (breaks, widest, c) := blockStart (size + 1) 0 c
      (breaks, max least widest, c)
  let lines := blockLines folded indent (size + 1) breaks c
  let tail := match chomping with
    | .strip => []
    | .clip => lines.lastBreak
    | .keep => lines.lastBreak ++ lines.breaks
  return (lines.chars ++ tail, lines.cursor)

end AuthKeyspace.Yaml
