import AuthKeyspace.Yaml.Cursor
import AuthKeyspace.Yaml.Quoted

/-!
# Texts without quotes

A plain text goes on to a colon that ends a word, a comment, or the end of its line; inside brackets
the brackets and commas end it as well. Lines that are indented further than what surrounds the text
go on with it, and their line ends count as they do in quotes.

Main statement: `plainRun_isPrefix`, a run is the beginning of what is there.
-/

namespace AuthKeyspace.Yaml

/-- Does `c`, with `next?` behind it, end a run of plain text? -/
def endsPlain (inFlow : Bool) (c : Char) (next? : Option Char) : Bool :=
  isBlank c || isBreak c || (inFlow && (c = '?' || isFlowIndicator c)) ||
    (c = ':' && (endsWord next? || (inFlow && (next?.map isFlowIndicator).getD false)))

/-- The longest run of plain text without blanks. -/
def plainRun (inFlow : Bool) : List Char → List Char
  | [] => []
  | c :: rest => if endsPlain inFlow c rest.head? then [] else c :: plainRun inFlow rest

/-- Line ends behind a first one, without the spaces before and between them, and what is left.
There are none to tell where a line separates documents. -/
def plainBreaks (atStart : Bool) : List Char → Option (List Char) × List Char
  | [] => (some [], [])
  | c :: rest =>
    if atStart && isSeparator (c :: rest) then (none, c :: rest)
    else if c = ' ' then plainBreaks false rest
    else if isBreak c then
      let (breaks?, left) := plainBreaks true rest
      (breaks?.map (breakValue c :: ·), left)
    else (some [], c :: rest)

/-- What stands behind a run of plain text: what it counts as, where it ends, and whether a line
ended in it. -/
structure Gap where
  value : List Char
  cursor : Cursor
  brokeLine : Bool

/-- The gap at a cursor. -/
def gap (c : Cursor) : Gap :=
  let behind := c.skipSpaces
  match behind.break? with
  | none => ⟨c.run (· == ' '), behind, false⟩
  | some (first, next) =>
    let (breaks?, left) := plainBreaks true next.rest
    ⟨(breaks?.map (foldValue first)).getD [], next.goTo left, true⟩

/-- A text without quotes, the place behind it, and whether a line ended between the two. -/
structure PlainText where
  chars : List Char
  cursor : Cursor
  brokeLine : Bool

/-- Read on with a plain text, `before` being what the gap before counts as. -/
def plainFrom (inFlow : Bool) (indent : Nat) : Nat → List Char → Bool → Cursor → PlainText
  | 0, _, brokeLine, c => ⟨[], c, brokeLine⟩
  | fuel + 1, before, brokeLine, c =>
    let run := plainRun inFlow c.rest
    if c.head? = some '#' ∨ run = [] then ⟨[], c, brokeLine⟩
    else
      let g := gap (c.skip run.length)
      let ends := g.value.isEmpty || g.cursor.head? = some '#' ||
        (!inFlow && decide (g.cursor.column < indent))
      let more :=
        if ends then ⟨[], g.cursor, g.brokeLine⟩
        else plainFrom inFlow indent fuel g.value g.brokeLine g.cursor
      { more with chars := before ++ run ++ more.chars }

/-- The plain text at a cursor; its lines are indented by at least `indent`. -/
def plainText (inFlow : Bool) (indent : Nat) (c : Cursor) : PlainText :=
  plainFrom inFlow indent c.rest.length [] false c

theorem plainRun_isPrefix (inFlow : Bool) (cs : List Char) : plainRun inFlow cs <+: cs := by
  induction cs with
  | nil => exact List.nil_prefix
  | cons c rest ih =>
    simp only [plainRun]
    split
    · exact List.nil_prefix
    · exact List.cons_prefix_cons.2 ⟨rfl, ih⟩

end AuthKeyspace.Yaml
