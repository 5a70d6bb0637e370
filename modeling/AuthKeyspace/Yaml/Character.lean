/-!
# Characters of a document

A document holds printable characters and a few controls. A line ends with a line feed, the
next-line control, which counts as a line feed, or the line or paragraph separator of Unicode.
-/

namespace AuthKeyspace.Yaml

/-- Can `c` stand in a document? -/
def isAllowed (c : Char) : Bool :=
  let n := c.toNat
  n == 0x09 || n == 0x0a || n == 0x0d || (0x20 ≤ n && n ≤ 0x7e) || n == 0x85 ||
    (0xa0 ≤ n && n ≤ 0xd7ff) || (0xe000 ≤ n && n ≤ 0xfffd) || 0x10000 ≤ n

/-- The mark that a text may begin with; it has no width. -/
def byteOrderMark : Char := '\ufeff'

/-- Does `c` end a line? -/
def isBreak (c : Char) : Bool := c = '\n' || c = '\x85' || c = '\u2028' || c = '\u2029'

/-- The line end as it counts in a text. -/
def breakValue (c : Char) : Char := if c = '\x85' then '\n' else c

/-- Is `c` a space or a tabulator? -/
def isBlank (c : Char) : Bool := c = ' ' || c = '\t'

/-- Does a line end here? -/
def endsLine : Option Char → Bool
  | none => true
  | some c => isBreak c

/-- Does a word end here? -/
def endsWord : Option Char → Bool
  | none => true
  | some c => isBlank c || isBreak c

/-- Does a word end here, where a tabulator does not end it? -/
def endsName : Option Char → Bool
  | none => true
  | some c => c = ' ' || isBreak c

/-- Is `c` one of the characters that end a plain text inside brackets? -/
def isFlowIndicator (c : Char) : Bool := [',', '[', ']', '\x7b', '\x7d'].contains c

/-- Can the name of an anchor, a directive or a tag handle have `c`? -/
def isNameChar (c : Char) : Bool := c.isAlphanum || c = '-' || c = '_'

/-- Is `c` a hexadecimal digit? -/
def isHexDigit (c : Char) : Bool :=
  c.isDigit || ('a' ≤ c && c ≤ 'f') || ('A' ≤ c && c ≤ 'F')

/-- Does a line that begins so separate documents? Three hyphens or dots do, before the end of a
word. -/
def isSeparator : List Char → Bool
  | '-' :: '-' :: '-' :: rest => endsWord rest.head?
  | '.' :: '.' :: '.' :: rest => endsWord rest.head?
  | _ => false

end AuthKeyspace.Yaml
