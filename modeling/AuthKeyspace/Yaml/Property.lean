import AuthKeyspace.Text.Utf8
import AuthKeyspace.Yaml.Cursor
import AuthKeyspace.Yaml.Fault
import AuthKeyspace.Yaml.Token

/-!
# Anchors, tags and directives

An anchor gives a name to what follows, and an alias stands for it. A tag says of what kind
something is: in full between angle brackets, or with a handle, which directives can make an
abbreviation. A directive stands on a line of its own before a document.
-/

namespace AuthKeyspace.Yaml

/-! ## Anchors -/

/-- May this stand behind the name of an anchor? -/
def endsAnchor (c? : Option Char) : Bool :=
  endsWord c? || (c?.map ['?', ':', ',', ']', '\x7d', '%', '@', '\x60'].contains).getD false

/-- The name of the anchor or the alias whose mark is at the cursor, and the place behind it. -/
def anchorName? (c : Cursor) : Option (String × Cursor) :=
  let c := c.advance
  let name := c.run isNameChar
  let behind := c.skip name.length
  if name.isEmpty || !endsAnchor behind.head? then none else some (String.ofList name, behind)

/-! ## Tags -/

/-- Can a tag have `c` as it is? -/
def isTagChar (c : Char) : Bool := c.isAlphanum || "-;/?:@&=+$,_.!~*'()[]".toList.contains c

/-- The value of a hexadecimal digit. -/
def hexValue? (c : Char) : Option Nat := if isHexDigit c then Text.digitIn? 16 c else none

/-- The bytes of percent signs with two hexadecimal digits each, and what is left. -/
def escapedBytes? : List Char → Option (List UInt8 × List Char)
  | '%' :: a :: b :: rest => do
    let high ← hexValue? a
    let low ← hexValue? b
    let (bytes, left) ← escapedBytes? rest
    return (UInt8.ofNat (16 * high + low) :: bytes, left)
  | '%' :: _ => none
  | rest => some ([], rest)

/-- The characters of a tag, and what is left. -/
def tagChars? : Nat → List Char → Option (List Char × List Char)
  | 0, cs => some ([], cs)
  | _, [] => some ([], [])
  | fuel + 1, c :: rest =>
    if c = '%' then do
      let (bytes, left) ← escapedBytes? (c :: rest)
      let run := Text.Utf8.decodeRun bytes
      if run.left.isEmpty then
        let (more, left) ← tagChars? fuel left
        return (run.chars ++ more, left)
      else none
    else if isTagChar c then do
      let (more, left) ← tagChars? fuel rest
      return (c :: more, left)
    else some ([], c :: rest)

/-- The part of a tag that is at the cursor, which cannot be empty, and the place behind it. -/
def tagPart? (c : Cursor) : Option (String × Cursor) := do
  let (chars, left) ← tagChars? c.rest.length c.rest
  if chars.isEmpty then none else return (String.ofList chars, c.goTo left)

/-- The handle at the cursor and the place behind it: an exclamation mark, or two with a name
between them, which can be empty. -/
def tagHandle? (c : Cursor) : Option (String × Cursor) :=
  match c.rest with
  | '!' :: ' ' :: _ => some ("!", c.skip 1)
  | '!' :: rest =>
    let name := rest.takeWhile isNameChar
    if rest[name.length]? = some '!' then
      some (String.ofList ('!' :: name ++ ['!']), c.skip (name.length + 2))
    else none
  | _ => none

/-- The tag at the cursor, and the place behind it. -/
def tag? (c : Cursor) : Option (Token × Cursor) := do
  let (token, c) ←
    if c.second? = some '<' then do
      let (suffix, c) ← tagPart? (c.skip 2)
      if c.head? = some '>' then some (Token.tag none suffix, c.advance) else none
    else if endsWord c.second? then some (Token.tag none "!", c.advance)
    else do
      let word := (c.rest.drop 1).takeWhile fun x => !endsName (some x)
      let (handle, c) ← if word.contains '!' then tagHandle? c else some ("!", c.advance)
      let (suffix, c) ← tagPart? c
      some (Token.tag (some handle) suffix, c)
  if endsName c.head? then return (token, c) else none

/-! ## Directives -/

/-- The number at the cursor, and the place behind it. -/
def number (c : Cursor) : Except Fault (Nat × Cursor) :=
  let digits := c.run Char.isDigit
  if digits.isEmpty then .error .malformed
  else
    match Text.readIntegerIn 10 (Text.pointsOf digits) with
    | .ok n => .ok (n.toNat, c.skip digits.length)
    | .error fault => .error (.integer fault)

/-- The version a document asks for. -/
def versionDirective (c : Cursor) : Except Fault (Directive × Cursor) := do
  let (major, c) ← number c.skipSpaces
  if c.head? = some '.' then
    let (minor, c) ← number c.advance
    if endsName c.head? then return (.version major minor, c) else .error .malformed
  else .error .malformed

/-- An abbreviation for tags. -/
def handleDirective? (c : Cursor) : Option (Directive × Cursor) := do
  let (handle, c) ← tagHandle? c.skipSpaces
  if c.head? = some ' ' then
    let (expansion, c) ← tagPart? c.skipSpaces
    if endsName c.head? then return (.tagHandle handle expansion, c) else none
  else none

/-- The directive whose percent sign is at the cursor, and the place of the next line. -/
def directive (c : Cursor) : Except Fault (Directive × Cursor) := do
  let c := c.advance
  let name := c.run isNameChar
  let c := c.skip name.length
  if name.isEmpty || !endsName c.head? then .error .malformed
  else
    let (directive, c) ←
      match String.ofList name with
      | "YAML" => versionDirective c
      | "TAG" => orMalformed (handleDirective? c)
      | other => .ok (.unknown other, c.skipLine)
    return (directive, ← orMalformed c.skipEmptyLine?)

end AuthKeyspace.Yaml
