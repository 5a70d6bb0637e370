import AuthKeyspace.Text.Point
import AuthKeyspace.Text.Split
import AuthKeyspace.Yaml.TimeForm

/-!
# Kinds of values

A tag says of what kind a part of a document is. A plain text without a tag gets the one that its
form asks for: some words are truth values or nothing, numbers have several forms, also with colons
between digits in base sixty, there are dates with and without a clock, a mark that begins a
property of a node has a kind which no value is of, and everything that has no other form is a text.
A line end behind a form does not count.
-/

namespace AuthKeyspace.Yaml

/-- The kinds of values. -/
inductive Tag
  | null
  | truth
  | integer
  | float
  | timestamp
  | text
  | binary
  | sequence
  | orderedMap
  | pairs
  | mapping
  | set
  | merge
  | value
  | other (name : String)
deriving DecidableEq, Repr

namespace Tag

/-- What the names of the kinds begin with. -/
def family : String := "tag:yaml.org,2002:"

/-- The kind with a full name. -/
def ofName (name : String) : Tag :=
  let known := [("null", null), ("bool", truth), ("int", integer), ("float", float),
    ("timestamp", timestamp), ("str", text), ("binary", binary), ("seq", sequence),
    ("omap", orderedMap), ("pairs", pairs), ("map", mapping), ("set", set), ("merge", merge),
    ("value", value)]
  match known.find? fun k => family ++ k.1 == name with
  | some k => k.2
  | none => .other name

/-! ## Forms of numbers -/

/-- Is `c` a digit or an underscore? -/
def isDigitOrGap (c : Char) : Bool := c.isDigit || c = '_'

/-- A text without its sign. -/
def dropSign : List Char → List Char
  | '+' :: rest | '-' :: rest => rest
  | cs => cs

/-- Is this a digit, followed by digits and underscores? -/
def isNumeral : List Char → Bool
  | [] => false
  | c :: rest => c.isDigit && rest.all isDigitOrGap

/-- Is this a part of a number in base sixty: one digit, or two up to 59? -/
def isSixtieth : List Char → Bool
  | [c] => c.isDigit
  | [c, d] => '0' ≤ c && c ≤ '5' && d.isDigit
  | _ => false

/-- Is this a number in base sixty, with one colon at least? -/
def isSexagesimal (cs : List Char) : Bool :=
  match Text.splitOn ':' cs with
  | first :: second :: more => isNumeral first && (second :: more).all isSixtieth
  | _ => false

/-- Has the text the form of a whole number? -/
def isInteger (cs : List Char) : Bool :=
  match dropSign cs with
  | ['0'] => true
  | '0' :: 'b' :: c :: rest => (c :: rest).all fun x => x = '0' || x = '1' || x = '_'
  | '0' :: 'x' :: c :: rest => (c :: rest).all fun x => isHexDigit x || x = '_'
  | '0' :: c :: rest => (c :: rest).all fun x => ('0' ≤ x && x ≤ '7') || x = '_'
  | cs => cs.head? != some '0' && (isNumeral cs || isSexagesimal cs)

/-- Is this an exponent with a sign, or nothing? -/
def isExponent : List Char → Bool
  | [] => true
  | e :: sign :: d :: rest =>
    (e = 'e' || e = 'E') && (sign = '+' || sign = '-') && (d :: rest).all Char.isDigit
  | _ => false

/-- Has the text the form of a number with a point? One that begins with the point has no sign. -/
def isFloat (cs : List Char) : Bool :=
  let size := dropSign cs
  let before := size.takeWhile (· != '.')
  match size.drop before.length with
  | '.' :: behind =>
    let word := String.ofList behind
    let fraction := behind.takeWhile isDigitOrGap
    let left := behind.drop fraction.length
    if before.isEmpty then
      word ∈ ["inf", "Inf", "INF"] ||
        (size == cs && (word ∈ ["nan", "NaN", "NAN"] || (isNumeral fraction && isExponent left)))
    else (isNumeral before && isExponent left) || (isSexagesimal before && left.isEmpty)
  | _ => false

/-! ## Forms of times -/

/-- Is this a date with four, two and two digits? -/
def isDate : List Char → Bool
  | [y₁, y₂, y₃, y₄, '-', m₁, m₂, '-', d₁, d₂] => [y₁, y₂, y₃, y₄, m₁, m₂, d₁, d₂].all Char.isDigit
  | _ => false

/-- Is this a time with a clock? -/
def hasClock (cs : List Char) : Bool :=
  ((TimeForm.ofChars? cs).bind (·.clock?)).isSome

/-! ## Words -/

/-- The words for truth values in lower case, with their values. -/
def truthWords : List (String × Bool) :=
  [("yes", true), ("no", false), ("true", true), ("false", false), ("on", true), ("off", false)]

/-- Is the text a word in lower case, in upper case, or with one capital? -/
def isSpelling (word text : String) : Bool :=
  text == word || text == word.map Char.toUpper || text == word.capitalize

/-- The kind that characters have by their form. -/
def ofChars (cs : List Char) : Tag :=
  let s := String.ofList cs
  if truthWords.any fun w => isSpelling w.1 s then .truth
  else if isFloat cs then .float
  else if isInteger cs then .integer
  else if s = "<<" then .merge
  else if s = "" ∨ s = "~" ∨ isSpelling "null" s then .null
  else if isDate cs || hasClock cs then .timestamp
  else if s = "=" then .value
  else if s = "!" ∨ s = "&" ∨ s = "*" then .other (family ++ "yaml")
  else .text

/-- Characters without the line end behind them. -/
def dropLineEnd (cs : List Char) : List Char :=
  if 1 < cs.length && cs.getLast? == some '\n' then cs.dropLast else cs

/-- The kind that a text has by its form. -/
def ofForm (text : List Text.Point) : Tag :=
  match Text.chars? text with
  | some cs => ofChars (dropLineEnd cs)
  | none => .text

end Tag

end AuthKeyspace.Yaml
