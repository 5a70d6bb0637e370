import AuthKeyspace.Text.Character
import AuthKeyspace.Text.Point

/-!
# Texts between quotes

A message shows a name or another piece of text in quotes, so that its ends are visible, and shows
by code what could not be read. The quotes are single, unless that would need a backslash where
double quotes need none: the text holds a single quote and no double one. Inside, the chosen quote
and the backslash get a backslash, tabulator and line ends their letters, and every other
unprintable character its code in the fewest of two, four or eight hexadecimal digits.

A statement has another rule: the quote is written twice and everything else once. Quoted names use
it with the double quote, literals with the single quote.

Main statements: `quote_mem` (a message puts a text between single or double quotes),
`double_append` and `double_eq_self_of_not_mem` (only the quote changes a text).
-/

namespace AuthKeyspace.Text

/-! ## In messages -/

/-- The last `width` hexadecimal digits of `n`, in lower case. -/
def hexDigits : Nat → Nat → List Char
  | 0, _ => []
  | width + 1, n => hexDigits width (n / 16) ++ [Nat.digitChar (n % 16)]

/-- How one character is shown between quotes of the kind `quote`. -/
def shown (quote c : Char) : List Char :=
  if c = quote || c = '\\' then ['\\', c]
  else if c = '\t' then ['\\', 't']
  else if c = '\n' then ['\\', 'n']
  else if c = '\r' then ['\\', 'r']
  else if isPrintable c then [c]
  else if c.toNat ≤ 0xff then '\\' :: 'x' :: hexDigits 2 c.toNat
  else if c.toNat ≤ 0xffff then '\\' :: 'u' :: hexDigits 4 c.toNat
  else '\\' :: 'U' :: hexDigits 8 c.toNat

/-- How one code point is shown; half of a surrogate pair is never printable. -/
def shownPoint (quote : Char) : Point → List Char
  | .char c => shown quote c
  | .half n => '\\' :: 'u' :: hexDigits 4 (0xd800 + n.val)

/-- The quotes that suit a text. -/
def quoteFor (ps : List Point) : Char :=
  if ps.contains (.char '\'') && !ps.contains (.char '"') then '"' else '\''

/-- Code points in quotes. -/
def quotedPoints (ps : List Point) : String :=
  let quote := quoteFor ps
  String.ofList (quote :: ps.flatMap (shownPoint quote) ++ [quote])

/-- A text in quotes. -/
def quoted (text : String) : String := quotedPoints (points text)

/-- A list of items between brackets. -/
def bracketed (items : List String) : String :=
  "[" ++ ", ".intercalate items ++ "]"

/-- A list of texts, each in quotes. -/
def quotedList (texts : List String) : String :=
  bracketed (texts.map quoted)

theorem quote_mem (ps : List Point) : quoteFor ps = '\'' ∨ quoteFor ps = '"' := by
  unfold quoteFor
  split <;> simp

/-! ## In statements -/

/-- Write every `q` twice. -/
def double (q : Char) : List Char → List Char
  | [] => []
  | c :: rest => if c = q then q :: q :: double q rest else c :: double q rest

theorem double_append (q : Char) (cs ds : List Char) :
    double q (cs ++ ds) = double q cs ++ double q ds := by
  induction cs with
  | nil => rfl
  | cons c cs ih => by_cases h : c = q <;> simp [double, h, ih]

theorem double_eq_self_of_not_mem {q : Char} {cs : List Char} (h : q ∉ cs) : double q cs = cs := by
  induction cs with
  | nil => rfl
  | cons c cs ih =>
    simp only [List.mem_cons, not_or] at h
    have : c ≠ q := fun e => h.1 e.symm
    simp [double, this, ih h.2]

end AuthKeyspace.Text
