import AuthKeyspace.Cql.Identifier

/-!
# Tokens of a statement

A statement is made of words, names in double quotes and seven symbols, with white space between
them where one likes. Tokens are kept with the offset at which they stand, so that a fault found
later can be pointed at.

A quoted name ends at the first quote that is not doubled. If there is none, the name ends at the
last pair of quotes, of which only the first is read: the second then opens a name of its own, which
cannot end either, so such a text is refused all the same, at that second quote.

`tokenize` reads a text; `Token.text` gives back what was read. A fault can also be seen where no
token is left, so `items` has the end of the text as one more item behind the tokens. Main
statement: `scan_skip`, skipping is dropping.
-/

namespace AuthKeyspace.Cql

open AuthKeyspace.Text

/-! ## What a token is -/

/-- The characters that are tokens by themselves. -/
inductive Symbol
  | openParen | closeParen | comma | dot | semicolon | openAngle | closeAngle
deriving DecidableEq, Repr

namespace Symbol

/-- The character of a symbol. -/
def char : Symbol → Char
  | .openParen => '(' | .closeParen => ')' | .comma => ',' | .dot => '.' | .semicolon => ';'
  | .openAngle => '<' | .closeAngle => '>'

/-- The symbol that a character is. -/
def ofChar? : Char → Option Symbol
  | '(' => some .openParen
  | ')' => some .closeParen
  | ',' => some .comma
  | '.' => some .dot
  | ';' => some .semicolon
  | '<' => some .openAngle
  | '>' => some .closeAngle
  | _ => none

theorem ofChar?_char (s : Symbol) : ofChar? s.char = some s := by
  cases s <;> rfl

theorem ofChar?_eq_some_iff {c : Char} {s : Symbol} : ofChar? c = some s ↔ c = s.char := by
  constructor
  · intro h
    unfold ofChar? at h
    split at h <;> first | (cases h; rfl) | cases h
  · rintro rfl
    exact ofChar?_char s

end Symbol

/-- What a token says. A quoted name is kept without its quotes and with single quotes inside. -/
inductive Lexeme
  | word (letters : List Char)
  | quoted (name : List Char)
  | symbol (symbol : Symbol)
deriving DecidableEq, Repr

/-- The characters a lexeme is written with. -/
def Lexeme.text : Lexeme → List Char
  | .word cs => cs
  | .quoted cs => '"' :: double '"' cs ++ ['"']
  | .symbol s => [s.char]

/-- A lexeme and the offset of its first character. -/
structure Token where
  lexeme : Lexeme
  position : Nat
deriving DecidableEq, Repr

/-- The characters a token is written with. -/
def Token.text (t : Token) : List Char := t.lexeme.text

namespace Lexeme

/-- Is it the unquoted word `keyword`, in whatever case? `keyword` is given in capitals. -/
def isKeyword (keyword : String) : Lexeme → Bool
  | .word cs => cs.map Char.toUpper == keyword.toList
  | _ => false

/-- Is it the symbol `s`? -/
def isSymbol (s : Symbol) : Lexeme → Bool
  | .symbol s' => s' == s
  | _ => false

/-- The name it stands for: a word in lower case, a quoted name as it is. -/
def name? : Lexeme → Option String
  | .word cs => some (String.ofList (foldCase cs))
  | .quoted cs => some (String.ofList cs)
  | .symbol _ => none

end Lexeme

/-! ## Reading tokens -/

/-- Read a quoted name after its first quote: the name, and how many characters it takes with its
last quote. A pair of quotes is a quote inside the name, unless no quote would be left to end it. -/
def quotedName? : List Char → Option (List Char × Nat)
  | [] => none
  | '"' :: '"' :: rest =>
    match quotedName? rest with
    | some (name, n) => some ('"' :: name, n + 2)
    | none => some ([], 1)
  | '"' :: _ => some ([], 1)
  | c :: rest => (quotedName? rest).map fun (name, n) => (c :: name, n + 1)

/-- The lexeme that starts at `c`, and how many more characters it takes. -/
def lexemeAt? (c : Char) (rest : List Char) : Option (Lexeme × Nat) :=
  if c = '"' then (quotedName? rest).map fun (name, n) => (.quoted name, n)
  else if isWordStart c then
    let more := rest.takeWhile isWordRest
    some (.word (c :: more), more.length)
  else (Symbol.ofChar? c).map fun s => (.symbol s, 0)

/-- A character that starts no token, and its offset. -/
structure Unexpected where
  char : Char
  position : Nat
deriving DecidableEq, Repr

/-- Read the tokens of what is left of a text: `position` is its offset, and its first `skip`
characters belong to a token that was read before. -/
def scan : Nat → Nat → List Char → Except Unexpected (List Token)
  | _, _, [] => .ok []
  | position, skip + 1, _ :: rest => scan (position + 1) skip rest
  | position, 0, c :: rest =>
    if isBlank c then scan (position + 1) 0 rest
    else
      match lexemeAt? c rest with
      | none => .error ⟨c, position⟩
      | some (lexeme, more) => (scan (position + 1) more rest).map (⟨lexeme, position⟩ :: ·)

/-- The tokens of a text. -/
def tokenize (text : List Char) : Except Unexpected (List Token) := scan 0 0 text

/-! ## The end of a text -/

/-- What stands at a place of a text: a token or, behind the last one, the end. -/
inductive Item
  | token (token : Token)
  | textEnd (position : Nat)
deriving DecidableEq, Repr

/-- The offset of an item. -/
def Item.position : Item → Nat
  | .token t => t.position
  | .textEnd position => position

/-- The tokens of a text and its end. -/
def items (text : List Char) : Except Unexpected (List Item) :=
  (tokenize text).map fun tokens => tokens.map .token ++ [.textEnd text.length]

theorem scan_skip (position skip : Nat) (cs : List Char) (h : skip ≤ cs.length) :
    scan position skip cs = scan (position + skip) 0 (cs.drop skip) := by
  induction skip generalizing position cs with
  | zero => simp
  | succ skip ih =>
    cases cs with
    | nil => simp at h
    | cons c cs =>
      rw [scan, ih (position + 1) cs (by simpa using h), List.drop_succ_cons]
      congr 1
      omega

end AuthKeyspace.Cql
