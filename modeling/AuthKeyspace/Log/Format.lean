import AuthKeyspace.Decimal.Double
import AuthKeyspace.Text.Integer

/-!
# Messages with places for arguments

A percent sign in a message begins a place for an argument, and a letter ends it: `s`, `r` and `a`
for a text as it is, in quotes, and in quotes with nothing but ASCII; `d`, `i` and `u` for a number,
`o` and `x` for one in the bases eight and sixteen; `f`, `e` and `g` for one with a point, with an
exponent, or with whichever suits it; `c` for one character. Between the two there can be signs that
say how the place is filled, how wide it is, and how many characters or digits it takes. Two percent
signs are one. All arguments are needed, and there is a place for each.

Main statement: `fillPlaces_plain`, a message without a percent sign stays.
-/

namespace AuthKeyspace.Log

/-- What a message can have in its places. -/
inductive Argument
  | text (text : String)
  | number (number : Int)
deriving DecidableEq, Repr

/-- Why a message cannot take its arguments. -/
inductive FormatFault
  | incomplete
  | unsupported (letter : Char) (index : Nat)
  | tooWide
  | widthOverflow
  | tooPrecise
  | precisionOverflow
  | tooFew
  | tooMany
  | named
  | widthNotANumber
  | notANumber (letter : Char)
  | notReal
  | realOverflow
  | notACharacter
  | noSuchCharacter
  | numberTooLong (error : Text.NumberTooLong)
deriving DecidableEq, Repr

/-- What is said of a message that cannot take its arguments. -/
def FormatFault.message : FormatFault → String
  | .incomplete => "incomplete format"
  | .unsupported letter index =>
    let shown := if 0x1f ≤ letter.toNat ∧ letter.toNat ≤ 0x7e then letter else '?'
    "unsupported format character '" ++ shown.toString ++ "' (0x" ++
      String.ofList (Nat.toDigits 16 letter.toNat) ++ ") at index " ++ toString index
  | .tooWide => "width too big"
  | .widthOverflow => "Python int too large to convert to C ssize_t"
  | .tooPrecise => "precision too big"
  | .precisionOverflow => "Python int too large to convert to C int"
  | .tooFew => "not enough arguments for format string"
  | .tooMany => "not all arguments converted during string formatting"
  | .named => "format requires a mapping"
  | .widthNotANumber => "* wants int"
  | .notANumber letter =>
    let wanted := if ['d', 'i', 'u'].contains letter then "a real number" else "an integer"
    "%" ++ letter.toString ++ " format: " ++ wanted ++ " is required, not str"
  | .notReal => "must be real number, not str"
  | .realOverflow => "int too large to convert to float"
  | .notACharacter => "%c requires int or char"
  | .noSuchCharacter => "%c arg not in range(0x110000)"
  | .numberTooLong error => error.message

/-! ## Places -/

/-- How a place is filled: on which side it is padded, and with what; what stands before a number
that is not negative; whether the base of a number is told. -/
structure Place where
  flags : List Char := []
  width : Nat := 0
  precision? : Option Nat := none
deriving DecidableEq, Repr

namespace Place

/-- Fill a place with a text that has something in front, behind which zeros go if zeros are
wanted. -/
def fill (p : Place) (zeros : Bool) (front body : List Char) : List Char :=
  let missing := p.width - (front.length + body.length)
  if p.flags.contains '-' then front ++ body ++ List.replicate missing ' '
  else if zeros then front ++ List.replicate missing '0' ++ body
  else List.replicate missing ' ' ++ front ++ body

/-- Fill a place with a text, of which no more is taken than the precision says. -/
def fillText (p : Place) (cs : List Char) : List Char :=
  p.fill false [] (match p.precision? with | some n => cs.take n | none => cs)

/-- What stands before a number. -/
def sign (p : Place) (negative : Bool) : List Char :=
  if negative then ['-'] else if p.flags.contains '+' then ['+']
  else if p.flags.contains ' ' then [' '] else []

/-- Fill a place with a whole number, given the digits of its size and what tells its base. -/
def fillNumber (p : Place) (negative : Bool) (baseMark digits : List Char) : List Char :=
  let mark := if p.flags.contains '#' then baseMark else []
  let zeros := List.replicate (p.precision?.getD 0 - digits.length) '0'
  p.fill (p.flags.contains '0') (p.sign negative ++ mark) (zeros ++ digits)

end Place

/-! ## Numbers with a point -/

/-- The size of a number once it is one of 64 bits. -/
def realSize? (n : Nat) : Option Nat :=
  match Decimal.Double.ofNat n with
  | .finite _ m e => some (m * Nat.pow 2 e.toNat / Nat.pow 2 (-e).toNat)
  | _ => none

/-- Digits with a point behind the first `whole` of them; without digits behind it there is no
point, unless it is wanted. -/
def pointed (wanted : Bool) (whole fraction : List Char) : List Char :=
  if fraction.isEmpty && !wanted then whole else whole ++ '.' :: fraction

/-- A number with so many digits behind the point. -/
def fixedText (wanted : Bool) (precision n : Nat) : List Char :=
  pointed wanted (Nat.toDigits 10 n) (List.replicate precision '0')

/-- So many digits of a number, the last one rounded, and the exponent of the first. -/
def leadingDigits (count n : Nat) : List Char × Nat :=
  let digits := Nat.toDigits 10 n
  if digits.length ≤ count then
    (digits ++ List.replicate (count - digits.length) '0', digits.length - 1)
  else
    let rounded := Nat.toDigits 10 (Decimal.roundDiv n (Nat.pow 10 (digits.length - count)))
    (rounded.take count, digits.length - 1 + (rounded.length - count))

/-- Digits with an exponent of two digits at least. -/
def exponentText (wanted : Bool) (digits : List Char) (exponent : Nat) : List Char :=
  let shown := Nat.toDigits 10 exponent
  pointed wanted (digits.take 1) (digits.drop 1) ++ ['e', '+'] ++
    List.replicate (2 - shown.length) '0' ++ shown

/-- Digits without the zeros at the end, if they are not wanted. -/
def dropZeros (wanted : Bool) (digits : List Char) : List Char :=
  if wanted then digits else (digits.reverse.dropWhile (· == '0')).reverse

/-- A number with a point or with an exponent, whichever suits it. -/
def generalText (wanted : Bool) (precision n : Nat) : List Char :=
  let count := max 1 precision
  let (digits, exponent) := leadingDigits count n
  if exponent < count then
    pointed wanted (digits.take (exponent + 1)) (dropZeros wanted (digits.drop (exponent + 1)))
  else exponentText wanted (digits.take 1 ++ dropZeros wanted (digits.drop 1)) exponent

/-- A number as a letter asks for it. -/
def realText (p : Place) (letter : Char) (n : Nat) : List Char :=
  let wanted := p.flags.contains '#'
  let precision := p.precision?.getD 6
  let text :=
    match letter.toLower with
    | 'f' => fixedText wanted precision n
    | 'e' =>
      let (digits, exponent) := leadingDigits (precision + 1) n
      exponentText wanted digits exponent
    | _ => generalText wanted precision n
  if letter.isUpper then text.map Char.toUpper else text

/-- The letters for numbers with a point. -/
def realLetters : List Char := ['f', 'e', 'g', 'F', 'E', 'G']

/-! ## Arguments -/

/-- A text in quotes with nothing but ASCII. -/
def asciiQuoted (text : String) : List Char :=
  (Text.quoted text).toList.flatMap fun c =>
    let n := c.toNat
    if n ≤ 0x7f then [c]
    else if n ≤ 0xff then '\\' :: 'x' :: Text.hexDigits 2 n
    else if n ≤ 0xffff then '\\' :: 'u' :: Text.hexDigits 4 n
    else '\\' :: 'U' :: Text.hexDigits 8 n

/-- An argument as it is. -/
def Argument.shown : Argument → Except FormatFault String
  | .text s => .ok s
  | .number n => (Text.writeInteger n).mapError .numberTooLong

/-- Fill a place with the argument for a letter at an index of the message. -/
def Argument.fill (a : Argument) (p : Place) (letter : Char) (index : Nat) :
    Except FormatFault (List Char) :=
  match letter, a with
  | 's', a => do return p.fillText (← a.shown).toList
  | 'r', .text s => .ok (p.fillText (Text.quoted s).toList)
  | 'a', .text s => .ok (p.fillText (asciiQuoted s))
  | 'r', a | 'a', a => do return p.fillText (← a.shown).toList
  | 'd', .number n | 'i', .number n | 'u', .number n => do
    let digits ← (Text.writeInteger n.natAbs).mapError .numberTooLong
    return p.fillNumber (n < 0) [] digits.toList
  | 'o', .number n => .ok (p.fillNumber (n < 0) ['0', 'o'] (Nat.toDigits 8 n.natAbs))
  | 'x', .number n => .ok (p.fillNumber (n < 0) ['0', 'x'] (Nat.toDigits 16 n.natAbs))
  | 'X', .number n =>
    .ok (p.fillNumber (n < 0) ['0', 'X'] ((Nat.toDigits 16 n.natAbs).map Char.toUpper))
  | 'c', .number n =>
    if 0 ≤ n ∧ n < 0x110000 then .ok (p.fill false [] [Char.ofNat n.toNat])
    else .error .noSuchCharacter
  | 'c', .text s =>
    match s.toList with
    | [c] => .ok (p.fill false [] [c])
    | _ => .error .notACharacter
  | letter, .text _ =>
    if ['d', 'i', 'u', 'o', 'x', 'X'].contains letter then .error (.notANumber letter)
    else if realLetters.contains letter then .error .notReal
    else .error (.unsupported letter index)
  | letter, .number n =>
    if realLetters.contains letter then
      match realSize? n.natAbs with
      | some size => .ok (p.fill (p.flags.contains '0') (p.sign (n < 0)) (realText p letter size))
      | none => .error .realOverflow
    else .error (.unsupported letter index)

/-! ## Messages -/

/-- The largest width. -/
def maxWidth : Nat := 9223372036854775807

/-- The largest precision. -/
def maxPrecision : Nat := 2147483647

/-- What is left of a message and of its arguments. -/
structure Rest where
  args : List Argument
  chars : List Char

/-- The next argument, which has to be there. -/
def Rest.argument (r : Rest) : Except FormatFault (Argument × Rest) :=
  match r.args with
  | [] => .error .tooFew
  | a :: args => .ok (a, { r with args })

/-- A number in a place: digits, or a star for the next argument; the faults are for digits and for
an argument that are beyond the limit. -/
def Rest.number (limit : Nat) (ofDigits ofArgument : FormatFault) (r : Rest) :
    Except FormatFault (Int × Rest) :=
  match r.chars with
  | '*' :: chars => do
    match ← { r with chars }.argument with
    | (.number n, r) => if limit < n ∨ n < -limit - 1 then .error ofArgument else return (n, r)
    | (.text _, _) => .error .widthNotANumber
  | chars =>
    let digits := chars.takeWhile Char.isDigit
    let n := (String.ofList digits).toNat?.getD 0
    if limit < n then .error ofDigits else .ok (n, { r with chars := chars.drop digits.length })

/-- The place behind a percent sign, up to its letter. -/
def Rest.place (r : Rest) : Except FormatFault (Place × Rest) := do
  if r.chars.head? = some '(' then .error .named
  let flags := r.chars.takeWhile ['-', '+', ' ', '#', '0'].contains
  let behind : Rest := { r with chars := r.chars.drop flags.length }
  let (width, r) ← behind.number maxWidth .tooWide .widthOverflow
  let p : Place := { flags := if width < 0 then '-' :: flags else flags, width := width.natAbs }
  let (p, r) ←
    match r.chars with
    | '.' :: chars => do
      let (n, r) ← { r with chars }.number maxPrecision .tooPrecise .precisionOverflow
      pure ({ p with precision? := some n.toNat }, r)
    | _ => pure (p, r)
  match r.chars with
  | 'h' :: chars | 'l' :: chars | 'L' :: chars => return (p, { r with chars })
  | _ => return (p, r)

/-- Fill the places of what is left of a message of some length. -/
def fillPlaces (length : Nat) : Nat → Rest → Except FormatFault (List Char)
  | 0, _ => .error .incomplete
  | fuel + 1, r =>
    match r.chars with
    | [] => if r.args.isEmpty then .ok [] else .error .tooMany
    | '%' :: '%' :: chars => do return '%' :: (← fillPlaces length fuel { r with chars })
    | '%' :: chars => do
      let (p, r) ← { r with chars }.place
      match r.chars with
      | [] => .error .incomplete
      | letter :: chars => do
        let (a, r) ← { r with chars }.argument
        let filled ← a.fill p letter (length - (chars.length + 1))
        return filled ++ (← fillPlaces length fuel r)
    | c :: chars => do return c :: (← fillPlaces length fuel { r with chars })

/-- A message with its arguments; without arguments nothing in it is special. -/
def substitute (message : String) (args : List Argument) : Except FormatFault String :=
  let cs := message.toList
  if args.isEmpty then .ok message
  else String.ofList <$> fillPlaces cs.length (cs.length + 1) ⟨args, cs⟩

theorem fillPlaces_plain {length fuel : Nat} {cs : List Char} (h : '%' ∉ cs)
    (hf : cs.length < fuel) : fillPlaces length fuel ⟨[], cs⟩ = .ok cs := by
  induction cs generalizing fuel with
  | nil =>
    cases fuel with
    | zero => simp at hf
    | succ fuel => rfl
  | cons c rest ih =>
    cases fuel with
    | zero => simp at hf
    | succ fuel =>
      simp only [List.mem_cons, not_or] at h
      have hr : fillPlaces length fuel ⟨[], rest⟩ = .ok rest :=
        ih h.2 (by simp only [List.length_cons] at hf; omega)
      have hc : c ≠ '%' := fun e => h.1 e.symm
      simp [fillPlaces, hc, hr, bind, Except.bind, pure, Except.pure]

end AuthKeyspace.Log
