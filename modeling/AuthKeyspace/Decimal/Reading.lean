import AuthKeyspace.Decimal.Double
import AuthKeyspace.Text.Integer

/-!
# Reading decimal numbers

A decimal number has digits, perhaps a point among them, and perhaps an exponent; or it is one of
the words for infinity and for what is no number. It is read as the nearest binary number. An
exponent can be far too large to be computed with, so numbers that are certain to be infinite or
zero are set apart by the place of their first digit.
-/

namespace AuthKeyspace.Decimal

/-- The number `digits` times ten to the `exponent`. -/
def Double.ofDecimal (negative : Bool) (digits : Nat) (exponent : Int) : Double :=
  let size := ((Nat.toDigits 10 digits).length : Int) + exponent
  if digits = 0 ∨ size < -400 then .zero negative
  else if 400 < size then .infinite negative
  else .ofRatio negative (digits * Nat.pow 10 exponent.toNat) (Nat.pow 10 (-exponent).toNat)

/-- The longest run of decimal digits at the start: their values, and what comes behind. -/
def splitDigits : List Char → List Nat × List Char
  | [] => ([], [])
  | c :: rest =>
    match Text.digitValue? c with
    | none => ([], c :: rest)
    | some d => (d :: (splitDigits rest).1, (splitDigits rest).2)

/-- The number that a list of digits shows. -/
def numberOf (digits : List Nat) : Nat := digits.foldl (fun n d => 10 * n + d) 0

/-- The exponent at the end of a number; without one it is zero. -/
def exponent? : List Char → Option Int
  | [] => some 0
  | 'e' :: rest | 'E' :: rest =>
    let (negative, rest) := match rest with
      | '-' :: rest => (true, rest)
      | '+' :: rest => (false, rest)
      | rest => (false, rest)
    match splitDigits rest with
    | ([], _) => none
    | (digits, []) => some (if negative then -(numberOf digits : Int) else numberOf digits)
    | _ => none
  | _ => none

/-- Read a number without a sign. -/
def unsigned? (negative : Bool) (cs : List Char) : Option Double :=
  let word := String.ofList (cs.map Char.toLower)
  if word = "inf" ∨ word = "infinity" then some (.infinite negative)
  else if word = "nan" then some .notANumber
  else
    let (whole, rest) := splitDigits cs
    let (behind, rest) := match rest with
      | '.' :: rest => splitDigits rest
      | rest => ([], rest)
    if whole.isEmpty && behind.isEmpty then none
    else (exponent? rest).map fun e =>
      .ofDecimal negative (numberOf (whole ++ behind)) (e - behind.length)

/-- Read a number that may stand between spaces and carry a sign. -/
def Double.ofChars? (cs : List Char) : Option Double :=
  let (negative, size) := Text.splitSign (Text.trimMargins cs)
  unsigned? negative size

/-- Read a number in a text. -/
def Double.ofText? (text : String) : Option Double := ofChars? text.toList

/-- A text that was to be a decimal number and is none. -/
structure NotADecimal where
  text : List Text.Point
deriving DecidableEq, Repr

/-- What is said of a text that is no decimal number. -/
def NotADecimal.message (e : NotADecimal) : String :=
  "could not convert string to float: " ++ Text.quotedPoints e.text

/-- Read a number or say that it is none. Half of a surrogate pair is no digit, no more than a
question mark is. -/
def Double.read (text : List Text.Point) : Except NotADecimal Double :=
  match ofChars? (text.map (Text.Point.charOr '?')) with
  | some x => .ok x
  | none => .error ⟨text⟩

end AuthKeyspace.Decimal
