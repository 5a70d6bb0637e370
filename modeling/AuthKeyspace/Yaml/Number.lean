import AuthKeyspace.Text.LetterCase
import AuthKeyspace.Text.Split
import AuthKeyspace.Yaml.Fault
import AuthKeyspace.Yaml.Tag

/-!
# Numbers and truth values of a document

The text of a number has its underscores dropped. A whole number can be written in the bases two,
eight and sixteen, and any number in base sixty, with colons between the digits. A text with the tag
of a number need not have its form; then it is read as far as the rules go, or it is a fault.
-/

namespace AuthKeyspace.Yaml

open AuthKeyspace.Decimal AuthKeyspace.Text

/-- A text without underscores. -/
def withoutGaps (text : List Point) : List Point := text.filter (· != .char '_')

/-- A sign, and what is behind it. -/
def signOf : List Point → Bool × List Point
  | .char '-' :: rest => (true, rest)
  | .char '+' :: rest => (false, rest)
  | text => (false, text)

/-! ## Whole numbers -/

/-- The number that digits in base sixty show, the first being the highest. -/
def sexagesimal (digits : List Int) : Int := digits.foldl (fun n d => 60 * n + d) 0

/-- Read a whole number of a base. -/
def integerIn (base : Nat) (text : List Point) : Except Fault Int :=
  (readIntegerIn base text).mapError .integer

/-- Read a whole number without its sign. -/
def integerSize (text : List Point) : Except Fault Int :=
  match text with
  | [] => .error .emptyNumber
  | [.char '0'] => .ok 0
  | .char '0' :: .char 'b' :: rest => integerIn 2 rest
  | .char '0' :: .char 'x' :: rest => integerIn 16 rest
  | .char '0' :: _ => integerIn 8 text
  | _ =>
    if text.contains (.char ':') then
      sexagesimal <$> (splitOn (.char ':') text).mapM (integerIn 10)
    else integerIn 10 text

/-- Read a whole number. -/
def integerOf (text : List Point) : Except Fault Int :=
  let (negative, size) := signOf (withoutGaps text)
  (fun n => if negative then -n else n) <$> integerSize size

/-! ## Numbers with a point -/

/-- A power of sixty by which a digit can be scaled. -/
def scaleBy (d : Double) (power : Nat) : Except Fault Double :=
  match Double.ofNat power with
  | .infinite _ => .error .scaleTooLarge
  | _ => .ok (d.scale power)

/-- The number that digits in base sixty show. The sum begins with the lowest digit and is rounded
after each step. -/
def sexagesimalSum (digits : List Double) : Except Fault Double :=
  Prod.fst <$> digits.reverse.foldlM
    (fun (sum, power) d => do return (sum.add (← scaleBy d power), 60 * power))
    (Double.zero false, 1)

/-- Read a decimal number. -/
def decimalOf (text : List Point) : Except Fault Double := (Double.read text).mapError .decimal

/-- What the text of a number shows: the word for what is no number is always the same one, and
every other text shows a number of its own. -/
inductive Shown
  | number (number : Double)
  | nanWord
deriving DecidableEq, Repr

/-- Read a number in small letters. -/
def floatOfSmall (text : List Point) : Except Fault Shown :=
  let (negative, size) := signOf text
  let signed (x : Double) : Shown := .number (if negative then x.negate else x)
  if size = points ".inf" then .ok (signed (.infinite false))
  else if size = points ".nan" then .ok .nanWord
  else if size.contains (.char ':') then do
    return signed (← sexagesimalSum (← (splitOn (.char ':') size).mapM decimalOf))
  else signed <$> decimalOf size

/-- Read a number; letters have either case. -/
def floatOf (text : List Point) : Except Fault Shown :=
  let small := smallLetters (withoutGaps text)
  if small.isEmpty then .error .emptyNumber else floatOfSmall small

/-! ## Truth values -/

/-- Read a truth value; letters have either case. -/
def truthOf (text : List Point) : Except Fault Bool :=
  let small := smallLetters text
  match Tag.truthWords.find? fun w => points w.1 == small with
  | some w => .ok w.2
  | none => .error (.truth small)

end AuthKeyspace.Yaml
