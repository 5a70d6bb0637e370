import AuthKeyspace.Text.Quoted

/-!
# Whole numbers as people write them

A number in an environment variable or on the command line may stand between spaces, carry one sign,
use the decimal digits of any script and separate digits by single underscores. Of white space only
the four separators below the space are not allowed around it. In a base other than ten a number may
begin with a zero and the letter of its base.

A decimal number has a limited number of digits, when it is read and when it is written. Where a
number is beyond the limit, a text that has it in it does not come about: whoever writes the text
fails with `NumberTooLong`.

Main statement: `writeInteger_eq_ok_iff`.
-/

namespace AuthKeyspace.Text

/-- White space that may stand around a number. -/
def isNumberMargin (c : Char) : Bool :=
  isBlank c && !(0x1c ≤ c.toNat && c.toNat ≤ 0x1f)

/-- A text without the white space around it that a number may have. -/
def trimMargins (cs : List Char) : List Char :=
  ((cs.dropWhile isNumberMargin).reverse.dropWhile isNumberMargin).reverse

/-! ## Digits -/

/-- The value of a Latin letter as a digit. -/
def letterValue? (c : Char) : Option Nat :=
  if 'a' ≤ c ∧ c ≤ 'z' then some (c.toNat - 87)
  else if 'A' ≤ c ∧ c ≤ 'Z' then some (c.toNat - 55)
  else none

/-- The value of a digit of a base. -/
def digitIn? (base : Nat) (c : Char) : Option Nat :=
  ((digitValue? c).or (letterValue? c)).filter (· < base)

/-- Read digits after a digit, `value` being what came before; an underscore stands between two
digits only. -/
def moreDigits? (base value : Nat) : List Char → Option Nat
  | [] => some value
  | '_' :: c :: rest => do
    let d ← digitIn? base c
    moreDigits? base (base * value + d) rest
  | c :: rest => do
    let d ← digitIn? base c
    moreDigits? base (base * value + d) rest

/-- The value of a run of digits with single underscores between them. -/
def digitsValue? (base : Nat) : List Char → Option Nat
  | [] => none
  | c :: rest => do
    let d ← digitIn? base c
    moreDigits? base d rest

/-- The letter of a base. -/
def baseLetter? : Nat → Option Char
  | 2 => some 'b'
  | 8 => some 'o'
  | 16 => some 'x'
  | _ => none

/-- The digits behind a zero and the letter of the base, and behind an underscore that follows
them. -/
def dropBaseMark (base : Nat) : List Char → List Char
  | zero :: letter :: rest =>
    if digitValue? zero = some 0 ∧ baseLetter? base = some letter.toLower then
      match rest with
      | '_' :: digits => digits
      | digits => digits
    else zero :: letter :: rest
  | cs => cs

/-- A sign, and what is behind it. -/
def splitSign : List Char → Bool × List Char
  | '-' :: rest => (true, rest)
  | '+' :: rest => (false, rest)
  | cs => (false, cs)

/-- A number with a sign. -/
def signed (negative : Bool) (n : Nat) : Int := if negative then -(n : Int) else n

/-- The value of a text that is a number of a base, however many digits it has. -/
def integerValue? (base : Nat) (cs : List Char) : Option Int :=
  let (negative, size) := splitSign (trimMargins cs)
  (digitsValue? base (dropBaseMark base size)).map (signed negative)

/-! ## The limit -/

/-- How many digits a decimal number has at most. -/
def maxDigits : Nat := 4300

/-- The number of digits at the start of a text if they are too many for a decimal number, whatever
comes behind them. Other bases have no limit. -/
def excess? (base : Nat) (cs : List Char) : Option Nat :=
  let run := (splitSign (trimMargins cs)).2.takeWhile fun c => c = '_' || (digitIn? base c).isSome
  let count := (run.filter (· != '_')).length
  if base = 10 ∧ maxDigits < count ∧ (digitsValue? base run).isSome then some count else none

/-- What messages say of the limit. -/
def limitMessage : String :=
  "Exceeds the limit (" ++ toString maxDigits ++ " digits) for integer string conversion"

/-- What messages suggest against the limit. -/
def limitAdvice : String := "; use sys.set_int_max_str_digits() to increase the limit"

/-! ## Reading -/

/-- Why a text is no number of a base. -/
inductive IntegerFault
  | malformed (text : List Point) (base : Nat)
  | tooLong (digits : Nat)
deriving DecidableEq, Repr

/-- How much of a text that is no number is shown. -/
def maxShown : Nat := 200

/-- What is said of a text that is no number. -/
def IntegerFault.message : IntegerFault → String
  | .malformed text base =>
    "invalid literal for int() with base " ++ toString base ++ ": " ++
      String.ofList ((quotedPoints text).toList.take maxShown)
  | .tooLong digits => limitMessage ++ ": value has " ++ toString digits ++ " digits" ++ limitAdvice

/-- Read a whole number of a base or say why it is none. Half of a surrogate pair is no digit, no
more than a question mark is. -/
def readIntegerIn (base : Nat) (text : List Point) : Except IntegerFault Int :=
  let cs := text.map (Point.charOr '?')
  match excess? base cs, integerValue? base cs with
  | some count, _ => .error (.tooLong count)
  | none, some n => .ok n
  | none, none => .error (.malformed text base)

/-- Read a decimal whole number or say why it is none. -/
def readInteger (text : String) : Except IntegerFault Int := readIntegerIn 10 (points text)

/-! ## Writing -/

/-- A number with more digits than are written. -/
structure NumberTooLong where
deriving DecidableEq, Repr

/-- What is said of a number with more digits than are written. -/
def NumberTooLong.message (_ : NumberTooLong) : String := limitMessage ++ limitAdvice

/-- Does a whole number have no more digits than are written? -/
def IsWritable (n : Int) : Prop := n.natAbs < Nat.pow 10 maxDigits

instance (n : Int) : Decidable (IsWritable n) :=
  inferInstanceAs (Decidable (n.natAbs < Nat.pow 10 maxDigits))

/-- Write a whole number in decimal digits. -/
def writeInteger (n : Int) : Except NumberTooLong String :=
  if IsWritable n then .ok (toString n) else .error ⟨⟩

/-- What is said where a message that shows numbers should be: the message, or that one of the
numbers is too long. -/
def said : Except NumberTooLong String → String
  | .ok message => message
  | .error e => e.message

theorem writeInteger_of_isWritable {n : Int} (h : IsWritable n) :
    writeInteger n = .ok (toString n) := if_pos h

theorem writeInteger_of_not_isWritable {n : Int} (h : ¬ IsWritable n) :
    writeInteger n = .error ⟨⟩ := if_neg h

theorem writeInteger_eq_ok_iff {n : Int} {text : String} :
    writeInteger n = .ok text ↔ IsWritable n ∧ toString n = text := by
  by_cases h : IsWritable n
  · simp [writeInteger_of_isWritable h, h]
  · simp [writeInteger_of_not_isWritable h, h]

/-! ## Numbers of a fixed width -/

/-- A number with at least `width` digits, filled up with zeros on the left. A wider number is
written in full. -/
def padded (width n : Nat) : List Char :=
  let digits := Nat.toDigits 10 n
  List.replicate (width - digits.length) '0' ++ digits

/-- A number with at least `width` digits, as a text. -/
def paddedText (width n : Nat) : String := String.ofList (padded width n)

end AuthKeyspace.Text
