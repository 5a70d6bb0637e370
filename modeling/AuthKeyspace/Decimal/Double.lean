/-!
# Binary numbers of 64 bits

A number is a whole number below 2⁵³ times a power of two, or infinite, or no number at all. Every
finite number has one form only: the exponent is as small as the limits allow. A quotient becomes
the nearest such number, of two that are equally near the one with the even mantissa; what is too
large becomes infinite.
-/

namespace AuthKeyspace.Decimal

/-- The smallest exponent of two. -/
def minExponent : Int := -1074

/-- The largest exponent of two. -/
def maxExponent : Int := 971

/-- A binary number of 64 bits. -/
inductive Double
  | finite (negative : Bool) (mantissa : Nat) (exponent : Int)
  | infinite (negative : Bool)
  | notANumber
deriving DecidableEq, Repr

/-- The whole number nearest to a quotient, the even one of two. -/
def roundDiv (num den : Nat) : Nat :=
  let q := num / den
  let twice := 2 * (num % den)
  if twice < den then q else if den < twice then q + 1 else if q % 2 = 0 then q else q + 1

namespace Double

/-- Zero. -/
def zero (negative : Bool) : Double := .finite negative 0 minExponent

/-- The opposite number. -/
def negate : Double → Double
  | .finite negative mantissa exponent => .finite (!negative) mantissa exponent
  | .infinite negative => .infinite (!negative)
  | .notANumber => .notANumber

/-- The number with the given sign that is nearest to `num / den`. -/
def ofRatio (negative : Bool) (num den : Nat) : Double :=
  if num = 0 then zero negative
  else
    let scaled (e : Int) : Nat × Nat := (num * Nat.pow 2 (-e).toNat, den * Nat.pow 2 e.toNat)
    let low := max minExponent ((Nat.log2 num : Int) - Nat.log2 den - 53)
    let exponent := if (scaled low).1 / (scaled low).2 < Nat.pow 2 53 then low else low + 1
    let mantissa := roundDiv (scaled exponent).1 (scaled exponent).2
    let (mantissa, exponent) :=
      if mantissa = Nat.pow 2 53 then (Nat.pow 2 52, exponent + 1) else (mantissa, exponent)
    if maxExponent < exponent then .infinite negative else .finite negative mantissa exponent

/-- The number nearest to a whole number. -/
def ofNat (n : Nat) : Double := ofRatio false n 1

/-- The size of a finite number as a whole number of units of the smallest one. -/
def units (mantissa : Nat) (exponent : Int) : Nat :=
  mantissa * Nat.pow 2 (exponent - minExponent).toNat

/-- The sum of two numbers. -/
def add : Double → Double → Double
  | .finite s m e, .finite s' m' e' =>
    let signed (negative : Bool) (n : Nat) : Int := if negative then -(n : Int) else n
    let sum := signed s (units m e) + signed s' (units m' e')
    let negative := if sum = 0 then s && s' else decide (sum < 0)
    ofRatio negative sum.natAbs (Nat.pow 2 minExponent.natAbs)
  | .notANumber, _ | _, .notANumber => .notANumber
  | .infinite s, .infinite s' => if s = s' then .infinite s else .notANumber
  | .infinite s, _ | _, .infinite s => .infinite s

/-- A number times a whole number above zero, which is first made a number itself. -/
def scale (x : Double) (factor : Nat) : Double :=
  match x, ofNat factor with
  | .finite s m e, .finite _ m' e' =>
    ofRatio s (m * m' * Nat.pow 2 (e + e').toNat) (Nat.pow 2 (-(e + e')).toNat)
  | .finite s _ _, _ => .infinite s
  | x, _ => x

/-- Is the number this whole number? -/
def equalsInt (x : Double) (n : Int) : Bool :=
  match x with
  | .finite s m e =>
    let size := m * Nat.pow 2 e.toNat
    size == n.natAbs * Nat.pow 2 (-e).toNat && (n == 0 || s == decide (n < 0))
  | _ => false

/-- Are two numbers the same number? Zero is one number; what is no number equals nothing. -/
def same : Double → Double → Bool
  | .notANumber, _ | _, .notANumber => false
  | .finite s m e, .finite s' m' e' => m == m' && (m == 0 || (s == s' && e == e'))
  | x, y => x == y

end Double

end AuthKeyspace.Decimal
