import AuthKeyspace.Decimal.Double

/-!
# The shortest text of a number

Many decimal numbers are read as the same binary number: all that lie nearer to it than to its
neighbours. A number is written as the one among them with the fewest digits, and among those the
nearest. On the grid of decimal numbers with so many digits only the two around the number itself
have to be looked at: if any point of the grid lies in the interval, one of these two does.

Numbers from a ten thousandth up to sixteen digits are written out with at least one digit behind
the point, others with an exponent of at least two digits.
-/

namespace AuthKeyspace.Decimal

/-- Ten to a power as a quotient. -/
def powerOfTen (e : Int) : Nat × Nat := (Nat.pow 10 e.toNat, Nat.pow 10 (-e).toNat)

/-- A number above zero and the ends of the interval of all that is read as it, over one
denominator. The ends belong to it when the mantissa is even. -/
structure Interval where
  value : Nat
  low : Nat
  high : Nat
  den : Nat
  closed : Bool

/-- The interval of a mantissa and an exponent. Below a power of two the neighbour is nearer. -/
def Interval.of (mantissa : Nat) (exponent : Int) : Interval :=
  let unit := Nat.pow 2 (exponent - 2).toNat
  let below := if mantissa = Nat.pow 2 52 ∧ minExponent < exponent then 1 else 2
  { value := 4 * mantissa * unit
    low := (4 * mantissa - below) * unit
    high := (4 * mantissa + 2) * unit
    den := Nat.pow 2 (2 - exponent).toNat
    closed := mantissa % 2 == 0 }

namespace Interval

/-- Does the grid point `n` in units of ten to the `e` lie in the interval? -/
def holds (i : Interval) (e : Int) (n : Nat) : Bool :=
  let (up, down) := powerOfTen e
  let point := n * up * i.den
  let low := i.low * down
  let high := i.high * down
  if i.closed then low ≤ point && point ≤ high else low < point && point < high

/-- Of the two grid points around the number the one in the interval; of both the nearer one, and of
two that are equally near the even one. -/
def choose? (i : Interval) (e : Int) : Option Nat :=
  let (up, down) := powerOfTen e
  let n := i.value * down / (i.den * up)
  match i.holds e n, i.holds e (n + 1) with
  | true, true =>
    let twice := 2 * (i.value * down)
    let middle := (2 * n + 1) * up * i.den
    if twice < middle || (twice == middle && n % 2 == 0) then some n else some (n + 1)
  | true, false => some n
  | false, true => some (n + 1)
  | false, false => none

/-- How many places the first digit of a number below one is behind the point. -/
def leadingZeros : Nat → Nat → Nat → Nat
  | 0, _, _ => 0
  | fuel + 1, num, den => if den ≤ num then 0 else leadingZeros fuel (10 * num) den + 1

/-- The power of ten of the first digit. -/
def leadingPower (i : Interval) : Int :=
  if i.den ≤ i.value then ((Nat.toDigits 10 (i.value / i.den)).length : Int) - 1
  else -(leadingZeros 400 i.value i.den : Int)

/-- The chosen grid point, with the power of ten that its grid has. -/
def shortest (i : Interval) : Nat × Int :=
  let top := i.leadingPower
  -- The coarsest grid is tried first, so that the first hit has the fewest digits.
  let grid (digits : Nat) : Option (Nat × Int) :=
    let e := top + 1 - digits
    (i.choose? e).map fun n => (n, e)
  ((List.range' 1 17).findSome? grid).getD (0, 0)

end Interval

/-- The digits of a number above zero, and how many of them stand before the point. -/
def digitsAndPoint (mantissa : Nat) (exponent : Int) : List Char × Int :=
  let (n, e) := (Interval.of mantissa exponent).shortest
  let digits := Nat.toDigits 10 n
  ((digits.reverse.dropWhile (· == '0')).reverse, digits.length + e)

/-- Digits with a point after `point` of them. -/
def positional (digits : List Char) (point : Int) : List Char :=
  if point ≤ 0 then '0' :: '.' :: List.replicate (-point).toNat '0' ++ digits
  else
    let whole := digits.take point.toNat
    let rest := digits.drop point.toNat
    whole ++ List.replicate (point.toNat - whole.length) '0' ++
      '.' :: (if rest.isEmpty then ['0'] else rest)

/-- Digits with an exponent. -/
def scientific (digits : List Char) (point : Int) : List Char :=
  let e := point - 1
  let size := Nat.toDigits 10 e.natAbs
  let rest := digits.drop 1
  digits.take 1 ++ (if rest.isEmpty then [] else '.' :: rest) ++
    'e' :: (if e < 0 then '-' else '+') :: List.replicate (2 - size.length) '0' ++ size

/-- The text of a number. -/
def Double.text : Double → String
  | .notANumber => "nan"
  | .infinite negative => if negative then "-inf" else "inf"
  | .finite negative mantissa exponent =>
    let size :=
      if mantissa = 0 then ['0', '.', '0']
      else
        let (digits, point) := digitsAndPoint mantissa exponent
        if -4 < point ∧ point ≤ 16 then positional digits point else scientific digits point
    String.ofList (if negative then '-' :: size else size)

end AuthKeyspace.Decimal
