import Rostering.Decimal.Exact

/-!
# Decimal.Shortest — the text of a float

Two stages. `shortestDigits` picks the fewest decimal digits that read back to the same float,
and of those the ones nearest to it: on the grid of `n`-digit decimals only the two neighbours of
the number can lie in the interval of reals that round to it, so both are tested, for growing `n`.
`FloatFormat` then says where the point goes and how an exponent is written.
-/

namespace Rostering

/-! ## Which digits -/

/-- A finite positive float as `mantissa · 2 ^ exponent`, with the half-way points to its
neighbours, all three over one denominator. -/
structure RoundingInterval where
  low : Nat
  value : Nat
  high : Nat
  denominator : Nat
  /-- The half-way points round to this float too. -/
  closed : Bool

namespace RoundingInterval

/-- The interval of a float. Just above a power of two the neighbour below is half as far away as
the one above. -/
def of (mantissa : Nat) (exponent : Int) : RoundingInterval :=
  let scale := twoTo (exponent - 2).toNat
  let below := if mantissa = twoTo 52 ∧ exponent > -1074 then 1 else 2
  { low := (4 * mantissa - below) * scale
    value := 4 * mantissa * scale
    high := (4 * mantissa + 2) * scale
    denominator := twoTo (2 - exponent).toNat
    closed := mantissa % 2 == 0 }

/-- `count / grid` lies in the interval, where the grid is a quotient of two numbers. -/
def holds (r : RoundingInterval) (count gridNum gridDen : Nat) : Bool :=
  let here := count * gridNum * r.denominator
  let low := r.low * gridDen
  let high := r.high * gridDen
  if r.closed then low ≤ here && here ≤ high else low < here && here < high

end RoundingInterval

/-- Number of decimal places that a quotient below one starts with, plus one. -/
def leadingZeros (num den : Nat) : (fuel : Nat) → Nat
  | 0 => 0
  | fuel + 1 => if den ≤ num then 0 else leadingZeros (num * 10) den fuel + 1

/-- The power of ten just above a positive quotient: `10 ^ (m - 1) ≤ num / den < 10 ^ m`. -/
def decimalMagnitude (num den : Nat) : Int :=
  if den ≤ num then (Nat.toDigits 10 (num / den)).length
  else 1 - Int.ofNat (leadingZeros num den 400)

/-- Tries the grid with `length` digits, then finer ones. The answer is a number of grid steps
and the grid's power of ten. -/
def searchDigits (r : RoundingInterval) (magnitude : Int) : (fuel length : Nat) → Nat × Int
  | 0, length => (0, magnitude - length)
  | fuel + 1, length =>
    let power := magnitude - Int.ofNat length
    let gridNum := tenTo power.toNat
    let gridDen := tenTo (-power).toNat
    let below := r.value * gridDen / (gridNum * r.denominator)
    let above := below + 1
    match r.holds below gridNum gridDen, r.holds above gridNum gridDen with
    | false, false => searchDigits r magnitude fuel (length + 1)
    | true, false => (below, power)
    | false, true => (above, power)
    | true, true =>
      -- the nearer of the two, and the even one of two equally near
      let down := r.value * gridDen - below * gridNum * r.denominator
      let up := above * gridNum * r.denominator - r.value * gridDen
      if down < up then (below, power)
      else if up < down then (above, power)
      else if below % 2 = 0 then (below, power)
      else (above, power)

/-- Removes zeros at the end of a number into its power of ten. -/
def dropTrailingZeros : (fuel n : Nat) → (power : Int) → Nat × Int
  | 0, n, power => (n, power)
  | fuel + 1, n, power =>
    if n ≠ 0 ∧ n % 10 = 0 then dropTrailingZeros fuel (n / 10) (power + 1) else (n, power)

/-- The fewest digits, and their power of ten, that read back to `mantissa · 2 ^ exponent`. -/
def shortestDigits (mantissa : Nat) (exponent : Int) : Nat × Int :=
  let r := RoundingInterval.of mantissa exponent
  let (n, power) := searchDigits r (decimalMagnitude r.value r.denominator) 17 1
  dropTrailingZeros 20 n power

/-! ## How they are laid out -/

/-- The decisions of one way to write floats. -/
structure FloatFormat where
  nan : String
  infinity : String
  minusInfinity : String
  /-- Written between a mantissa of one digit and the exponent. -/
  loneDigitTail : String

namespace FloatFormat

/-- Digits with the point after the first `place` of them, and zeros where there are no digits.
At least one digit stands on each side of the point. -/
def positional (digits : List Char) (place : Int) : String :=
  if place ≤ 0 then
    "0." ++ String.ofList (List.replicate (-place).toNat '0' ++ digits)
  else
    let whole := digits.take place.toNat
    let whole := whole ++ List.replicate (place.toNat - whole.length) '0'
    let part := digits.drop place.toNat
    String.ofList whole ++ "." ++ (if part.isEmpty then "0" else String.ofList part)

/-- One digit, the others behind a point, and an exponent of at least two digits. -/
def scientific (f : FloatFormat) (digits : List Char) (exponent : Int) : String :=
  let mantissa := match digits with
    | [] => ""
    | [d] => String.singleton d ++ f.loneDigitTail
    | d :: ds => String.singleton d ++ "." ++ String.ofList ds
  let size := Nat.toDigits 10 exponent.natAbs
  let size := if size.length < 2 then '0' :: size else size
  mantissa ++ "e" ++ (if exponent < 0 then "-" else "+") ++ String.ofList size

/-- A float as its shortest digits, positional where the first digit stands for a power of ten
from -4 to 15. -/
def text (f : FloatFormat) (x : Float) : String :=
  match FloatParts.of x with
  | .nan => f.nan
  | .infinite false => f.infinity
  | .infinite true => f.minusInfinity
  | .finite negative 0 _ => if negative then "-0.0" else "0.0"
  | .finite negative mantissa exponent =>
    let (n, power) := shortestDigits mantissa exponent
    let digits := Nat.toDigits 10 n
    let place := power + digits.length
    let body :=
      if -4 < place ∧ place ≤ 16 then positional digits place
      else f.scientific digits (place - 1)
    if negative then "-" ++ body else body

end FloatFormat

/-- Floats as values are shown in messages. -/
def plainFloat : FloatFormat := ⟨"nan", "inf", "-inf", ""⟩

end Rostering
