import Rostering.Powers

/-!
# Decimal.Exact — what a float is, exactly

A finite float is an integer times a power of two. `FloatParts.of` reads both off the bits; the
integer part, the next whole number above, comparison with an integer and the nearest float to a
decimal are then questions about integers.
-/

namespace Rostering

/-- A float, taken apart: a finite one is `mantissa · 2 ^ exponent` with a sign. -/
inductive FloatParts where
  | nan
  | infinite (negative : Bool)
  | finite (negative : Bool) (mantissa : Nat) (exponent : Int)
  deriving DecidableEq

namespace FloatParts

/-- Reads sign, exponent and fraction off the bits. Below the smallest normal number the leading
bit of the mantissa is absent. -/
def of (x : Float) : FloatParts :=
  let bits := x.toBits.toNat
  let negative := bits / twoTo 63 == 1
  let biased := bits / twoTo 52 % 2048
  let fraction := bits % twoTo 52
  if biased = 2047 then
    if fraction = 0 then .infinite negative else .nan
  else if biased = 0 then .finite negative fraction (-1074)
  else .finite negative (twoTo 52 + fraction) (Int.ofNat biased - 1075)

/-- The number as a quotient of an integer and a positive natural number. -/
def quotient? : FloatParts → Option (Int × Nat)
  | .finite negative mantissa exponent =>
    let size := mantissa * twoTo exponent.toNat
    some (if negative then -Int.ofNat size else Int.ofNat size, twoTo (-exponent).toNat)
  | _ => none

/-- The integer that the number is, if it is one. -/
def toInt? (p : FloatParts) : Option Int :=
  match p.quotient? with
  | some (n, d) => if n.emod d = 0 then some (n.ediv d) else none
  | none => none

/-- The least integer that is not below the number. -/
def ceil? (p : FloatParts) : Option Int :=
  p.quotient?.map fun (n, d) => -((-n).ediv d)

end FloatParts

/-- Neither infinite nor the result of an undefined operation. -/
def floatIsFinite (x : Float) : Bool := (FloatParts.of x).quotient?.isSome

/-- The integer that a float is, if it is one. -/
def floatToInt? (x : Float) : Option Int := (FloatParts.of x).toInt?

/-- The float nearest to `± digits · 10 ^ exponent`, infinite when there is none large enough.
Exponents far outside the range of floats are decided by their sign alone. -/
def nearestFloat (negative : Bool) (digits : Nat) (exponent : Int) : Float :=
  let size : Float :=
    if digits = 0 then 0
    else if exponent > 400 then 1.0 / 0.0
    else if exponent < -400 - Int.ofNat (Nat.toDigits 10 digits).length then 0
    else Float.ofScientific digits (exponent < 0) exponent.natAbs
  if negative then -size else size

def floatOfInt (n : Int) : Float := nearestFloat (n < 0) n.natAbs 0

def sameNumber (n : Int) (x : Float) : Bool := floatToInt? x == some n

end Rostering
