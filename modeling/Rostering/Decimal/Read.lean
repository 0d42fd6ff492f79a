import Rostering.Decimal.Exact
import Rostering.Text.Digits

/-!
# Decimal.Read — numbers from text

The pieces of a written number (digits, fraction, sign, exponent), and two readers of whole texts:
`integerOfText?` for whole numbers and `floatOfText?` for floats. Both take digits of any script,
single underscores between digits and white space at both ends; the second also knows the words
for infinity and for what is not a number.
-/

namespace Rostering

/-! ## Pieces -/

def digitsValue (cs : List Char) : Nat := cs.foldl (fun n c => 10 * n + (c.toNat - '0'.toNat)) 0

def spanDigits (cs : List Char) : List Char × List Char :=
  (cs.takeWhile Char.isDigit, cs.dropWhile Char.isDigit)

/-- A sign in front of digits: whether it is a minus, and the rest. -/
def readSign : List Char → Bool × List Char
  | '-' :: rest => (true, rest)
  | '+' :: rest => (false, rest)
  | rest => (false, rest)

/-- An exponent, if a mark with digits comes next. -/
def readExponent (cs : List Char) : Option Int × List Char :=
  match cs with
  | [] => (none, [])
  | c :: rest =>
    if c = 'e' ∨ c = 'E' then
      let (negative, rest) := readSign rest
      let (digits, rest) := spanDigits rest
      if digits.isEmpty then (none, cs)
      else
        let size := Int.ofNat (digitsValue digits)
        (some (if negative then -size else size), rest)
    else (none, cs)

/-- The float of digits before and behind the point and an exponent. -/
def floatOfDigits (negative : Bool) (whole part : List Char) (exponent : Int) : Float :=
  nearestFloat negative (digitsValue (whole ++ part)) (exponent - Int.ofNat part.length)

/-! ## Whole texts -/

/-- A decimal digit of any script as the ASCII one. -/
def plainDigit (c : Char) : Char :=
  match Text.decimalDigit? c with
  | some n => Char.ofNat ('0'.toNat + n)
  | none => c

/-- Removes underscores, which have to stand between digits. -/
def joinGroups (digit : Char → Bool) : (afterDigit : Bool) → List Char → Option (List Char)
  | _, [] => some []
  | afterDigit, '_' :: rest =>
    if afterDigit && (rest.head?.map digit).getD false then joinGroups digit false rest
    else none
  | _, c :: rest => (joinGroups digit (digit c) rest).map (c :: ·)

/-- The value of a digit to some base; letters are digits from ten on. -/
def baseDigit? (base : Nat) (c : Char) : Option Nat :=
  let n :=
    if c.isDigit then c.toNat - '0'.toNat
    else if c.isLower then c.toNat - 'a'.toNat + 10
    else if c.isUpper then c.toNat - 'A'.toNat + 10
    else base
  if n < base then some n else none

/-- Integers in base ten may have this many digits. -/
def maxIntegerDigits : Nat := 4300

/-- The letter that stands for a base behind a leading zero. -/
def baseLetter? (base : Nat) : Option Char :=
  [(2, 'b'), (8, 'o'), (16, 'x')].lookup base

/-- Removes the mark of a base in front of digits. An underscore may stand behind it. -/
def dropBaseMark (base : Nat) (cs : List Char) : List Char :=
  match cs with
  | '0' :: letter :: rest =>
    if some letter.toLower = baseLetter? base then
      match rest with
      | '_' :: rest => rest
      | rest => rest
    else cs
  | cs => cs

/-- The whole number that a text stands for, written to some base. -/
def integerOfText? (base : Nat) (s : String) : Option Int := do
  let (negative, digits) := readSign ((Text.stripped s).toList.map plainDigit)
  let digits ← joinGroups (fun c => (baseDigit? base c).isSome) false (dropBaseMark base digits)
  guard (!digits.isEmpty)
  guard (base ≠ 10 || digits.length ≤ maxIntegerDigits)
  let values ← digits.mapM (baseDigit? base)
  let size := Int.ofNat (values.foldl (fun n d => base * n + d) 0)
  some (if negative then -size else size)

/-- Reads an unsigned number with an optional fraction and exponent, and nothing else. -/
def unsignedFloat? (negative : Bool) (cs : List Char) : Option Float :=
  let (whole, rest) := spanDigits cs
  let (part, rest) := match rest with
    | '.' :: rest => spanDigits rest
    | rest => ([], rest)
  let (exponent, rest) := readExponent rest
  if (whole.isEmpty && part.isEmpty) || !rest.isEmpty then none
  else some (floatOfDigits negative whole part (exponent.getD 0))

def floatOfText? (s : String) : Option Float :=
  match joinGroups Char.isDigit false ((Text.stripped s).toList.map plainDigit) with
  | none => none
  | some cs =>
    let (negative, rest) := readSign cs
    let word := String.ofList (rest.map Char.toLower)
    if word = "inf" ∨ word = "infinity" then some (if negative then -1.0 / 0.0 else 1.0 / 0.0)
    else if word = "nan" then some (0.0 / 0.0)
    else unsignedFloat? negative rest

end Rostering
