import Rostering.Decimal.Read

/-!
# Csv.Number — numbers and truth values in cells

What a single cell stands for. White space around a number counts for nothing. A whole number may
be limited to a range, and one outside of it is told apart from what is no whole number at all
(`Unfit`), because a column treats the two differently.
-/

namespace Rostering.Csv

/-! ## Whole numbers -/

/-- White space around numbers. -/
def isPadding (c : Char) : Bool :=
  c == ' ' || c == '\t' || c == '\n' || c == '\r' || c == '\x0b' || c == '\x0c'

def trimmed (s : String) : List Char :=
  ((s.toList.dropWhile isPadding).reverse.dropWhile isPadding).reverse

/-- Why a text is no whole number of a range. -/
inductive Unfit where
  /-- It is not written like one. -/
  | shape
  /-- It lies outside of the range. -/
  | size
  deriving DecidableEq

def isSigned64 (n : Int) : Bool := leastWord ≤ n && n < wordLimit

/-- Numbers of 64 bits without a sign. -/
def isNatural64 (n : Int) : Bool := 0 ≤ n && n < naturalLimit

def signed (negative : Bool) (size : Nat) : Int := if negative then -Int.ofNat size else size

/-- Reads digits that may be followed by white space. The size is judged by the digits alone. -/
def digitsWithin (holds : Int → Bool) (negative : Bool) (cs : List Char) : Except Unfit Int :=
  let (digits, rest) := spanDigits cs
  let n := signed negative (digitsValue digits)
  if digits.isEmpty then throw .shape
  else if !holds n then throw .size
  else if rest.all isPadding then pure n
  else throw .shape

def signedNumber (s : String) : Except Unfit Int :=
  let (negative, cs) := readSign (s.toList.dropWhile isPadding)
  digitsWithin isSigned64 negative cs

/-- Reads a number of 64 bits without a sign. Of one that has a minus nothing more is read. -/
def naturalNumber (s : String) : Except Unfit (Option Int) :=
  match readSign (s.toList.dropWhile isPadding) with
  | (true, _) => pure none
  | (false, cs) => (digitsWithin isNatural64 false cs).map some

/-- Reads a whole number of any size. Its digits are those of ASCII, and may be grouped. -/
def anyWhole? (s : String) : Option Int :=
  let cs := trimmed s
  if cs.all fun c => 0x20 < c.toNat && c.toNat < 0x80 then integerOfText? 10 (String.ofList cs)
  else none

/-! ## Floats -/

/-- A decimal number with a mark for its fraction, and an exponent if it has one. -/
def decimal? (point : Char) (s : String) : Option Float :=
  let (negative, cs) := readSign (trimmed s)
  let (whole, rest) := spanDigits cs
  let (part, rest) := match rest with
    | c :: tail => if c == point then spanDigits tail else ([], rest)
    | [] => ([], [])
  let (exponent, rest) := readExponent rest
  if (whole.isEmpty && part.isEmpty) || !rest.isEmpty then none
  else some (floatOfDigits negative whole part (exponent.getD 0))

/-- A float, or a word for infinity in either case. -/
def floatNumber? (point : Char) (s : String) : Option Float :=
  match decimal? point s with
  | some x => some x
  | none =>
    let (negative, cs) := readSign s.toList
    let word := String.ofList (cs.map Char.toLower)
    if word == "inf" || word == "infinity" then some (if negative then -1.0 / 0.0 else 1.0 / 0.0)
    else none

/-- A float in single precision. -/
def toSingle (x : Float) : Float := x.toFloat32.toFloat

/-- A float in half precision: ten bits behind the leading one, and no quantum below `2 ^ -24`.
Adding and taking off a number whose last bit is the quantum rounds to it. -/
def toHalf (x : Float) : Float :=
  match FloatParts.of x with
  | .finite _ mantissa exponent =>
    let quantum := max (exponent + Int.ofNat mantissa.log2 - 10) (-24)
    let carrier := Float.scaleB 6755399441055744 quantum
    let rounded := x + carrier - carrier
    if rounded == 0 then x * 0
    else if rounded.abs ≥ 65536 then x / 0
    else rounded
  | _ => x

/-! ## Truth values -/

def truthValue? (s : String) : Option Bool :=
  if s.toLower == "true" then some true else if s.toLower == "false" then some false else none

/-- A truth value by one of its usual spellings, which may be a number. -/
def truthWord? (s : String) : Option Bool :=
  if ["True", "TRUE", "true", "1", "1.0"].contains s then some true
  else if ["False", "FALSE", "false", "0", "0.0"].contains s then some false
  else none

end Rostering.Csv
