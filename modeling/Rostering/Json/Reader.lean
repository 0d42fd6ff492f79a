import Rostering.Decimal.Read
import Rostering.Value.Basic

/-!
# Json.Reader — values from JSON text

The reader follows the grammar by descent over the characters. Next to the standard it knows
`NaN`, `Infinity` and `-Infinity`. A number with a point or an exponent is a float, any other an
integer of whatever size. Of fields with one name the last counts, in the place of the first.
Control characters must be escaped inside a text, and nothing may follow the value but white
space.
-/

namespace Rostering.Json

/-! ## White space and escapes -/

/-- The four characters that may stand between tokens. -/
def isSpace (c : Char) : Bool := c == ' ' || c == '\t' || c == '\n' || c == '\r'

def skipSpace (cs : List Char) : List Char := cs.dropWhile isSpace

def hexValue? (c : Char) : Option Nat :=
  if '0' ≤ c ∧ c ≤ '9' then some (c.toNat - '0'.toNat)
  else if 'a' ≤ c ∧ c ≤ 'f' then some (c.toNat - 'a'.toNat + 10)
  else if 'A' ≤ c ∧ c ≤ 'F' then some (c.toNat - 'A'.toNat + 10)
  else none

def hexValue4? (a b c d : Char) : Option Nat :=
  match hexValue? a, hexValue? b, hexValue? c, hexValue? d with
  | some a, some b, some c, some d => some (((a * 16 + b) * 16 + c) * 16 + d)
  | _, _, _, _ => none

/-- First half of a pair that stands for a character above the first 65536. -/
def isHighHalf (n : Nat) : Bool := 0xD800 ≤ n && n ≤ 0xDBFF

/-- Second half of such a pair. -/
def isLowHalf (n : Nat) : Bool := 0xDC00 ≤ n && n ≤ 0xDFFF

/-- Stands for a half without its partner, which is no character: a private character of the last
plane. -/
def loneHalf (n : Nat) : Char := Char.ofNat (0x100000 + n)

def isLoneHalf (c : Char) : Bool := 0x10D800 ≤ c.toNat && c.toNat ≤ 0x10DFFF

/-- Joins halves of pairs. -/
def joinHalves : List Nat → List Char
  | [] => []
  | [n] => [if isHighHalf n || isLowHalf n then loneHalf n else Char.ofNat n]
  | n :: m :: rest =>
    if isHighHalf n && isLowHalf m then
      Char.ofNat (0x10000 + (n - 0xD800) * 0x400 + (m - 0xDC00)) :: joinHalves rest
    else
      (if isHighHalf n || isLowHalf n then loneHalf n else Char.ofNat n)
        :: joinHalves (m :: rest)

/-- The character that an escape of one letter stands for. -/
def shortEscape? (c : Char) : Option Char :=
  if c = '"' ∨ c = '\\' ∨ c = '/' then some c
  else if c = 'b' then some '\x08'
  else if c = 'f' then some '\x0c'
  else if c = 'n' then some '\n'
  else if c = 'r' then some '\r'
  else if c = 't' then some '\t'
  else none

/-- Reads the inside of a text up to the closing quote, as code points and halves of pairs. -/
def readUnits : List Char → Option (List Nat × List Char)
  | [] => none
  | '"' :: rest => some ([], rest)
  | '\\' :: 'u' :: a :: b :: c :: d :: rest =>
    match hexValue4? a b c d with
    | none => none
    | some n => (readUnits rest).map fun (units, rest) => (n :: units, rest)
  | '\\' :: c :: rest =>
    match shortEscape? c with
    | none => none
    | some c => (readUnits rest).map fun (units, rest) => (c.toNat :: units, rest)
  | c :: rest =>
    if c.toNat < 0x20 ∨ c = '\\' then none
    else (readUnits rest).map fun (units, rest) => (c.toNat :: units, rest)

/-- Reads the inside of a text up to the closing quote. -/
def readText (cs : List Char) : Option (List Char × List Char) :=
  (readUnits cs).map fun (units, rest) => (joinHalves units, rest)

/-! ## Numbers -/

/-- Digits behind a point, if a point with digits comes next. -/
def readFraction (cs : List Char) : Option (List Char) × List Char :=
  match cs with
  | '.' :: rest =>
    let (digits, rest) := spanDigits rest
    if digits.isEmpty then (none, cs) else (some digits, rest)
  | _ => (none, cs)

/-- The digits before the point: a zero alone, or digits that do not start with one. -/
def readWhole (cs : List Char) : Option (List Char × List Char) :=
  match cs with
  | '0' :: rest => some (['0'], rest)
  | cs =>
    let (digits, rest) := spanDigits cs
    if digits.isEmpty then none else some (digits, rest)

def readNumber (negative : Bool) (cs : List Char) : Option (Value × List Char) := do
  let (whole, rest) ← readWhole cs
  let (fraction, rest) := readFraction rest
  let (exponent, rest) := readExponent rest
  match fraction, exponent with
  | none, none =>
    if whole.length > maxIntegerDigits then none
    else
      let n := Int.ofNat (digitsValue whole)
      some (.int (if negative then -n else n), rest)
  | fraction, exponent =>
    some (.float (floatOfDigits negative whole (fraction.getD []) (exponent.getD 0)), rest)

/-! ## Values -/

def dropWord : (word : List Char) → List Char → Option (List Char)
  | [], cs => some cs
  | _ :: _, [] => none
  | w :: word, c :: cs => if w = c then dropWord word cs else none

def readWord (cs : List Char) : Option (Value × List Char) :=
  let word (text : String) (v : Value) := (dropWord text.toList cs).map fun rest => (v, rest)
  word "null" .null <|> word "true" (.bool true) <|> word "false" (.bool false)
    <|> word "NaN" (.float (0.0 / 0.0)) <|> word "Infinity" (.float (1.0 / 0.0))
    <|> word "-Infinity" (.float (-1.0 / 0.0))

mutual

/-- Reads one value; no white space stands in front. -/
def readValue : (fuel : Nat) → List Char → Option (Value × List Char)
  | 0, _ => none
  | _ + 1, [] => none
  | fuel + 1, c :: rest =>
    if c = '"' then (readText rest).map fun (text, rest) => (.str (String.ofList text), rest)
    else if c = '[' then
      match skipSpace rest with
      | ']' :: rest => some (.list [], rest)
      | rest =>
        match readValue fuel rest with
        | none => none
        | some (v, rest) =>
          (readItems fuel (skipSpace rest)).map fun (vs, rest) => (.list (v :: vs), rest)
    else if c = '\x7b' then
      match skipSpace rest with
      | '\x7d' :: rest => some (.map [], rest)
      | rest =>
        match readField fuel rest with
        | none => none
        | some (e, rest) =>
          (readFields fuel (skipSpace rest)).map fun (es, rest) =>
            (.map (Entries.ofPairs (e :: es)), rest)
    else if c.isDigit then readNumber false (c :: rest)
    else
      match readWord (c :: rest) with
      | some r => some r
      | none => if c = '-' then readNumber true rest else none

/-- Reads the rest of a list behind an item. -/
def readItems : (fuel : Nat) → List Char → Option (List Value × List Char)
  | 0, _ => none
  | _ + 1, [] => none
  | fuel + 1, c :: rest =>
    if c = ']' then some ([], rest)
    else if c = ',' then
      match readValue fuel (skipSpace rest) with
      | none => none
      | some (v, rest) =>
        (readItems fuel (skipSpace rest)).map fun (vs, rest) => (v :: vs, rest)
    else none

def readField : (fuel : Nat) → List Char → Option ((Value × Value) × List Char)
  | 0, _ => none
  | _ + 1, [] => none
  | fuel + 1, c :: rest =>
    if c = '"' then
      match readText rest with
      | none => none
      | some (name, rest) =>
        match skipSpace rest with
        | ':' :: rest =>
          (readValue fuel (skipSpace rest)).map fun (v, rest) =>
            ((.str (String.ofList name), v), rest)
        | _ => none
    else none

/-- Reads the rest of a mapping behind a field. -/
def readFields : (fuel : Nat) → List Char → Option (List (Value × Value) × List Char)
  | 0, _ => none
  | _ + 1, [] => none
  | fuel + 1, c :: rest =>
    if c = '\x7d' then some ([], rest)
    else if c = ',' then
      match readField fuel (skipSpace rest) with
      | none => none
      | some (e, rest) =>
        (readFields fuel (skipSpace rest)).map fun (es, rest) => (e :: es, rest)
    else none

end

/-- The value of a text, if the text is one value and nothing else. Every call takes a character,
or comes just before one that does, so twice the length is fuel enough. -/
def parse? (text : String) : Option Value :=
  let cs := skipSpace text.toList
  match readValue (2 * cs.length + 2) cs with
  | some (v, rest) => if (skipSpace rest).isEmpty then some v else none
  | none => none

/-- There is an integer of too many digits outside of quotes, given whether the place is inside of
quotes or behind a point or an exponent's mark, and how many digits stand before it. -/
def hasLongInteger : (quoted broken : Bool) → (digits : Nat) → List Char → Bool
  | _, _, digits, [] => digits > maxIntegerDigits
  | true, _, _, '\\' :: _ :: rest => hasLongInteger true false 0 rest
  | true, _, _, c :: rest => hasLongInteger (c != '"') false 0 rest
  | false, broken, digits, c :: rest =>
    if c == '.' || c == 'e' || c == 'E' then hasLongInteger false true 0 rest
    else if c.isDigit then hasLongInteger false broken (if broken then 0 else digits + 1) rest
    else if digits > maxIntegerDigits then true
    else hasLongInteger (c == '"') (broken && (c == '+' || c == '-')) 0 rest

end Rostering.Json
