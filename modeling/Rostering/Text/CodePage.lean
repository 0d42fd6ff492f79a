import Rostering.Decimal.Read

/-!
# Text.CodePage — text with one byte to a character

A code page says which character a byte stands for. Up to some row of sixteen bytes it agrees with
the beginning of Unicode, and from there on it lists its characters.
-/

namespace Rostering.Text

/-- A way to read bytes one by one. -/
structure CodePage where
  names : List String
  /-- The last rows of sixteen bytes, with four hexadecimal digits for each character; `FFFD` is
  none. -/
  rows : List String

namespace CodePage

/-- The number of a character that is none. -/
def noCharacter : Nat := 0xFFFD

def hexValue (digits : List Char) : Nat :=
  digits.foldl (fun n c => 16 * n + (baseDigit? 16 c).getD 0) 0

/-- The first byte that is listed. -/
def firstListed (p : CodePage) : Nat := 256 - 16 * p.rows.length

def char? (p : CodePage) (byte : Nat) : Option Char :=
  if byte < p.firstListed then some (Char.ofNat byte)
  else
    let place := byte - p.firstListed
    let row := (p.rows[place / 16]?.getD "").toList
    let code := hexValue ((row.drop (4 * (place % 16))).take 4)
    if code = noCharacter then none else some (Char.ofNat code)

/-- The text of bytes, if each of them is a character. -/
def decode? (p : CodePage) (bytes : List UInt8) : Option String :=
  (bytes.mapM fun b => p.char? b.toNat).map String.ofList

end CodePage

end Rostering.Text
