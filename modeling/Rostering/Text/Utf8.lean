/-!
# Text.Utf8 — text from bytes that may be damaged

`decodeUtf8` reads bytes as UTF-8. Where they are none, the longest run of bytes that might have
started a character is replaced by one mark, and reading goes on behind it.
-/

namespace Rostering.Text

/-- Stands for bytes that are no character. -/
def replacementMark : Char := Char.ofNat 0xFFFD

/-- The byte continues a character. -/
def isContinuation (b : UInt8) : Bool := 0x80 ≤ b && b < 0xC0

/-- The number of bytes behind a first byte, its own bits, and the bounds of the second byte; none
for a byte that starts no character. -/
def leadOf? (b : UInt8) : Option (Nat × Nat × UInt8 × UInt8) :=
  let n := b.toNat
  if n < 0x80 then some (0, n, 0, 0)
  else if n < 0xC2 then none
  else if n < 0xE0 then some (1, n % 0x20, 0x80, 0xBF)
  else if n < 0xF0 then
    some (2, n % 0x10, if n = 0xE0 then 0xA0 else 0x80, if n = 0xED then 0x9F else 0xBF)
  else if n < 0xF5 then
    some (3, n % 0x08, if n = 0xF0 then 0x90 else 0x80, if n = 0xF4 then 0x8F else 0xBF)
  else none

/-- The bytes behind a first byte that belong to its character, at most so many. -/
def tailOf (count : Nat) (low high : UInt8) : List UInt8 → List UInt8
  | [] => []
  | b :: rest =>
    if count = 0 || !(low ≤ b && b ≤ high) then []
    else b :: (rest.take (count - 1)).takeWhile isContinuation

/-- Reads bytes; fuel is their number. -/
def decodeFrom : (fuel : Nat) → List UInt8 → List Char
  | 0, _ => []
  | _ + 1, [] => []
  | fuel + 1, b :: rest =>
    match leadOf? b with
    | none => replacementMark :: decodeFrom fuel rest
    | some (count, bits, low, high) =>
      let tail := tailOf count low high rest
      let c :=
        if tail.length = count then
          Char.ofNat (tail.foldl (fun n b => n * 0x40 + b.toNat % 0x40) bits)
        else replacementMark
      c :: decodeFrom fuel (rest.drop tail.length)

def decodeUtf8 (bytes : List UInt8) : String := String.ofList (decodeFrom bytes.length bytes)

end Rostering.Text
