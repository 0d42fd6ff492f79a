import Rostering.Text.CodePages

/-!
# Text.Encoding — encodings by name

An encoding reads bytes as a text, or fails. It is known by many names, in which case, blanks and
punctuation count for nothing (`Encoding.ofName?`).
-/

namespace Rostering.Text

/-- Ways to read bytes as a text. -/
inductive Encoding where
  /-- A mark for the order of bytes may be dropped from the start. -/
  | utf8 (dropsMark : Bool)
  /-- Units of two bytes, the low one first or last. -/
  | utf16 (lowFirst : Bool)
  /-- Units of two or four bytes whose order a mark at the start has to tell. -/
  | marked
  /-- Characters of ASCII. A plus sign starts others, which are not read. -/
  | utf7
  | page (p : CodePage)

namespace Encoding

/-! ## Names -/

/-- A name in which runs of anything but letters, digits and points are underscores, and are left
out at the ends. -/
def plainName (name : String) : String :=
  let isKept (c : Char) : Bool := c.isAlphanum || c == '.'
  let step (s : List Char × Bool) (c : Char) : List Char × Bool :=
    if isKept c then
      (c.toLower :: (if s.2 && !s.1.isEmpty then '_' :: s.1 else s.1), false)
    else (s.1, true)
  String.ofList (name.toList.foldl step ([], false)).1.reverse

/-- Names of encodings with several bytes to a character. -/
def wideNames : List (List String × Encoding) :=
  [(["utf_8", "u8", "utf", "utf8", "utf8_ucs2", "utf8_ucs4", "cp65001"], utf8 false),
    (["utf_8_sig"], utf8 true),
    (["utf_16_le", "unicodelittleunmarked", "utf_16le"], utf16 true),
    (["utf_16_be", "unicodebigunmarked", "utf_16be"], utf16 false),
    (["utf_16", "u16", "utf16", "utf_32", "u32", "utf32"], marked),
    (["utf_7", "u7", "utf7", "unicode_1_1_utf_7"], utf7)]

def ofName? (name : String) : Option Encoding :=
  let plain := plainName name
  let dotless := plain.map fun c => if c == '.' then '_' else c
  let goesBy (names : List String) : Bool := names.contains plain || names.contains dotless
  match wideNames.find? fun e => goesBy e.1 with
  | some e => some e.2
  | none => (codePages.find? fun p => goesBy p.names).map page

/-! ## Reading -/

/-- Pairs of bytes as numbers; nothing if one is left over. -/
def units? (lowFirst : Bool) : List UInt8 → Option (List Nat)
  | [] => some []
  | [_] => none
  | a :: b :: rest =>
    let unit := if lowFirst then b.toNat * 256 + a.toNat else a.toNat * 256 + b.toNat
    (units? lowFirst rest).map (unit :: ·)

/-- The unit starts a pair that stands for one character. -/
def isHigh (unit : Nat) : Bool := 0xD800 ≤ unit && unit < 0xDC00

/-- The unit ends such a pair. -/
def isLow (unit : Nat) : Bool := 0xDC00 ≤ unit && unit < 0xE000

/-- The characters of units; `high` is the first of a pair whose second is awaited. -/
def ofUnits? : (high : Option Nat) → List Nat → Option (List Char)
  | none, [] => some []
  | some _, [] => none
  | none, u :: rest =>
    if isHigh u then ofUnits? (some u) rest
    else if isLow u then none
    else (ofUnits? none rest).map (Char.ofNat u :: ·)
  | some h, u :: rest =>
    if isLow u then
      (ofUnits? none rest).map
        (Char.ofNat (0x10000 + (h - 0xD800) * 0x400 + (u - 0xDC00)) :: ·)
    else none

/-- A text without the mark for the order of bytes at its start. -/
def dropMark (text : String) : String :=
  match text.toList with
  | c :: rest => if c = Char.ofNat 0xFEFF then String.ofList rest else text
  | [] => text

/-- What the bytes of a text stand for in an encoding. -/
def reread? (e : Encoding) (text : String) : Option String :=
  let bytes := text.toUTF8.toList
  match e with
  | utf8 dropsMark => some (if dropsMark then dropMark text else text)
  | utf16 lowFirst => do
    let units ← units? lowFirst bytes
    return String.ofList (← ofUnits? none units)
  -- the bytes of a text hold no mark for the order of units
  | marked => if bytes.isEmpty then some "" else none
  | utf7 => if text.toList.all fun c => c.toNat < 128 && c != '+' then some text else none
  | page p => p.decode? bytes

end Encoding

end Rostering.Text
