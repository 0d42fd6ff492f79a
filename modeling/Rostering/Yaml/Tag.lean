import Rostering.Decimal.Read
import Rostering.Text.Case
import Rostering.Yaml.Cursor

/-!
# Yaml.Tag — what kind of value a node stands for

A node may carry a tag. One without stands for what its form says: a sequence, a mapping, or, if
it is a plain scalar, whatever its text looks like (`Tag.ofPlain`). A plain scalar is a truth
value, a number, null, a date or time, a merge mark or a default mark if the whole of it has that
form, and otherwise a text.
-/

namespace Rostering.Yaml

/-- Kinds of values. -/
inductive Tag where
  | null
  | bool
  | int
  | float
  | timestamp
  | binary
  | str
  | seq
  | map
  | set
  | pairs
  | merge
  | default
  | unknown
  deriving DecidableEq

namespace Tag

/-- What all tags of the language itself start with. -/
def stem : String := "tag:yaml.org,2002:"

def ofText (text : String) : Tag :=
  let names : List (String × Tag) :=
    [("null", .null), ("bool", .bool), ("int", .int), ("float", .float),
      ("timestamp", .timestamp), ("binary", .binary), ("str", .str), ("seq", .seq), ("map", .map),
      ("set", .set), ("omap", .pairs), ("pairs", .pairs), ("merge", .merge), ("value", .default)]
  match names.find? fun (name, _) => stem ++ name == text with
  | some (_, tag) => tag
  | none => .unknown

/-! ## Forms of plain scalars -/

/-- Digits with underscores among them, the first a digit of its own kind. -/
def isGrouped (first : Char → Bool) (digit : Char → Bool) : List Char → Bool
  | [] => false
  | c :: cs => first c && cs.all fun d => d == '_' || digit d

def isDecimal (c : Char) : Bool := c.isDigit

/-- A digit or an underscore. -/
def isDecimalGroup (c : Char) : Bool := c.isDigit || c == '_'

/-- A part of a number to the base of sixty: one digit, or two of which the first is below six. -/
def isSixtieth : List Char → Bool
  | [a] => a.isDigit
  | [a, b] => '0' ≤ a && a ≤ '5' && b.isDigit
  | _ => false

def colonParts (cs : List Char) : List (List Char) :=
  ((String.ofList cs).splitOn ":").map String.toList

/-- A number to the base of sixty: parts joined by colons, at least two. -/
def isSexagesimal (first : Char → Bool) (cs : List Char) : Bool :=
  match colonParts cs with
  | whole :: part :: parts => isGrouped first isDecimal whole && (part :: parts).all isSixtieth
  | _ => false

def unsigned (cs : List Char) : List Char := (readSign cs).2

/-- Whole numbers: binary, octal, hexadecimal, decimal or to the base of sixty. -/
def isInt (cs : List Char) : Bool :=
  let body := unsigned cs
  match body with
  | '0' :: 'b' :: digits =>
    !digits.isEmpty && digits.all fun c => c == '0' || c == '1' || c == '_'
  | '0' :: 'x' :: digits =>
    !digits.isEmpty && digits.all fun c => c == '_' || c.isDigit || ('a' ≤ c && c ≤ 'f')
      || ('A' ≤ c && c ≤ 'F')
  | ['0'] => true
  | '0' :: digits => digits.all fun c => c == '_' || ('0' ≤ c && c ≤ '7')
  | body =>
    isGrouped isDecimal isDecimal body
      || isSexagesimal (fun c => '1' ≤ c && c ≤ '9') body

def isExponent : List Char → Bool
  | [] => true
  | e :: sign :: digits =>
    (e == 'e' || e == 'E') && (sign == '+' || sign == '-') && !digits.isEmpty
      && digits.all Char.isDigit
  | _ => false

/-- Digits behind a point, with an exponent if there is one. -/
def isFraction (cs : List Char) : Bool := isExponent (cs.dropWhile isDecimalGroup)

/-- Numbers with a point, and the words for infinity and for what is not a number. -/
def isFloat (cs : List Char) : Bool :=
  let body := unsigned cs
  let whole := body.takeWhile (· != '.')
  match body.dropWhile (· != '.') with
  | '.' :: part =>
    if whole.isEmpty then
      ["inf", "Inf", "INF"].contains (String.ofList part)
        || (body == cs && ["nan", "NaN", "NAN"].contains (String.ofList part))
        || (body == cs && (part.head?.map Char.isDigit).getD false && isFraction part)
    else
      (isGrouped isDecimal isDecimal whole && isFraction part)
        || (isSexagesimal isDecimal whole && part.all isDecimalGroup)
  | _ => false

def truthWords : List String :=
  ["yes", "Yes", "YES", "no", "No", "NO", "true", "True", "TRUE", "false", "False", "FALSE",
    "on", "On", "ON", "off", "Off", "OFF"]

/-- Null, which may also be written as nothing. -/
def nullWords : List String := ["", "~", "null", "Null", "NULL"]

end Tag

/-! ## Dates and times -/

/-- A written date, with a time of day if there is one. Its parts need not exist. -/
structure Timestamp where
  year : Nat
  month : Nat
  day : Nat
  time : Option (Nat × Nat × Nat)
  fraction : List Char
  offset : Option Int

namespace Timestamp

def takeTwo (cs : List Char) : Option (Nat × List Char) :=
  match cs with
  | a :: b :: rest =>
    if a.isDigit && b.isDigit then some (digitsValue [a, b], rest)
    else if a.isDigit then some (digitsValue [a], b :: rest)
    else none
  | [a] => if a.isDigit then some (digitsValue [a], []) else none
  | [] => none

def takeExactly (count : Nat) (cs : List Char) : Option (Nat × List Char) :=
  let digits := cs.take count
  if digits.length == count && digits.all Char.isDigit then
    some (digitsValue digits, cs.drop count)
  else none

def takeMark (mark : Char) : List Char → Option (List Char)
  | c :: rest => if c == mark then some rest else none
  | [] => none

/-- Takes a zone: the letter for universal time, or a signed distance from it in hours and
perhaps minutes. Nothing may follow it. -/
def takeZone (cs : List Char) : Option (Option Int) :=
  match cs.dropWhile fun c => c == ' ' || c == '\t' with
  | [] => if cs.isEmpty then some none else none
  | ['Z'] => some (some 0)
  | sign :: rest => do
    guard (sign == '+' || sign == '-')
    let (hours, rest) ← takeTwo rest
    let minutes ← match rest with
      | [] => some 0
      | ':' :: rest =>
        match takeExactly 2 rest with
        | some (n, []) => some n
        | _ => none
      | _ => none
    let size := Int.ofNat (hours * 3600 + minutes * 60)
    some (some (if sign == '-' then -size else size))

def takeTime (cs : List Char) : Option ((Nat × Nat × Nat) × List Char × Option Int) := do
  let rest ← match cs with
    | c :: rest =>
      if c == 'T' || c == 't' then some rest
      else if c == ' ' || c == '\t' then some (rest.dropWhile fun c => c == ' ' || c == '\t')
      else none
    | [] => none
  let (hour, rest) ← takeTwo rest
  let rest ← takeMark ':' rest
  let (minute, rest) ← takeExactly 2 rest
  let rest ← takeMark ':' rest
  let (second, rest) ← takeExactly 2 rest
  let (fraction, rest) := match rest with
    | '.' :: rest => spanDigits rest
    | rest => ([], rest)
  let offset ← takeZone rest
  some ((hour, minute, second), fraction, offset)

/-- Reads a date, or a date and a time. A date alone has two digits for month and day if it is to
be `strict`. -/
def ofText? (strict : Bool) (text : String) : Option Timestamp := do
  let (year, rest) ← takeExactly 4 text.toList
  let rest ← takeMark '-' rest
  let (month, rest) ← takeTwo rest
  let rest ← takeMark '-' rest
  let (day, rest) ← takeTwo rest
  if rest.isEmpty then
    guard (!strict || text.length == 10)
    some ⟨year, month, day, none, [], none⟩
  else
    let (time, fraction, offset) ← takeTime rest
    some ⟨year, month, day, some time, fraction, offset⟩

end Timestamp

namespace Tag

def ofPlain (text : String) : Tag :=
  let cs := text.toList
  if truthWords.contains text then .bool
  else if isFloat cs then .float
  else if isInt cs then .int
  else if text == "<<" then .merge
  else if nullWords.contains text then .null
  else if (Timestamp.ofText? true text).isSome then .timestamp
  else if text == "=" then .default
  else .str

end Tag

end Rostering.Yaml
