import Rostering.Decimal.Read
import Rostering.Decimal.Shortest
import Rostering.Text.Printable
import Rostering.Value.Basic

/-!
# Value.Text — values inside messages

Messages show a value in one of two ways. `Value.quoted` keeps it recognisable: texts stand in
quotes, dates are spelled out by their parts. `Value.shown` is for reading: a text stands for
itself, a date is written as a date; inside a list or a mapping everything is quoted.

Neither of them looks at the size of numbers. Where a text is really made of a value, the value is
first asked whether it has one (`Value.hasText`): a whole number of very many digits has none, and
nor has anything that holds such a number.
-/

namespace Rostering

/-! ## Quoted text -/

/-- A code point in hexadecimal digits of fixed number. -/
def hexDigits (width n : Nat) : String :=
  let digits := Nat.toDigits 16 n
  String.ofList (List.replicate (width - digits.length) '0' ++ digits)

/-- One character between quotes. The quote itself, a backslash and whatever has no visible form
is escaped. -/
def quotedChar (quote c : Char) : String :=
  if c = quote ∨ c = '\\' then String.ofList ['\\', c]
  else if c = '\n' then "\\n"
  else if c = '\r' then "\\r"
  else if c = '\t' then "\\t"
  else if Text.isPrintable c then String.singleton c
  else if c.toNat < 0x100 then "\\x" ++ hexDigits 2 c.toNat
  else if c.toNat < 0x10000 then "\\u" ++ hexDigits 4 c.toNat
  else "\\U" ++ hexDigits 8 c.toNat

/-- A text in single quotes, or in double ones if it holds single quotes only. -/
def quotedText (s : String) : String :=
  let quote := if s.contains '\x27' && !s.contains '"' then '"' else '\x27'
  String.singleton quote ++ String.join (s.toList.map (quotedChar quote)) ++ String.singleton quote

def quotedByte (quote : Char) (b : UInt8) : String :=
  let c := Char.ofNat b.toNat
  if b < 0x80 then quotedChar quote c else "\\x" ++ hexDigits 2 b.toNat

def quotedBytes (bs : List UInt8) : String :=
  let quote := if bs.contains 39 && !bs.contains 34 then '"' else '\x27'
  "b" ++ String.singleton quote ++ String.join (bs.map (quotedByte quote))
    ++ String.singleton quote

/-! ## Quoted days -/

def callText (name : String) (parts : List String) : String :=
  name ++ "(" ++ String.intercalate ", " parts ++ ")"

/-- An offset as days and seconds; the seconds are never negative. -/
def quotedOffset (offset : Int) : String :=
  if offset = 0 then "datetime.timezone.utc"
  else
    let days := offset.ediv 86400
    let seconds := offset.emod 86400
    let parts := (if days = 0 then [] else ["days=" ++ toString days])
      ++ (if seconds = 0 then [] else ["seconds=" ++ toString seconds])
    callText "datetime.timezone" [callText "datetime.timedelta" parts]

/-- A day as a call with its parts. Seconds and smaller parts appear if they are needed. -/
def quotedDay : Day → String
  | .date d =>
    let (year, month, day) := d.civil
    callText "datetime.date" ([year, month, day].map toString)
  | .moment m =>
    let (year, month, day) := m.date.civil
    let small := if m.micro ≠ 0 then [m.second, m.micro] else if m.second ≠ 0 then [m.second] else []
    let zone := match m.offset with
      | none => []
      | some offset => ["tzinfo=" ++ quotedOffset offset]
    callText "datetime.datetime"
      (([year, month, day, m.hour, m.minute] ++ small).map toString ++ zone)

/-- A moment from a column of moments, as a call with its text and its zone. -/
def quotedStamp (m : Moment) : String :=
  let distance := (m.offset.map Moment.offsetText).getD ""
  let zone := match m.offset with
    | none => []
    | some 0 => ["tz='UTC'"]
    | some _ => ["tz='UTC" ++ distance ++ "'"]
  let text := { m with offset := none }.text " " ++ String.ofList (distance.toList.filter (· != ':'))
  callText "Timestamp" (("'" ++ text ++ "'") :: zone)

/-! ## Values -/

namespace Value

mutual

def quoted : Value → String
  | .null => "None"
  | .bool b => if b then "True" else "False"
  | .int n => toString n
  | .float x => plainFloat.text x
  | .str s => quotedText s
  | .bytes bs => quotedBytes bs
  | .day d => quotedDay d
  | .noMoment => "NaT"
  | .list xs => "[" ++ String.intercalate ", " (quotedItems xs) ++ "]"
  | .tuple [x] => "(" ++ quoted x ++ ",)"
  | .tuple xs => "(" ++ String.intercalate ", " (quotedItems xs) ++ ")"
  | .set [] => "set()"
  | .set xs => "\x7b" ++ String.intercalate ", " (quotedItems xs) ++ "\x7d"
  | .map es => "\x7b" ++ String.intercalate ", " (quotedEntries es) ++ "\x7d"
  | .table columns rows =>
    "[" ++ String.intercalate ", " (quotedItems columns) ++ "]" ++ String.join (quotedRows rows)
  | .again isMap => if isMap then "\x7b...\x7d" else "[...]"
  | .reader => "<" ++ typeName .reader ++ ">"

def quotedItems : List Value → List String
  | [] => []
  | x :: xs => quoted x :: quotedItems xs

/-- Rows of a table spelled out, each on a line. -/
def quotedRows : List (List Value) → List String
  | [] => []
  | row :: rows => ("\n" ++ String.intercalate ", " (quotedItems row)) :: quotedRows rows

def quotedEntries : List (Value × Value) → List String
  | [] => []
  | (k, v) :: es => (quoted k ++ ": " ++ quoted v) :: quotedEntries es

end

def shown : Value → String
  | .str s => s
  | .day (.date d) => d.iso
  | .day (.moment m) => m.text " "
  | v => quoted v

/-- The name of a value as a member of an index: days are named by their date, and by their time
too unless it is midnight. -/
def label : Value → String
  | .day d => d.label
  | v => shown v

end Value

/-! ## Values without a text -/

/-- Whole numbers of this size on are not written in decimal digits, which would be too many. They
may still be read in another base. -/
def integerLimit : Nat := tenTo maxIntegerDigits

namespace Value

mutual

/-- The value can be written as a text: no whole number anywhere in it is too long. -/
def hasText : Value → Bool
  | .int n => n.natAbs < integerLimit
  | .list xs | .tuple xs | .set xs => haveText xs
  | .map es => entriesHaveText es
  | .table columns rows => haveText columns && rowsHaveText rows
  | _ => true

/-- Each of some values can be written. -/
def haveText : List Value → Bool
  | [] => true
  | x :: xs => hasText x && haveText xs

/-- Each cell of some rows can be written. -/
def rowsHaveText : List (List Value) → Bool
  | [] => true
  | row :: rows => haveText row && rowsHaveText rows

/-- Each key and each value of some entries can be written. -/
def entriesHaveText : List (Value × Value) → Bool
  | [] => true
  | (k, v) :: es => hasText k && hasText v && entriesHaveText es

end

end Value

/-! ## Columns -/

namespace Value

def isMomentCell : Value → Bool
  | .day (.moment _) | .noMoment => true
  | _ => false

/-- The distance from universal time of a moment; it may be unknown. -/
def zone? : Value → Option (Option Int)
  | .day (.moment m) => some m.offset
  | _ => none

/-- The moments among some cells have one distance from universal time, known or not. -/
def sharesZone (cells : List Value) : Bool := (cells.filterMap zone?).eraseDups.length ≤ 1

/-- Cells of a column spelled out. A column of moments shows them in a form of its own. -/
def quotedCells (cells : List Value) : List String :=
  let isStamped := cells.all isMomentCell && sharesZone cells
  cells.map fun
    | .day (.moment m) => if isStamped then quotedStamp m else quoted (.day (.moment m))
    | v => quoted v

end Value

def quotedTexts (l : List String) : String := Value.quoted (Value.ofTexts l)

/-- Texts in ascending order of their code points. -/
def sortedTexts (l : List String) : List String := l.mergeSort fun a b => !(b < a)

end Rostering
