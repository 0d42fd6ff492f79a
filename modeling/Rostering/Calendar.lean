/-!
# Calendar — dates and moments

A `Date` is its distance in days from 1 January of year 1, so that stepping by days is addition
and the order of dates is the order of numbers. Year, month and day are a view of that number
(`Date.civil`), and `Date.ofCivil?` goes the other way. A `Moment` adds a time of day and, if it
is known, the distance from universal time. `Day` is what an index of days may hold: either one.

`Date.iso` and `Moment.text` write; `Date.ofIso?` and `Moment.ofIso?` read.
-/

namespace Rostering

/-! ## Years and months -/

def isLeapYear (year : Nat) : Bool :=
  year % 4 == 0 && (year % 100 != 0 || year % 400 == 0)

/-- Days from 1 January of year 1 to 1 January of `year`. -/
def daysBeforeYear (year : Nat) : Nat :=
  365 * (year - 1) + (year - 1) / 4 - (year - 1) / 100 + (year - 1) / 400

def monthLengths (year : Nat) : List Nat :=
  [31, if isLeapYear year then 29 else 28, 31, 30, 31, 30, 31, 31, 30, 31, 30, 31]

/-- Length of a month counted from one; zero for a number that names no month. -/
def monthLength (year month : Nat) : Nat :=
  if month = 0 then 0 else (monthLengths year)[month - 1]?.getD 0

/-- Days from the first of January to the first day of the month. -/
def daysBeforeMonth (year month : Nat) : Nat :=
  ((monthLengths year).take (month - 1)).foldl (· + ·) 0

/-- The year that holds day number `n`. -/
def yearOfDay (n : Nat) : Nat :=
  -- the quotient by the mean length of a year is at most one off, so its two neighbours decide
  let guess := n * 400 / 146097 + 1
  if n < daysBeforeYear guess then guess - 1
  else if daysBeforeYear (guess + 1) ≤ n then guess + 1
  else guess

/-- Splits a day of the year into month and day, given the months still ahead and the number of
the first of them. -/
def monthOfDay : List Nat → Nat → Nat → Nat × Nat
  | [], month, rest => (month, rest + 1)
  | length :: more, month, rest =>
    if rest < length then (month, rest + 1) else monthOfDay more (month + 1) (rest - length)

/-! ## Dates -/

/-- Number of days from 1 January of year 1 to the end of year 9999. -/
def calendarLength : Nat := 3652059

/-- A date of the years 1 to 9999, as days since 1 January of year 1. -/
structure Date where
  index : Nat
  inCalendar : index < calendarLength
  deriving DecidableEq

namespace Date

/-- The date that many days after 1 January of year 1, inside the calendar. -/
def ofIndex? (n : Nat) : Option Date :=
  if h : n < calendarLength then some ⟨n, h⟩ else none

/-- The date `n` days later. -/
def addDays? (d : Date) (n : Nat) : Option Date :=
  ofIndex? (d.index + n)

/-- The date of a year, month and day, if there is one. -/
def ofCivil? (year month day : Nat) : Option Date :=
  if 1 ≤ year ∧ year ≤ 9999 ∧ 1 ≤ day ∧ day ≤ monthLength year month then
    ofIndex? (daysBeforeYear year + daysBeforeMonth year month + (day - 1))
  else none

def civil (d : Date) : Nat × Nat × Nat :=
  let year := yearOfDay d.index
  (year, monthOfDay (monthLengths year) 1 (d.index - daysBeforeYear year))

/-- The Monday of the first week of a year: the week that holds the first Thursday. It is given as
a day number. -/
def firstMonday (year : Nat) : Nat :=
  let newYear := daysBeforeYear year
  if newYear % 7 > 3 then newYear - newYear % 7 + 7 else newYear - newYear % 7

/-- A year has a 53rd week when it begins on a Thursday, or on a Wednesday in a leap year. -/
def hasLongYear (year : Nat) : Bool :=
  daysBeforeYear year % 7 == 3 || (daysBeforeYear year % 7 == 2 && isLeapYear year)

/-- The date of a year, week and day of the week, all counted from one. -/
def ofWeek? (year week day : Nat) : Option Date :=
  if 1 ≤ year ∧ year ≤ 9999 ∧ 1 ≤ week ∧ (week ≤ 52 ∨ (week = 53 ∧ hasLongYear year))
      ∧ 1 ≤ day ∧ day ≤ 7 then
    ofIndex? (firstMonday year + (week - 1) * 7 + (day - 1))
  else none

end Date

/-! ## Digits -/

/-- A number in decimal digits, filled up with zeros on the left. -/
def padded (width n : Nat) : String :=
  let digits := Nat.toDigits 10 n
  String.ofList (List.replicate (width - digits.length) '0' ++ digits)

/-- Reads exactly `count` ASCII digits, continuing the number read so far. -/
def readDigits : (count : Nat) → (cs : List Char) → (soFar : Nat) → Option (Nat × List Char)
  | 0, cs, n => some (n, cs)
  | _ + 1, [], _ => none
  | count + 1, c :: cs, n =>
    if c.isDigit then readDigits count cs (10 * n + (c.toNat - '0'.toNat)) else none

def readChar (c : Char) : List Char → Option (List Char)
  | [] => none
  | d :: cs => if d = c then some cs else none

namespace Date

/-- A date as year, month and day joined by dashes. -/
def iso (d : Date) : String :=
  let (year, month, day) := d.civil
  padded 4 year ++ "-" ++ padded 2 month ++ "-" ++ padded 2 day

/-- Reads `YYYY-MM-DD`, `YYYYMMDD`, `YYYY-Www`, `YYYYWww`, `YYYY-Www-D` or `YYYYWwwD`. The text has
7, 8 or 10 bytes; in one of 10 bytes without dashes the last ones are not looked at. -/
def ofIso? (s : String) : Option Date := do
  let size := s.utf8ByteSize
  guard (size == 7 || size == 8 || size == 10)
  let (year, rest) ← readDigits 4 s.toList 0
  let dashed := rest.head? == some '-'
  let rest := if dashed then rest.tail else rest
  let skipDash := fun cs => if dashed then readChar '-' cs else some cs
  match rest with
  | 'W' :: rest =>
    let (week, rest) ← readDigits 2 rest 0
    if size == (if dashed then 8 else 7) then ofWeek? year week 1
    else
      let rest ← skipDash rest
      let (day, _) ← readDigits 1 rest 0
      ofWeek? year week day
  | rest =>
    let (month, rest) ← readDigits 2 rest 0
    let rest ← skipDash rest
    let (day, _) ← readDigits 2 rest 0
    ofCivil? year month day

end Date

/-! ## Moments -/

/-- A date with a time of day. `offset` is the distance from universal time in seconds, where it
is known. -/
structure Moment where
  date : Date
  hour : Nat
  minute : Nat
  second : Nat
  micro : Nat
  offset : Option Int
  deriving DecidableEq

namespace Moment

/-- A moment whose time of day exists. -/
def of? (date : Date) (hour minute second micro : Nat) (offset : Option Int) : Option Moment :=
  if hour < 24 ∧ minute < 60 ∧ second < 60 ∧ micro < 1000000 then
    some ⟨date, hour, minute, second, micro, offset⟩
  else none

/-- No hour, minute, second or part of one has passed. -/
def isMidnight (m : Moment) : Bool :=
  m.hour == 0 && m.minute == 0 && m.second == 0 && m.micro == 0

/-- Microseconds from the start of the calendar, in universal time if the offset is known. -/
def instant (m : Moment) : Int :=
  (Int.ofNat (((m.date.index * 24 + m.hour) * 60 + m.minute) * 60 + m.second)
    - m.offset.getD 0) * 1000000 + m.micro

/-- An offset as sign, hours and minutes, and seconds if there are any. -/
def offsetText (offset : Int) : String :=
  let size := offset.natAbs
  let seconds := if size % 60 = 0 then "" else ":" ++ padded 2 (size % 60)
  (if offset < 0 then "-" else "+") ++ padded 2 (size / 3600) ++ ":"
    ++ padded 2 (size / 60 % 60) ++ seconds

/-- Date and time with the given mark between them. Microseconds appear only if there are any. -/
def text (between : String) (m : Moment) : String :=
  let micros := if m.micro = 0 then "" else "." ++ padded 6 m.micro
  m.date.iso ++ between ++ padded 2 m.hour ++ ":" ++ padded 2 m.minute ++ ":" ++ padded 2 m.second
    ++ micros ++ (m.offset.map offsetText).getD ""

/-- The moment as date and time joined by a `T`. -/
def iso (m : Moment) : String := m.text "T"

/-- Microseconds from the digits of a fraction, of which six count. -/
def microsOfDigits (digits : List Char) : Nat :=
  let six := (digits ++ List.replicate 6 '0').take 6
  six.foldl (fun n c => 10 * n + (c.toNat - '0'.toNat)) 0

/-- Reads `Z`, or sign, hours and minutes joined by a colon. -/
def readOffset? : List Char → Option (Option Int)
  | [] => some none
  | ['Z'] => some (some 0)
  | sign :: cs => do
    guard (sign == '+' || sign == '-')
    let (hours, cs) ← readDigits 2 cs 0
    let cs ← readChar ':' cs
    let (minutes, cs) ← readDigits 2 cs 0
    guard (cs.isEmpty && hours < 24 && minutes < 60)
    let size := Int.ofNat (hours * 3600 + minutes * 60)
    some (some (if sign == '-' then -size else size))

/-- Reads `YYYY-MM-DDTHH:MM:SS`, with an optional fraction and offset. -/
def ofIso? (s : String) : Option Moment := do
  let date ← Date.ofIso? (String.ofList (s.toList.take 10))
  let cs := s.toList.drop 11
  let (hour, cs) ← readDigits 2 cs 0
  let cs ← readChar ':' cs
  let (minute, cs) ← readDigits 2 cs 0
  let cs ← readChar ':' cs
  let (second, cs) ← readDigits 2 cs 0
  let (fraction, cs) := match cs with
    | '.' :: cs => (cs.takeWhile Char.isDigit, cs.dropWhile Char.isDigit)
    | cs => ([], cs)
  let offset ← readOffset? cs
  of? date hour minute second (microsOfDigits fraction) offset

end Moment

/-! ## Days of an index -/

/-- A member of a range of days. -/
inductive Day where
  | date (d : Date)
  | moment (m : Moment)
  deriving DecidableEq

namespace Day

def toDate : Day → Date
  | .date d => d
  | .moment m => m.date

/-- Hour of the day; a plain date carries no time and counts as hour zero. -/
def hour : Day → Nat
  | .date _ => 0
  | .moment m => m.hour

/-- The date alone, or date and time joined by a `T`. -/
def iso : Day → String
  | .date d => d.iso
  | .moment m => m.iso

/-- The name of a day as a member: a moment at midnight is named like its date. -/
def label : Day → String
  | .date d => d.iso
  | .moment m => if m.isMidnight then m.date.iso else m.iso

/-- Microseconds from `a` to `b`, if the two can be compared: two dates, two moments without an
offset, or two moments with one. -/
def distance? : Day → Day → Option Int
  | .date a, .date b => some ((Int.ofNat b.index - a.index) * 86400000000)
  | .moment a, .moment b =>
    if a.offset.isSome = b.offset.isSome then some (b.instant - a.instant) else none
  | _, _ => none

/-- The same time of day, `n` days later. -/
def addDays? (n : Nat) : Day → Option Day
  | .date d => (d.addDays? n).map .date
  | .moment m => (m.date.addDays? n).map fun d => .moment { m with date := d }

/-- Days from `first` in whole steps up to `last`; empty if the two cannot be compared or are in
the wrong order. -/
def through (first last : Day) : List Day :=
  match first.distance? last with
  | none => []
  | some distance =>
    if distance < 0 then []
    else (List.range (distance.toNat / 86400000000 + 1)).filterMap fun n => first.addDays? n

end Day

end Rostering
