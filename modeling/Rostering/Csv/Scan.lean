/-!
# Csv.Scan — separated text as records

`scan` cuts a text into records and these into fields. A field in double quotes may hold
separators and line ends, and a quote in it is written twice; a quote elsewhere is a character like
any other. Lines that are empty or blank hold no record, and a comment runs to the end of its line.
Fields are separated by one character or by runs of blanks.

The scan moves over the text by an index. Most steps take one character (`Scan.step`). A carriage
return ends its line only when the next character is seen, which is then read once more, and a line
that begins with blanks is read again from its start once it turns out to hold something.
-/

namespace Rostering.Csv

/-- What separates fields. -/
inductive Separator where
  | char (c : Char)
  /-- Blanks and tabs, any number of them. -/
  | blanks
  deriving DecidableEq

/-- How a text is to be read. -/
structure Dialect where
  separator : Separator
  comment : Option Char
  /-- Blanks in front of a field do not belong to it. -/
  trimsStart : Bool
  /-- Lines to leave out, counted from zero. -/
  skips : Nat → Bool

namespace Dialect

def isGap (c : Char) : Bool := c == ' ' || c == '\t'

def separates (d : Dialect) (c : Char) : Bool :=
  match d.separator with
  | .char s => c == s
  | .blanks => isGap c

/-- A blank that separates nothing. -/
def isIdle (d : Dialect) (c : Char) : Bool := isGap c && d.separator != .char c

def startsComment (d : Dialect) (c : Char) : Bool := d.comment == some c && c.toNat < 128

end Dialect

/-- Where a scan stands. -/
inductive Place where
  | recordStart
  /-- Only blanks so far. -/
  | blankLine
  /-- In blanks that separate fields. -/
  | betweenFields
  | fieldStart
  | field
  | quoted
  /-- Behind a quote inside quotes, which may be the last or the first of two. -/
  | quoteSeen
  /-- In a comment behind fields. -/
  | fieldComment
  /-- In a comment that fills its line. -/
  | lineComment
  /-- Behind a carriage return that ends a record. -/
  | lineReturn
  /-- Behind a carriage return that ends a line without a record. -/
  | idleReturn
  /-- In a line to leave out, at a field, in one, in quotes and behind a quote. -/
  | skippedStart
  | skippedField
  | skippedQuoted
  | skippedQuote
  deriving DecidableEq

/-- A scan so far; characters, fields and records are latest first. -/
structure Scan where
  place : Place
  line : Nat
  /-- Reading goes back to no place before this one. -/
  mark : Nat
  chars : List Char
  fields : List String
  records : List (List String)

namespace Scan

def start : Scan := ⟨.recordStart, 0, 0, [], [], []⟩

def goTo (s : Scan) (place : Place) : Scan := { s with place := place }

def push (s : Scan) (c : Char) : Scan := { s with chars := c :: s.chars }

/-- Ends the field, whose text ends at a null character. -/
def endField (s : Scan) : Scan :=
  let text := s.chars.reverse.takeWhile (· != Char.ofNat 0)
  { s with chars := [], fields := String.ofList text :: s.fields }

def endLine (s : Scan) (next : Place) : Scan := { s with place := next, line := s.line + 1 }

def endRecord (s : Scan) (next : Place) : Scan :=
  { s with place := next, line := s.line + 1, fields := [], records := s.fields.reverse :: s.records }

/-! ## One character -/

/-- Ends a field at a line end, a separator or a comment; there is nothing to end at another
character. -/
def closeField? (d : Dialect) (s : Scan) (c : Char) : Option Scan :=
  if c == '\n' then some (s.endField.endRecord .recordStart)
  else if c == '\r' then some (s.endField.goTo .lineReturn)
  else if d.separates c then
    some (s.endField.goTo (if d.separator == .blanks then .betweenFields else .fieldStart))
  else none

/-- Takes a character that a field may start with. -/
def atFieldStart (d : Dialect) (s : Scan) (c : Char) : Scan :=
  if c == '"' then s.goTo .quoted
  else if c == ' ' && d.trimsStart && d.separator != .blanks then s.goTo .fieldStart
  else if d.separator == .blanks && Dialect.isGap c then s.goTo .betweenFields
  else
    match s.closeField? d c with
    | some s => s
    | none =>
      if d.startsComment c then s.endField.goTo .fieldComment else (s.push c).goTo .field

def inField (d : Dialect) (s : Scan) (c : Char) : Scan :=
  match s.closeField? d c with
  | some s => s
  | none => if d.startsComment c then s.endField.goTo .fieldComment else s.push c

def behindQuote (d : Dialect) (s : Scan) (c : Char) : Scan :=
  if c == '"' then (s.push c).goTo .quoted
  else (s.closeField? d c).getD ((s.push c).goTo .field)

def betweenFields (d : Dialect) (s : Scan) (c : Char) : Scan :=
  if c == '\n' then s.endRecord .recordStart
  else if c == '\r' then s.goTo .lineReturn
  else if d.startsComment c then s.goTo .fieldComment
  else if Dialect.isGap c then s.goTo .betweenFields
  else s.atFieldStart d c

def atRecordStart (d : Dialect) (s : Scan) (c : Char) : Scan :=
  if d.skips s.line then
    if c == '"' then s.goTo .skippedQuoted
    else if c == '\n' then s.endLine .recordStart
    else s.goTo .skippedField
  else if c == '\n' then s.endLine .recordStart
  else if c == '\r' then s.endLine .idleReturn
  else if d.startsComment c then s.goTo .lineComment
  else if d.isIdle c then s.goTo .blankLine
  else s.atFieldStart d c

/-- Takes a character of a line to leave out, outside of quotes; `other` is the place behind a
character that means nothing there. -/
def leaveOut (d : Dialect) (s : Scan) (c : Char) (quote other : Place) : Scan :=
  if c == '\n' then s.endLine .recordStart
  else if c == '\r' then s.endLine .idleReturn
  else if c == '"' then s.goTo quote
  else if d.separates c then s.goTo .skippedStart
  else s.goTo other

/-- Where a line starts again that has only blanks before the index: behind the last line feed, but
not before the mark. -/
def lineStart (text : Array Char) (mark : Nat) : (i : Nat) → Nat
  | 0 => if text[0]? == some '\n' then 1 else 0
  | i + 1 =>
    if text[i + 1]? == some '\n' then i + 2
    else if i + 1 ≤ mark then i + 1
    else lineStart text mark i

/-- Takes a character behind blanks at the start of a line, and tells where to go on. -/
def inBlankLine (d : Dialect) (text : Array Char) (i : Nat) (s : Scan) (c : Char) : Scan × Nat :=
  if c == '\n' then (s.endLine .recordStart, i + 1)
  else if c == '\r' then (s.endLine .idleReturn, i + 1)
  else if d.separator == .blanks then (s.betweenFields d c, i + 1)
  else if d.isIdle c then (s, i + 1)
  else (s.goTo .fieldStart, lineStart text s.mark i)

/-- Takes a character behind a carriage return that ends a record, and tells where to go on. -/
def behindReturn (d : Dialect) (i : Nat) (s : Scan) (c : Char) : Scan × Nat :=
  if c == '\n' then (s.endRecord .recordStart, i + 1)
  else if d.separates c then
    if d.separator == .blanks then (s.endRecord .betweenFields, i + 1)
    else ((s.endRecord .fieldStart).endField, i + 1)
  else ({ s.endRecord .recordStart with mark := i }, i)

/-- Takes the character at an index, and tells at which index to go on. -/
def step (d : Dialect) (text : Array Char) (i : Nat) (s : Scan) (c : Char) : Scan × Nat :=
  match s.place with
  | .recordStart => (s.atRecordStart d c, i + 1)
  | .blankLine => s.inBlankLine d text i c
  | .betweenFields => (s.betweenFields d c, i + 1)
  | .fieldStart => (s.atFieldStart d c, i + 1)
  | .field => (s.inField d c, i + 1)
  | .quoted => (if c == '"' then s.goTo .quoteSeen else s.push c, i + 1)
  | .quoteSeen => (s.behindQuote d c, i + 1)
  | .fieldComment =>
    (if c == '\n' then s.endRecord .recordStart
      else if c == '\r' then s.goTo .lineReturn else s, i + 1)
  | .lineComment =>
    (if c == '\n' then s.endLine .recordStart
      else if c == '\r' then s.endLine .idleReturn else s, i + 1)
  | .lineReturn => s.behindReturn d i c
  | .idleReturn => (s.goTo .recordStart, if c == '\n' || d.separates c then i + 1 else i)
  | .skippedStart => (s.leaveOut d c .skippedQuoted .skippedField, i + 1)
  | .skippedField => (s.leaveOut d c .skippedField .skippedField, i + 1)
  | .skippedQuoted => (if c == '"' then s.goTo .skippedQuote else s, i + 1)
  | .skippedQuote => (s.leaveOut d c .skippedQuoted .skippedField, i + 1)

/-- Scans from an index to the end of the text. -/
def run (d : Dialect) (text : Array Char) : (fuel i : Nat) → Scan → Scan
  | 0, _, s => s
  | fuel + 1, i, s =>
    match text[i]? with
    | none => s
    | some c =>
      let (s, next) := s.step d text i c
      run d text fuel next s

/-- Ends a scan: the records, first one first, and whether a quote was left open. -/
def finish (s : Scan) : List (List String) × Bool :=
  match s.place with
  | .field | .fieldStart | .quoteSeen => ((s.endField.endRecord .recordStart).records.reverse, false)
  | .lineReturn | .fieldComment | .betweenFields =>
    ((s.endRecord .recordStart).records.reverse, false)
  | .quoted => (s.records.reverse, true)
  | _ => (s.records.reverse, false)

end Scan

/-- A text without the mark that tells the order of bytes. -/
def withoutMark (text : String) : List Char :=
  match text.toList with
  | c :: rest => if c == Char.ofNat 0xFEFF then rest else c :: rest
  | [] => []

/-- The records of a text, and whether it ends inside of quotes. Going back costs at most one more
reading of the text for each of its lines, which bounds the steps. -/
def scan (d : Dialect) (text : String) : List (List String) × Bool :=
  let chars := (withoutMark text).toArray
  (Scan.start.run d chars (4 * ((chars.size + 1) * (chars.size + 1))) 0).finish

end Rostering.Csv
