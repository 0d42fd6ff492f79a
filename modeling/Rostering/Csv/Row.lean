import Rostering.Text.Pattern.Basic

/-!
# Csv.Row — lines as rows

Where the separator is a character of any script, or a pattern, a text is cut line by line. With a
character, fields may stand in double quotes, which then have to be closed in front of a separator
or a line end (`markedRows`). With a pattern, quotes are nothing special (`patternRows`).

Rows are read one after the other, so that a fault counts only if reading gets as far as it.
-/

namespace Rostering.Csv

/-- The fields of a row; what a pattern leaves out is no text. -/
abbrev Row := List (Option String)

/-- The rows of a text, up to its end or to where it cannot be read. -/
structure Rows where
  rows : List Row
  broken : Bool

/-! ## Lines -/

/-- The lines of a text with their ends, given the line so far, latest character first. -/
def linesFrom : (line : List Char) → List Char → List (List Char)
  | line, '\r' :: '\n' :: rest => ('\n' :: '\r' :: line).reverse :: linesFrom [] rest
  | line, c :: rest =>
    if c = '\n' ∨ c = '\r' then (c :: line).reverse :: linesFrom [] rest
    else linesFrom (c :: line) rest
  | [], [] => []
  | line, [] => [line.reverse]

def textLines (text : String) : List String := (linesFrom [] text.toList).map String.ofList

/-! ## Fields between characters -/

/-- How fields are marked. -/
structure Marks where
  separator : Char
  /-- Blanks in front of a field do not belong to it. -/
  trimsStart : Bool
  /-- Nothing may follow a closing quote, and every quote has to be closed. -/
  strict : Bool

/-- Where the reading of a row stands. -/
inductive Spot where
  | rowStart
  | fieldStart
  | field
  | quoted
  | quoteSeen
  | lineEnd
  deriving DecidableEq

/-- A row that is partly read, latest character and field first. -/
structure RowScan where
  spot : Spot
  chars : List Char
  fields : Row

namespace RowScan

/-- Nothing read yet. -/
def start : RowScan := ⟨.rowStart, [], []⟩

def save (s : RowScan) (spot : Spot) : RowScan :=
  ⟨spot, [], some (String.ofList s.chars.reverse) :: s.fields⟩

def push (s : RowScan) (c : Char) (spot : Spot) : RowScan :=
  { s with spot := spot, chars := c :: s.chars }

/-- Ends a field at a line end or a separator. -/
def close? (m : Marks) (s : RowScan) (c : Char) : Option RowScan :=
  if c = '\n' ∨ c = '\r' then some (s.save .lineEnd)
  else if c = m.separator then some (s.save .fieldStart)
  else none

/-- Takes a character that a field may start with. -/
def atFieldStart (m : Marks) (s : RowScan) (c : Char) : RowScan :=
  if c = '"' then { s with spot := .quoted }
  else if c = ' ' && m.trimsStart then { s with spot := .fieldStart }
  else (s.close? m c).getD (s.push c .field)

def step? (m : Marks) (s : RowScan) (c : Char) : Option RowScan :=
  match s.spot with
  | .rowStart =>
    some (if c = '\n' ∨ c = '\r' then { s with spot := .lineEnd } else s.atFieldStart m c)
  | .fieldStart => some (s.atFieldStart m c)
  | .field => some ((s.close? m c).getD (s.push c .field))
  | .quoted => some (if c = '"' then { s with spot := .quoteSeen } else s.push c .quoted)
  | .quoteSeen =>
    if c = '"' then some (s.push c .quoted)
    else
      match s.close? m c with
      | some s => some s
      | none => if m.strict then none else some (s.push c .field)
  | .lineEnd => if c = '\n' ∨ c = '\r' then some s else none

/-- Ends a line. -/
def endLine (s : RowScan) : RowScan :=
  match s.spot with
  -- only in quotes the row goes on
  | .quoted => s
  | .rowStart | .lineEnd => { s with spot := .rowStart }
  | .fieldStart | .field | .quoteSeen => s.save .rowStart

end RowScan

/-- Reads rows from lines, given the row so far. -/
def markedFrom (m : Marks) : RowScan → List String → Rows
  | s, [] =>
    if s.spot = .quoted then
      if m.strict then ⟨[], true⟩ else ⟨[(s.save .rowStart).fields.reverse], false⟩
    else ⟨[], false⟩
  | s, line :: rest =>
    match line.toList.foldlM (fun s c => RowScan.step? m s c) s with
    | none => ⟨[], true⟩
    | some s =>
      let s := s.endLine
      if s.spot = .rowStart then
        let more := markedFrom m .start rest
        ⟨s.fields.reverse :: more.rows, more.broken⟩
      else markedFrom m s rest

/-- Reads rows whose fields are marked. -/
def markedRows (m : Marks) (lines : List String) : Rows := markedFrom m .start lines

/-! ## Fields between matches -/

/-- Reads rows whose fields stand between matches of a pattern. There is always a first row. -/
def patternRows (e : Text.Expression) (lines : List String) : Rows :=
  let lines := if lines.isEmpty then [""] else lines
  ⟨lines.map fun line => e.split (Text.stripped line), false⟩

end Rostering.Csv
