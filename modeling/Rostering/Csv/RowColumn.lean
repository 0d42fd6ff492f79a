import Rostering.Csv.Column
import Rostering.Csv.Row

/-!
# Csv.RowColumn — the cells of a column of rows

Cells of rows are typed like other cells (`Csv.Column`), with a few differences: whole numbers may
be of 64 bits with or without a sign, and are floats otherwise only if some other cell is; truth
values have to be written in one of three ways; and a column that is asked to have a type is typed
first and then turned into it, even if something is lost.

A cell that a row lacks has no data, whatever the words for missing data are.
-/

namespace Rostering.Csv

/-- The cells of a column of rows. -/
abbrev RowCells := List (Option String)

/-- The cells with what is known of their data. -/
def cellsOfRows (gaps : List String) (cells : RowCells) : List Cell :=
  cells.map fun c => (c.map (Cell.of gaps)).getD ⟨"", true⟩

/-! ## Inferred types -/

/-- A whole number of 64 bits, with or without a sign, or else a float. A text that is neither, or
a whole number that is too large, is none. -/
def rowNumber? (s : String) : Option (Int ⊕ Float) :=
  let (negative, cs) := readSign (trimmed s)
  if !cs.isEmpty && cs.all Char.isDigit then
    let n := signed negative (digitsValue cs)
    if isSigned64 n || isNatural64 n then some (.inl n) else none
  else (floatNumber? '.' s).map .inr

def floatOfNumber : Int ⊕ Float → Float
  | .inl n => floatOfInt n
  | .inr x => x

def wholeOfNumber? : Int ⊕ Float → Option Int
  | .inl n => some n
  | .inr _ => none

/-- A truth value in lower case, in capitals or with a capital. -/
def exactTruth? (s : String) : Option Bool :=
  if ["True", "TRUE", "true"].contains s then some true
  else if ["False", "FALSE", "false"].contains s then some false
  else none

/-- A column of numbers. One that has whole numbers too large for a sign, and others with a sign or
gaps, remains as it was written. -/
def numberColumn (cells : RowCells) (ns : List (Option (Int ⊕ Float))) : Column :=
  let wholes := ns.filterMap fun n => n.bind wholeOfNumber?
  let isGapped := ns.any Option.isNone
  if wholes.any (wordLimit ≤ ·) && (isGapped || wholes.any (· < 0)) then .texts cells
  else if isGapped || wholes.length < ns.length then .floats (ns.map (·.map floatOfNumber))
  else .wholes (wholes.map some)

/-- Gives a column the first type that fits. -/
def inferredRowColumn (gaps : List String) (cells : RowCells) : Column :=
  let known := cellsOfRows gaps cells
  match readCells rowNumber? known with
  | some ns => numberColumn cells ns
  | none =>
    match readCells exactTruth? known with
    | some bs => .truths bs
    | none => textColumn known

/-! ## Given types -/

def Column.toFloats? : Column → Option (List (Option Float))
  | .wholes ns | .longs ns => some (ns.map (·.map floatOfInt))
  | .floats xs => some xs
  | .truths bs => some (bs.map (·.map fun b => if b then 1 else 0))
  | .texts ss => ss.mapM fun s =>
    match s with
    | some s => (floatOfText? s).map some
    | none => some none

def integerPart? (x : Float) : Option Int :=
  (FloatParts.of x).quotient?.map fun (n, d) => n.tdiv d

/-- The cells of a column as whole numbers. Fractions are cut off, and nothing may be missing. -/
def Column.toWholes? (allowsNegative : Bool) : Column → Option (List Int)
  | .wholes ns | .longs ns => ns.mapM id
  | .floats xs => xs.mapM fun x => do
    let x ← x
    guard (allowsNegative || x ≥ 0)
    integerPart? x
  | .truths bs => bs.mapM fun b => b.map fun b => if b then 1 else 0
  | .texts ss => ss.mapM fun s => do
    let n ← integerOfText? 10 (← s)
    guard (if allowsNegative then isSigned64 n else isNatural64 n)
    some n

/-- The cells of a column as truth values: what is not zero and not empty counts as true. -/
def Column.toTruths? : Column → Option (List Bool)
  | .wholes ns | .longs ns => ns.mapM fun n => n.map (· != 0)
  | .floats xs => xs.mapM fun x => x.map fun x => !(x == 0)
  | .truths bs => bs.mapM id
  | .texts ss => ss.mapM fun s => s.map fun s => !s.isEmpty

/-- A column of a type, if its cells can be turned into it. -/
def typedRowColumn? (type : ColumnType) (gaps : List String) (cells : RowCells) :
    Option (List Value) :=
  let column := inferredRowColumn gaps cells
  match type with
  | .fraction precision =>
    column.toFloats?.map (withGaps fun x => .float (precision.round x))
  | .whole bits =>
    (column.toWholes? true).map fun ns => ns.map fun n => .int (n.bmod (twoTo bits))
  | .natural bits =>
    (column.toWholes? false).map fun ns => ns.map fun n => .int (narrowedNatural bits n)
  | .truth => column.toTruths?.map fun bs => bs.map .bool
  | type => typedColumn? '.' type (cellsOfRows gaps cells)

end Rostering.Csv
