import Rostering.Failure
import Rostering.Powers

/-!
# Table — rows under named columns, and mappings drawn from them

Data comes in three shapes: rows in the order of a schema, records that name their fields, and
columns by name. All three are first laid out as rows (`Table.ofRows`), and then each column is
given one type (`typedColumn`): whole numbers next to floats or gaps become floats, gaps among
texts become the number that is not one, gaps among moments become missing moments. A column that
mixes anything else stays as it is.

`Table.ofData` makes a table that has the columns of a schema, `Entries.ofData` a mapping keyed on
one column.
-/

namespace Rostering

/-! ## Columns of one type -/

/-- Gaps in a column of floats or texts. -/
def notANumber : Value := .float (0.0 / 0.0)

/-- The sorts of cells that decide the type of a column. -/
inductive CellSort where
  | null
  | nan
  | noMoment
  | truth
  | whole
  | fraction
  | text
  | moment
  | other
  deriving DecidableEq

def wholeCell? : Value → Option Int
  | .int n => some n
  | _ => none

/-- The whole numbers among some cells fit into 64 bits, with a sign or all without one. -/
def fitsColumn (cells : List Value) : Bool :=
  let numbers := cells.filterMap wholeCell?
  numbers.all (fun n => leastWord ≤ n && n < wordLimit)
    || numbers.all fun n => 0 ≤ n && n < naturalLimit

def CellSort.of : Value → CellSort
  | .null => .null
  | .float x => if x.isNaN then .nan else .fraction
  | .noMoment => .noMoment
  | .bool _ => .truth
  | .int _ => .whole
  | .str _ => .text
  | .day (.moment _) => .moment
  | _ => .other

def floatCell : Value → Value
  | .int n => .float (floatOfInt n)
  | .null => notANumber
  | v => v

def textCell : Value → Value
  | .null => notANumber
  | v => v

def momentCell : Value → Value
  | .day d => .day d
  | _ => .noMoment

/-- Gives the cells of a column one type, where they allow it. -/
def typedColumn (cells : List Value) : List Value :=
  let sorts := cells.map CellSort.of
  let only (allowed : List CellSort) := sorts.all allowed.contains
  if only [.null] || only [.whole] then cells
  else if only [.null, .nan, .whole, .fraction] then
    if fitsColumn cells then cells.map floatCell else cells
  else if only [.null, .nan, .text] then cells.map textCell
  else if only [.null, .nan, .noMoment, .moment] then
    if Value.sharesZone cells then cells.map momentCell else cells
  else cells

/-- Gives the cells of a column one type and then fills its gaps: with a missing moment among
moments, else with the number that is not one, which turns whole numbers into floats. -/
def filledColumn (cells : List (Option Value)) : List Value :=
  let present := typedColumn (cells.filterMap id)
  let sorts := present.map CellSort.of
  let only (allowed : List CellSort) := !present.isEmpty && sorts.all allowed.contains
  let isWhole := only [.whole] && fitsColumn present && cells.any Option.isNone
  let present := if isWhole then present.map floatCell else present
  let gap :=
    if only [.noMoment, .moment] && Value.sharesZone present then .noMoment else notANumber
  (cells.foldl (fun (filled, rest) cell => match cell, rest with
    | some _, v :: rest => (v :: filled, rest)
    | _, rest => (gap :: filled, rest)) (([] : List Value), present)).1.reverse

/-! ## Tables -/

/-- Rows under columns. Every row has one cell for each column. -/
structure Table where
  columns : List Value
  rows : List (List Value)

namespace Table

def toValue (t : Table) : Value := .table t.columns t.rows

def cellAt (i : Nat) (row : List Value) : Value := row[i]?.getD .null

def columnAt (i : Nat) (rows : List (List Value)) : List Value := rows.map (cellAt i)

def rowsOfColumns (height : Nat) (columns : List (List Value)) : List (List Value) :=
  (List.range height).map fun i => columns.map (cellAt i)

/-- A table of columns that are typed already; their names are typed like a column. -/
def ofTyped (columns : List Value) (height : Nat) (cells : List (List Value)) : Table :=
  ⟨typedColumn columns, rowsOfColumns height cells⟩

/-- A table of rows, each column of one type. -/
def ofRows (columns : List Value) (rows : List (List Value)) : Table :=
  ofTyped columns rows.length
    ((List.range columns.length).map fun i => typedColumn (columnAt i rows))

/-- Two names of columns are one: a name that is not a number is the same as another such. -/
def sameName (a b : Value) : Bool :=
  match a, b with
  | .float x, .float y => x == y || (x.isNaN && y.isNaN)
  | .noMoment, .noMoment => true
  | a, b => a.same b

def hasColumn (t : Table) (name : Value) : Bool := t.columns.any (sameName name)

def positions (t : Table) (name : Value) : List Nat :=
  (List.range t.columns.length).filter fun i => sameName name (cellAt i t.columns)

/-- What stands under a column name: the cells of the column, or, where several columns have the
name, the name once for each of them. -/
def column? (t : Table) (name : Value) : Option (List Value) :=
  match t.positions name with
  | [] => none
  | [i] => some (columnAt i t.rows)
  | places => some (places.map fun i => cellAt i t.columns)

def height (t : Table) : Nat := t.rows.length

/-! ## Rows from data -/

def entries? : Value → Option Entries
  | .map es => some es
  | _ => none

/-- The cells of a row: lists are rows, and texts are not. -/
def row? : Value → Option (List Value)
  | .list cells | .tuple cells => some cells
  | _ => none

/-- Columns that some record lacks, in ascending order. -/
def missingFields (schema : List String) (records : List Entries) : List String :=
  sortedTexts (schema.filter fun c => records.any fun r => (r.field? c).isNone).eraseDups

/-- A row of the schema's length, or the fault in it. -/
def checkedRow (schema : List String) (position : Nat) (row : Value) :
    Except TableFault (List Value) :=
  match row? row with
  | none => throw (.rowNotSequence position row)
  | some cells =>
    if cells.length = schema.length then pure cells
    else throw (.rowLength schema.length position cells.length)

/-- Rows in the order of the schema, checked one after the other. -/
def checkedRows (schema : List String) : (position : Nat) → List Value →
    Except TableFault (List (List Value))
  | _, [] => pure []
  | position, row :: rows => do
    let cells ← checkedRow schema position row
    let more ← checkedRows schema (position + 1) rows
    pure (cells :: more)

/-- A table from a list: of records if all its items are, else of rows. -/
def ofItems (schema : List String) (items : List Value) : Except TableFault Table := do
  let columns := schema.map Value.str
  match items.mapM entries? with
  | some records =>
    let missing := missingFields schema records
    if !missing.isEmpty then throw (.fieldsMissing missing)
    let rows := if schema.isEmpty then [] else records.map fun r => schema.map r.field
    pure (ofRows columns rows)
  | none => return ofRows columns (← checkedRows schema 0 items)

/-- How a column is given: cell by cell, by row name, or by one cell for all rows. -/
inductive ColumnData where
  | cells (l : List Value)
  | byName (es : Entries)
  | same (v : Value)

def ColumnData.of : Value → ColumnData
  | .list l | .tuple l | .set l => .cells l
  | .map es => .byName es
  | v => .same v

/-- Names of rows, in order of appearance. -/
def rowNames (columns : List ColumnData) : List Value :=
  columns.foldl (fun names c => match c with
    | .byName es => names ++ (es.map Prod.fst).filter fun k => !(names.any fun n => k.same n)
    | _ => names) []

/-- The cells of a column, of one type, given the number of rows and their names. -/
def ColumnData.expand (height : Nat) (names : List Value) : ColumnData → List Value
  | .cells l => typedColumn l
  | .byName es => filledColumn (names.map es.find?)
  | .same v => List.replicate height v

/-- A table from columns by name. At least one column has to say how many rows there are, and all
that do have to agree. -/
def ofColumns (es : Entries) : Except TableFault Table := do
  if es.isEmpty then return ⟨[], []⟩
  let columns := es.map fun e => ColumnData.of e.2
  let lengths := columns.filterMap fun
    | .cells l => some l.length
    | _ => none
  let names := rowNames columns
  let named := columns.any fun
    | .byName _ => true
    | _ => false
  let height ← match lengths, named with
    | [], false => throw .unequalColumns
    | [], true => pure names.length
    | _ :: _, true => throw .unequalColumns
    | n :: ns, false => if ns.all (· == n) then pure n else throw .unequalColumns
  pure (ofTyped (es.map Prod.fst) height (columns.map (ColumnData.expand height names)))

def isSet : Value → Bool
  | .set _ => true
  | _ => false

/-- Some column is given as a set, in columns that would make a table otherwise. Such cells are in no
order, so no table is made of them. -/
def isUnordered : Value → Bool
  | .map es => (es.any fun e => isSet e.2) && (ofColumns es).toBool
  | _ => false

/-- A table that has the columns of the schema, from data of any shape. -/
def ofData (data : Value) (schema : List String) : Except TableFault Table := do
  let table ← match data with
    | .table columns rows => pure ⟨columns, rows⟩
    | .map es => ofColumns es
    | .list [] | .tuple [] => pure ⟨schema.map Value.str, []⟩
    | .list items | .tuple items => ofItems schema items
    | v => throw (.notTable v)
  let missing := schema.filter fun c => !table.hasColumn (.str c)
  if missing.isEmpty then pure table else throw (.columnsMissing missing table.columns)

/-- Names of fields, in order of first appearance. -/
def fieldNames (records : List Entries) : List Value :=
  records.foldl (fun names r =>
    names ++ (r.map Prod.fst).filter fun k => !(names.any fun n => k.same n)) []

/-- A table of records; a field that a record lacks is a gap. -/
def ofRecords (records : List Entries) : Table :=
  let columns := typedColumn (fieldNames records)
  ofRows columns (records.map fun r => columns.map fun c => (r.find? c).getD notANumber)

end Table

/-! ## Mappings from data -/

namespace Entries

/-- The two cells mean one key. -/
def sameKeyCell (numbers : Bool) (a b : Value) : Bool :=
  match a, b with
  -- among numbers each missing cell is a key of its own, elsewhere all of them are one
  | .float x, .float y => x == y || (!numbers && x.isNaN && y.isNaN)
  | .noMoment, .noMoment => true
  | a, b => a.same b

/-- Gives a key a value, in its old place or at the end. -/
def putCell (numbers : Bool) (key value : Value) : Entries → Entries
  | [] => [(key, value)]
  | (k, v) :: rest =>
    if sameKeyCell numbers k key then (k, value) :: rest
    else (k, v) :: putCell numbers key value rest

/-- Pairs the cells of two columns; of rows with one key the last counts. -/
def ofCells (keys values : List Value) : Except Fault Entries :=
  if keys.all Value.isKey then
    let numbers := keys.all fun k => CellSort.of k ∈ [CellSort.nan, .fraction]
    pure ((keys.zip values).foldl (fun es e => putCell numbers e.1 e.2 es) [])
  else throw .mistyped

/-- A mapping from a table: keyed on the named column, or else on the first, with the cells of the
first other column. The names of all columns have to be keys, or no column can be found. -/
def ofTable (table : Table) (key : String) : Except Fault Entries := do
  if table.columns.length < 2 then throw (.table (.tooFewColumns table.columns))
  let keyColumn := if table.hasColumn (.str key) then .str key else table.columns.headD .null
  match table.columns.find? fun c => !(c.same keyColumn) with
  | none => throw .exhausted
  | some valueColumn =>
    if !Value.areKeys table.columns then throw .mistyped
    ofCells ((table.column? keyColumn).getD []) ((table.column? valueColumn).getD [])

def pair? (v : Value) : Except Fault (Value × Value) :=
  match v.items? with
  | some [key, value] => if key.isKey then pure (key, value) else throw .mistyped
  | some _ => throw .malformed
  | none => throw .mistyped

/-- The entries of a mapping, or of a list of pairs. -/
def ofValue (v : Value) : Except Fault Entries :=
  match v with
  | .map es => pure es
  | v =>
    match v.items? with
    | some items => (items.mapM pair?).map ofPairs
    | none => throw .mistyped

/-- A mapping keyed on a column, from data of any shape. -/
def ofData (data : Value) (key : String) : Except Fault Entries :=
  match data with
  | .map es => pure es
  | .table columns rows => ofTable ⟨columns, rows⟩ key
  | .list items =>
    match items.mapM Table.entries? with
    | some records => ofTable (Table.ofRecords records) key
    | none => throw (.table (.notMapping data))
  | v => throw (.table (.notMapping v))

end Entries

end Rostering
