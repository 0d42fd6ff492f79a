import Rostering.Csv.Header
import Rostering.Csv.Options

/-!
# Csv.Layout — which fields of records make up which columns

Records are laid out under names that come from a header line or are given. The first record
behind the header sets the number of fields: where it has more than there are names, the fields in
front name the rows and are no part of the table. No later record may have more fields than the one
before it unless columns are selected, and shorter ones are filled up.

`Layout.of?` settles names and places, `Layout.taken?` which places become columns, and
`Layout.table?` makes the table.
-/

namespace Rostering.Csv

/-! ## Records of one width -/

namespace Options

/-- The number of the first line of data. -/
def firstLine (o : Options) : Nat :=
  match o.headerLine with
  | some n => n + 1
  | none => 0

/-- How many lines have to be read; all of them if nothing limits the rows. -/
def neededLines (o : Options) : Option Nat :=
  let least := if o.headerLine.isSome then o.firstLine + 1 else 1
  o.rows.map fun n => max (o.firstLine + n) least

/-- The number of names where these are given, no line names the columns and all are taken. -/
def expectedWidth (o : Options) : Nat :=
  match o.headerLine, o.names, o.selection with
  | none, some names, none => names.length
  | _, _, _ => 0

end Options

/-- Fills records up to the width that the record before them has. A record behind the first line
of data may not be wider than that, unless this is forgiven. -/
def evenLines (forgiven : Bool) (firstLine least : Nat) : (line previous : Nat) →
    List (List String) → Option (List (List String))
  | _, _, [] => some []
  | line, previous, r :: rest =>
    let width := max least previous
    if line > firstLine && r.length > width && !forgiven then none
    else
      let r := if line ≥ firstLine then r ++ List.replicate (width - r.length) "" else r
      (evenLines forgiven firstLine least (line + 1) r.length rest).map (r :: ·)

/-- Evens all records. The first one may have any width, but is filled up to the names that stand
for it. -/
def Options.evened (o : Options) : List (List String) → Option (List (List String))
  | [] => some []
  | r :: rest =>
    let r := r ++ List.replicate (o.expectedWidth - r.length) ""
    let least := if o.expectedWidth = 0 then 0 else r.length
    (evenLines o.selection.isSome o.firstLine least 1 r.length rest).map (r :: ·)

/-! ## Names and places -/

/-- Where the columns are. -/
structure Layout where
  /-- The names behind the fields that name the rows, before a selection. -/
  header : List Value
  /-- The names were given, or found in a line. -/
  isNamed : Bool
  /-- Number of fields. -/
  width : Nat
  /-- Number of fields that name the rows. -/
  leading : Nat
  typing : Typing

namespace Layout

/-- Number of fields in front that name the rows; none if the fields do not go with the names. -/
def leading? (o : Options) (passed width : Nat) : Option Nat :=
  match o.selection with
  | some s =>
    if s.size = passed then some 0
    else if o.names.isNone && s.size < passed then some (width - passed)
    else if passed ≠ width then none
    else some 0
  | none => some (width - passed)

def of? (o : Options) (lines : List (List String)) : Option Layout := do
  let width (passed : Nat) : Nat :=
    match lines[o.firstLine]? with
    | none => passed
    | some r => max r.length ((o.names.map List.length).getD 0)
  let laidOut (header : List Value) (typing : Typing) : Option Layout := do
    let width := width header.length
    guard (width ≠ 0)
    let leading ← leading? o header.length width
    some ⟨header, true, width, leading, typing⟩
  match o.headerLine, o.names with
  | some line, names =>
    let isEnough := match o.header with
      | .listed _ => line ≤ lines.length
      | _ => line < lines.length
    guard (lines.isEmpty || isEnough)
    let (found, renamed) := distinctNames (lines[line]?.getD [])
    let typing := renamed.foldl (fun t (old, new) => t.inherit (.str old) (.str new)) o.typing
    laidOut (names.getD (found.map .str)) typing
  | none, some names => laidOut names o.typing
  | none, none =>
    let width := (lines.head?.map List.length).getD 0
    guard (width ≠ 0)
    some ⟨(List.range width).map fun i => .int (Int.ofNat i), false, width, 0, o.typing⟩

/-- The names of the columns that are taken, as far as they can be told without records. Everything
that is selected by name has to be there. -/
def names? (o : Options) (l : Layout) : Option (List Value) :=
  match o.selection with
  | none => some l.header
  | some s => do
    if s.size = 0 then return l.header
    match s with
    | .named _ => guard (s.isNamedIn l.header)
    | .placed _ => pure ()
    let names := if l.header.length > s.size then s.filter l.header else l.header
    guard (names.length ≥ s.size || s.isNamedIn names)
    some names

/-- The name by which the field at a place is selected, given how many have been taken. A field
that has no name is known by its place alone. -/
def nameAt? (o : Options) (l : Layout) (place taken : Nat) : Option Value :=
  match o.selection, o.names with
  | some s, some names =>
    if names.length = s.size then names[taken]? else names[place - l.leading]?
  | _, _ => if l.isNamed then l.header[place - l.leading]? else some .null

/-- The places of the fields that become columns, with the names by which they are selected, from a
list of places on. -/
def takenFrom? (o : Options) (l : Layout) : (taken : Nat) → List Nat →
    Option (List (Nat × Value))
  | _, [] => some []
  | taken, place :: rest =>
    match o.selection with
    | none => do
      let name ← l.nameAt? o place taken
      (takenFrom? o l (taken + 1) rest).map ((place, name) :: ·)
    | some s => do
      if s.size ≠ 0 && taken = s.size then return []
      let name ← l.nameAt? o place taken
      if s.takes place name then
        (takenFrom? o l (taken + 1) rest).map ((place, name) :: ·)
      else takenFrom? o l taken rest

/-- The places of the fields that become columns, where the records have some number of fields. -/
def taken? (o : Options) (l : Layout) (fields : Nat) : Option (List (Nat × Value)) := do
  let isLacking := l.width - l.leading > fields
  let tooMany := (o.selection.map Selection.size).any fun n => n ≠ 0 && l.width - l.leading < n
  let tooManyNames := o.names.any fun names => names.length - l.leading > fields
  guard !(isLacking && (tooMany || tooManyNames))
  guard ((o.selection.map (·.isPlacedBelow fields)).getD true)
  l.takenFrom? o 0 ((List.range l.width).drop l.leading)

/-! ## The table -/

/-- The cells at a place, of the type they are to have. -/
def cells? (o : Options) (l : Layout) (rows : List (List String)) (place : Nat) (name : Value) :
    Option (List Value) :=
  let cells := rows.map fun row => Cell.of o.gaps (row[place]?.getD "")
  match l.typing.typeOf? name place with
  | some type => typedColumn? o.point type cells
  | none => some (inferredColumn o.point cells).values

/-- A table without rows. Types for places are for those of the names. -/
def emptyTable? (o : Options) (l : Layout) (names : List Value) : Option Table := do
  guard (l.typing.isPlacedWithin names.length)
  let names := (o.selection.map (·.filter names)).getD names
  some (Table.ofTyped names 0 (names.map fun _ => []))

/-- The table of some records that are even in width. -/
def table? (o : Options) (l : Layout) (lines : List (List String)) : Option Table := do
  let names ← l.names? o
  let rows := lines.drop o.firstLine
  let rows := match o.rows with
    | some n => rows.take n
    | none => rows
  if rows.isEmpty then return ← l.emptyTable? o names
  let fields := (lines.map List.length).foldl max 0
  let places ← l.taken? o fields
  let _ ← (List.range l.leading).mapM fun i => l.cells? o rows i (.int (Int.ofNat i))
  if places.isEmpty && l.leading = 0 then return ← l.emptyTable? o names
  let columns ← places.mapM fun (place, name) => l.cells? o rows place name
  let names := (o.selection.map (·.filter names)).getD names
  guard (names.length = columns.length)
  some (Table.ofTyped names rows.length columns)

end Layout

end Rostering.Csv
