import Rostering.Csv.Header
import Rostering.Csv.RowColumn
import Rostering.Csv.RowFeed

/-!
# Csv.RowLayout — rows as a table

Rows are laid out under names that come from a header row or are given. The row behind the header
tells how many fields in front name the rows: as many as it has in excess of the names. A row
behind the header may itself name such fields, if the next one has as many fields as both together.

`RowLayout.of?` settles names and places, and `RowLayout.table?` makes the table.
-/

namespace Rostering.Csv

/-! ## Names -/

def fieldName (field : Option String) : String := field.getD "None"

/-- Different names for the fields of a header, and which of them were made from which. A field
that is no text remains nothing. -/
def rowNames (header : Row) : List Value × List (String × String) :=
  let (names, renamed) := distinctNames (header.map fieldName)
  let name (field : Option String) (s : String) : Value :=
    if field.isNone && s == fieldName none then .null else .str s
  ((header.zip names).map fun (field, s) => name field s, renamed)

def fieldValue (field : Option String) : Value := (field.map Value.str).getD .null

def placeNames (count : Nat) : List Value := (List.range count).map fun i => .int (Int.ofNat i)

namespace Selection

/-- The places of what is selected, by names and for so many fields. -/
def places? (s : Selection) (names : List Value) (fields : Nat) : Option (List Nat) :=
  match s with
  | named wanted => wanted.mapM fun w => names.findIdx? (·.same (.str w))
  | placed places => places.mapM fun p =>
    if 0 ≤ p && p < Int.ofNat fields then some p.toNat else none

end Selection

def itemsAt {α : Type} (places : Option (List Nat)) (items : List α) : List α :=
  match places with
  | none => items
  | some places => (items.zipIdx.filter fun (_, i) => places.contains i).map Prod.fst

/-! ## The layout -/

/-- Where the columns are. -/
structure RowLayout where
  names : List Value
  /-- Number of fields that have a name. -/
  width : Nat
  /-- The places to take, if only some are. -/
  places : Option (List Nat)
  typing : Typing
  /-- Number of fields in front that name the rows and have no name. -/
  leading : Nat
  /-- Number of names in front that belong to the names of rows. -/
  indexed : Nat
  feed : RowFeed

namespace RowLayout

/-- The places of a selection, if there is one. -/
def placesOf? (o : Options) (names : List Value) (fields : Nat) : Option (Option (List Nat)) :=
  match o.selection with
  | none => some none
  | some s => (s.places? names fields).map some

/-- Names that are given for fields which a header names otherwise. They may not be more than the
header and the first row both have. -/
def renamed? (o : Options) (found names : List Value) (firstLength : Nat) : Option RowLayout := do
  guard (names.length ≤ found.length || names.length ≤ firstLength)
  let places ← placesOf? o names found.length
  let columns ←
    match places with
    | some ps =>
      if names.length = ps.length then some names
      else if ps.all (· < names.length) then some (itemsAt (some ps) names)
      else none
    | none => some names
  let width := if places.isSome then found.length else names.length
  some ⟨columns, width, places, o.typing, 0, 0, ⟨[], false, 0, 0, []⟩⟩

def underHeader? (o : Options) (line : Nat) (feed : RowFeed) : Option RowLayout := do
  let (row, feed) ← feed.line? o line
  let (found, changes) ←
    match row, o.names with
    | some row, _ => some (rowNames row)
    | none, some (name :: names) =>
      if feed.found = 0 then some (name :: names, []) else none
    | none, _ => none
  let typing := changes.foldl (fun t (old, new) => t.inherit (.str old) (.str new)) o.typing
  let feed := { feed with buffer := [] }
  match o.names with
  | none =>
    let places ← placesOf? o found found.length
    some ⟨itemsAt places found, found.length, places, typing, 0, 0, feed⟩
  | some names =>
    let (first, feed) ← feed.next? o
    let layout ← renamed? o found names ((first.map List.length).getD 0)
    some { layout with typing := typing, feed := feed }

/-- Names the fields where no row does. The number of fields is that of the first row, or else of
the names. -/
def withoutHeader? (o : Options) (feed : RowFeed) : Option (RowLayout × Nat) := do
  let (row, feed) ← feed.peek? o
  let given := o.names.getD []
  guard (row.isSome || !given.isEmpty)
  let fields := (row.map List.length).getD given.length
  let layout (names : List Value) (width : Nat) (places : Option (List Nat)) : RowLayout :=
    ⟨names, width, places, o.typing, 0, 0, feed⟩
  if given.isEmpty then
    let names := placeNames fields
    let places ← placesOf? o names fields
    some (layout (itemsAt places names) fields places, fields)
  else
    let places ← placesOf? o given fields
    if o.selection.isNone || fields ≤ given.length then
      some (layout (itemsAt places given) given.length places, fields)
    else
      guard ((o.selection.map Selection.size) == some given.length)
      some (layout given fields places, fields)

/-- Finds the fields that name the rows, by the length of the row behind the header. -/
def withLeading (l : RowLayout) (length : Nat) : RowLayout :=
  { l with leading := length - l.width }

/-- Takes the names of the fields that name the rows from a row of their own. -/
def withIndexed (l : RowLayout) (row : Row) : RowLayout :=
  let names := row.map fieldValue ++ l.names
  { l with
    names := names
    width := names.length
    indexed := row.length
    feed := { l.feed with buffer := l.feed.buffer.drop 1 } }

def of? (o : Options) (feed : RowFeed) : Option RowLayout :=
  match o.headerLine with
  | none => do
    let (l, fields) ← withoutHeader? o feed
    let (_, feed) ← l.feed.next? o
    some ({ l with feed := feed }.withLeading fields)
  | some line => do
    let l ← underHeader? o line feed
    let (row, feed) ← l.feed.next? o
    let (next, feed) ← feed.next? o
    let l := { l with feed := feed }
    match row, next with
    | some row, some next =>
      if next.length = row.length + l.width then some (l.withIndexed row)
      else some (l.withLeading row.length)
    | some row, none => some (l.withLeading row.length)
    | none, _ => some l

/-! ## The table -/

/-- Types by the names of columns. A place that is no name stands for the name that is there. -/
def namedTypes? (t : Typing) (names : List Value) : Option (List (Value × ColumnType)) :=
  match t with
  | .byName types => types.mapM fun (key, type) =>
    match key with
    | .int n =>
      if names.any (·.same key) then some (key, type)
      else
        let place := if n < 0 then n + Int.ofNat names.length else n
        if place < 0 then none else (names[place.toNat]?).map fun name => (name, type)
    | key => some (key, type)
  | _ => some []

/-- The cells of a column, of the type they are to have. -/
def cells? (o : Options) (t : Typing) (types : List (Value × ColumnType)) (name : Value)
    (cells : RowCells) : Option (List Value) :=
  let type := match t with
    | .same type => some type
    | _ => (types.reverse.find? (·.1.same name)).map Prod.snd
  match type with
  | some type => typedRowColumn? type o.gaps cells
  | none => some (inferredRowColumn o.gaps cells).values

/-- The table of the rows that are left. No row may have more fields than are expected, unless
columns are selected. -/
def table? (o : Options) (l : RowLayout) : Option Table := do
  let rows ← l.feed.content? o
  if rows.isEmpty then
    guard (l.typing.isPlacedWithin l.names.length)
    let names := l.names.drop l.indexed
    return Table.ofTyped names 0 (names.map fun _ => [])
  let types ← namedTypes? l.typing l.names
  let expected := l.width + l.leading
  let fields := (rows.map List.length).foldl max expected
  guard (fields ≤ expected || o.selection.isSome)
  let isTaken (i : Nat) : Bool :=
    match l.places with
    | none | some [] => true
    | some places => i < l.leading || places.contains (i - l.leading)
  let places := ((List.range fields).filter isTaken).drop l.leading
  guard (l.leading = 0 || places.length ≥ l.names.length)
  let columns ← l.names.zipIdx.mapM fun (name, i) =>
    match places[i]? with
    | some place => cells? o l.typing types name (rows.map fun row => row[place]?.join)
    | none => some (rows.map fun _ => notANumber)
  let height := if l.names.isEmpty && l.leading = 0 && l.indexed = 0 then 0 else rows.length
  some (Table.ofTyped (l.names.drop l.indexed) height (columns.drop l.indexed))

end RowLayout

end Rostering.Csv
