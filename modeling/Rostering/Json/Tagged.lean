import Rostering.Json.Printer
import Rostering.Json.Reader
import Rostering.Decimal.Read
import Rostering.Table

/-!
# Json.Tagged — values that plain JSON has no form for

Floats, days, bytes, sets, tables and mappings whose keys are not all texts are written as a
mapping with a single key that starts with a dollar sign. `Value.tagged` writes that form, and
`Value.ofTagged` reads it; all other values are written as they are.
-/

namespace Rostering

namespace Value

/-! ## Writing -/

/-- A mapping with a tag as its only key. -/
def tag (name : String) (v : Value) : Value := ofFields [("$" ++ name, v)]

/-- The text by which items of sets are sorted. -/
def sortingText (v : Value) : String := (Json.print? .compact v).getD ""

/-- A key that can be told from a tag. -/
def isPlainKey : Value → Bool
  | .str k => !k.startsWith "$"
  | _ => false

def pairs (es : Entries) : Value := .list (es.map fun (k, v) => .list [k, v])

mutual

def tagged : Value → Value
  | .float x => tag "float" (.str (plainFloat.text x))
  | .bytes bs => tag "bytes" (.str (String.join (bs.map fun b => hexDigits 2 b.toNat)))
  | .day (.date d) => tag "date" (.str d.iso)
  | .day (.moment m) => tag "datetime" (.str m.iso)
  | .noMoment => tag "nat" (.bool true)
  | .list items | .tuple items => .list (taggedItems items)
  | .set items =>
    tag "set" (.list ((taggedItems items).mergeSort fun a b => sortingText a ≤ sortingText b))
  | .map es =>
    if es.all fun e => isPlainKey e.1 then .map (taggedEntries es)
    else tag "map" (pairs (taggedEntries es))
  | .table columns rows =>
    tag "table" (ofFields [("columns", .list (taggedItems columns)),
      ("rows", .list (taggedRows rows))])
  | v => v

def taggedItems : List Value → List Value
  | [] => []
  | v :: rest => tagged v :: taggedItems rest

def taggedEntries : List (Value × Value) → List (Value × Value)
  | [] => []
  | (k, v) :: rest => (tagged k, tagged v) :: taggedEntries rest

def taggedRows : List (List Value) → List Value
  | [] => []
  | r :: rest => .list (taggedItems r) :: taggedRows rest

end

/-! ## Reading -/

def bytesOfHex : List Char → List UInt8
  | a :: b :: rest =>
    UInt8.ofNat ((Json.hexValue? a).getD 0 * 16 + (Json.hexValue? b).getD 0) :: bytesOfHex rest
  | _ => []

/-- The pair that a list of two items is. -/
def asPair? : Value → Option (Value × Value)
  | .list [k, v] => some (k, v)
  | _ => none

/-- The items of a list; no other value has any. -/
def itemsOr (v : Value) : List Value :=
  match v with
  | .list items => items
  | _ => []

/-- The names of the columns in a table as it is written. They are taken as they stand: a tag among
them is a mapping, and so no name at all. -/
def writtenColumns : Entries → List Value
  | [(_, .map es)] => (Entries.field es "columns").itemsOr
  | _ => []

/-- The value that a tag stands for, given the entries as they are written and with their values
read; an unknown tag, and one with the wrong value, stands for the mapping that it is. -/
def untagged (written : Entries) : Entries → Value
  | [(.str "$float", .str s)] => .float ((floatOfText? s).getD 0)
  | [(.str "$date", .str s)] => ((Date.ofIso? s).map fun d => .day (.date d)).getD .null
  | [(.str "$datetime", .str s)] => ((Moment.ofIso? s).map fun m => .day (.moment m)).getD .null
  | [(.str "$bytes", .str s)] => .bytes (bytesOfHex s.toList)
  | [(.str "$set", .list items)] => .set items
  | [(.str "$nat", _)] => .noMoment
  | [(.str "$map", .list items)] => .map (Entries.ofPairs (items.filterMap asPair?))
  | [(.str "$table", .map es)] =>
    (Table.ofRows (writtenColumns written) ((Entries.field es "rows").itemsOr.map itemsOr)).toValue
  | es => .map es

mutual

def ofTagged : Value → Value
  | .list items => .list (ofTaggedItems items)
  | .map es => untagged es (ofTaggedEntries es)
  | v => v

def ofTaggedItems : List Value → List Value
  | [] => []
  | v :: rest => ofTagged v :: ofTaggedItems rest

def ofTaggedEntries : List (Value × Value) → List (Value × Value)
  | [] => []
  | (k, v) :: rest => (k, ofTagged v) :: ofTaggedEntries rest

end

end Value

end Rostering
