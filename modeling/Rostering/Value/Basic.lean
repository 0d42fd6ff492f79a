import Rostering.Calendar
import Rostering.Decimal.Exact

/-!
# Value.Basic — the values a configuration may hold

Decoded configuration text, cells of tables, arguments and index members are all `Value`s. A
mapping keeps its entries in order. Keys are compared by `Value.same`, which takes numbers by what
they count: `1`, `1.0` and `true` are one key.
-/

namespace Rostering

/-- A decoded value. -/
inductive Value where
  | null
  | bool (b : Bool)
  | int (n : Int)
  | float (x : Float)
  | str (s : String)
  | bytes (bs : List UInt8)
  | day (d : Day)
  /-- A cell for a moment that was never given. -/
  | noMoment
  | list (items : List Value)
  /-- Items that cannot be replaced, as in a pair. -/
  | tuple (items : List Value)
  | set (items : List Value)
  | map (entries : List (Value × Value))
  | table (columns : List Value) (rows : List (List Value))
  /-- A list or a mapping that is met again inside of itself. -/
  | again (isMap : Bool)
  /-- A table that is handed out piece by piece. It is no data itself, and nothing is told of it but
  its type. -/
  | reader
  deriving Inhabited

/-- Entries of a mapping, oldest first. -/
abbrev Entries := List (Value × Value)

namespace Value

/-! ## Equality -/

/-- Two numbers are the same if they count the same; truth values count as zero and one. -/
def sameInt (n : Int) : Value → Bool
  | .bool b => n == (if b then 1 else 0)
  | .int m => n == m
  | .float x => sameNumber n x
  | _ => false

mutual

/-- Equality of values. Numbers are compared by what they count, mappings and sets without regard
to order, and a float that is not a number differs from everything. -/
def same : Value → Value → Bool
  | .null, .null => true
  | .bool a, v => sameInt (if a then 1 else 0) v
  | .int a, v => sameInt a v
  | .float x, .float y => x == y
  | .float x, .int n => sameNumber n x
  | .float x, .bool b => sameNumber (if b then 1 else 0) x
  | .str s, .str t => s == t
  | .bytes a, .bytes b => a == b
  | .day a, .day b => a == b || (a.distance? b == some 0)
  | .list xs, .list ys => sameItems xs ys
  | .tuple xs, .tuple ys => sameItems xs ys
  | .set xs, .set ys => xs.length == ys.length && sameMembers xs ys
  | .map xs, .map ys => xs.length == ys.length && sameEntries xs ys
  | _, _ => false

/-- Equality item by item. -/
def sameItems : List Value → List Value → Bool
  | [], [] => true
  | x :: xs, y :: ys => same x y && sameItems xs ys
  | _, _ => false

/-- Every item occurs among the others. -/
def sameMembers : List Value → List Value → Bool
  | [], _ => true
  | x :: xs, ys => ys.any (fun y => same x y) && sameMembers xs ys

/-- Every entry occurs among the others. -/
def sameEntries : List (Value × Value) → List (Value × Value) → Bool
  | [], _ => true
  | (k, v) :: xs, ys => ys.any (fun e => same k e.1 && same v e.2) && sameEntries xs ys

end

/-! ## Kinds -/

/-- The name of a value's type, as messages give it. -/
def typeName : Value → String
  | .null => "NoneType"
  | .bool _ => "bool"
  | .int _ => "int"
  | .float _ => "float"
  | .str _ => "str"
  | .bytes _ => "bytes"
  | .day (.date _) => "date"
  | .day (.moment _) => "datetime"
  | .noMoment => "NaTType"
  | .list _ => "list"
  | .tuple _ => "tuple"
  | .set _ => "set"
  | .map _ => "dict"
  | .table _ _ => "DataFrame"
  | .again isMap => if isMap then "dict" else "list"
  | .reader => "TextFileReader"

/-- The value counts as true: it is not null, not zero and not empty. -/
def isTrue : Value → Bool
  | .null => false
  | .bool b => b
  | .int n => n != 0
  | .float x => !(x == 0)
  | .str s => !s.isEmpty
  | .bytes bs => !bs.isEmpty
  | .day _ => true
  | .noMoment => true
  | .list xs => !xs.isEmpty
  | .tuple xs => !xs.isEmpty
  | .set xs => !xs.isEmpty
  | .map es => !es.isEmpty
  | .table _ _ => true
  | .again _ => true
  | .reader => true

/-- The value of a field that may be left out: null, the empty text, list and mapping all mean
that it was. -/
def isAbsent : Value → Bool
  | .null => true
  | .str s => s.isEmpty
  | .list xs => xs.isEmpty
  | .map es => es.isEmpty
  | _ => false

mutual

/-- The value may be a key: neither it nor a part of it can change. -/
def isKey : Value → Bool
  | .list _ | .set _ | .map _ | .table _ _ | .again _ => false
  | .tuple xs => areKeys xs
  | _ => true

def areKeys : List Value → Bool
  | [] => true
  | x :: xs => isKey x && areKeys xs

end

mutual

/-- Some list or mapping in the value is part of itself. -/
def isEndless : Value → Bool
  | .again _ => true
  | .list xs | .tuple xs | .set xs => areEndless xs
  | .map es => haveEndless es
  | _ => false

/-- Some value is endless. -/
def areEndless : List Value → Bool
  | [] => false
  | x :: xs => isEndless x || areEndless xs

/-- The value of some entry is endless. -/
def haveEndless : List (Value × Value) → Bool
  | [] => false
  | (_, v) :: es => isEndless v || haveEndless es

end

/-- A float that is a whole number, as one; any other value as it is. -/
def asCoefficient : Value → Value
  | .float x =>
    match floatToInt? x with
    | some n => .int n
    | none => .float x
  | v => v

/-- What the value runs through when it is listed: items, characters, keys or column names. -/
def items? : Value → Option (List Value)
  | .str s => some (s.toList.map fun c => .str (String.singleton c))
  | .bytes bs => some (bs.map fun b => .int b.toNat)
  | .list xs => some xs
  | .tuple xs => some xs
  | .set xs => some xs
  | .map es => some (es.map Prod.fst)
  | .table columns _ => some columns
  | _ => none

end Value

/-! ## Entries -/

namespace Entries

def find? (es : Entries) (key : Value) : Option Value :=
  (List.find? (fun e => key.same e.1) es).map Prod.snd

def field? (es : Entries) (name : String) : Option Value := find? es (.str name)

/-- The value under a text key, null if there is none. -/
def field (es : Entries) (name : String) : Value := (field? es name).getD .null

/-- Gives a key a value. An old key keeps its place and its spelling. -/
def put (key value : Value) : Entries → Entries
  | [] => [(key, value)]
  | (k, v) :: rest =>
    if k.same key then (k, value) :: rest else (k, v) :: put key value rest

/-- Puts entries one after the other: of entries with one key the first gives the place and the
last the value. -/
def ofPairs (l : List (Value × Value)) : Entries :=
  l.foldl (fun es e => put e.1 e.2 es) []

def ofFields (l : List (String × Value)) : Entries := l.map fun (k, v) => (.str k, v)

end Entries

namespace Value

def ofFields (l : List (String × Value)) : Value := .map (Entries.ofFields l)

def ofTexts (l : List String) : Value := .list (l.map .str)

end Value

end Rostering
