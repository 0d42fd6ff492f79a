import Rostering.Csv.Column
import Rostering.Csv.Scan

/-!
# Csv.Options — how separated text is to be read

The choices that a reader of separated text leaves open, and their reading from entries by name:
what separates fields, which line names the columns, which lines and columns to take, which types
to give. Entries that have other names among their keys, or other values, are not read here
(`Options.ofEntries?` is `none`); what they mean is up to the library that knows them.
-/

namespace Rostering.Csv

/-! ## Choices -/

/-- What is known of the separator. -/
inductive Separation where
  | known (s : Separator)
  /-- A character outside of ASCII. -/
  | mark (c : Char)
  /-- A pattern that every separator matches. -/
  | pattern (source : String)
  /-- Nothing: it is to be found out. -/
  | unknown

/-- Which line names the columns. -/
inductive Header where
  /-- The first one, unless names are given. -/
  | inferred
  | absent
  | line (n : Nat)
  /-- A line given as a list of one. -/
  | listed (n : Nat)
  deriving DecidableEq

/-- Which columns to take, by their names or by their places. -/
inductive Selection where
  | named (names : List String)
  | placed (places : List Int)

/-- Which types to give to columns. -/
inductive Typing where
  | inferred
  | same (type : ColumnType)
  /-- By the name of a column or its place. -/
  | byName (types : List (Value × ColumnType))

/-- How a table is to be read. -/
structure Options where
  separation : Separation
  comment : Option Char
  trimsStart : Bool
  skips : Nat → Bool
  header : Header
  names : Option (List Value)
  rows : Option Nat
  selection : Option Selection
  typing : Typing
  gaps : List String
  encoding : String
  point : Char

namespace Selection

def size : Selection → Nat
  | named names => names.length
  | placed places => places.length

/-- The column with this name, at this place, is to be taken. -/
def takes (s : Selection) (place : Nat) (name : Value) : Bool :=
  match s with
  | named names => names.any fun n => name.same (.str n)
  | placed places => places.any fun p => p == Int.ofNat place || name.same (.int p)

def isNamedIn (s : Selection) (names : List Value) : Bool :=
  match s with
  | named wanted => wanted.all fun w => names.any (·.same (.str w))
  | placed places => places.all fun p => names.any (·.same (.int p))

/-- Some places are selected, and all of them are below a bound. -/
def isPlacedBelow (s : Selection) (bound : Nat) : Bool :=
  match s with
  | named _ => true
  | placed places => places.all fun p => 0 ≤ p && p < Int.ofNat bound

/-- The names of what is selected. Where there are as many names as selections, these are taken to
be the selected ones already. -/
def filter (s : Selection) (names : List Value) : List Value :=
  if names.length = s.size then names
  else (names.zipIdx.filter fun (name, i) => s.takes i name).map Prod.fst

end Selection

/-- The type that is asked for the column with this name, at this place. -/
def Typing.typeOf? (t : Typing) (name : Value) (place : Nat) : Option ColumnType :=
  match t with
  | inferred => none
  | same type => some type
  | byName types =>
    let find (key : Value) := (types.find? fun t => t.1.same key).map Prod.snd
    (find name).or (find (.int (Int.ofNat place)))

/-- Gives the type of one column also to another, unless that one has a type. -/
def Typing.inherit (t : Typing) (old new : Value) : Typing :=
  match t with
  | byName types =>
    match types.find? (·.1.same old), types.any (·.1.same new) with
    | some (_, type), false => byName (types ++ [(new, type)])
    | _, _ => t
  | t => t

/-- Places for which there are types are those of so many names, which may be counted from the end
on. -/
def Typing.isPlacedWithin (t : Typing) (count : Nat) : Bool :=
  match t with
  | byName types => types.all fun (key, _) =>
    match key with
    | .int n => -Int.ofNat count ≤ n && n < Int.ofNat count
    | _ => true
  | _ => true

/-- The number of the line that names the columns, if there is one. -/
def Options.headerLine (o : Options) : Option Nat :=
  match o.header, o.names with
  | .inferred, none => some 0
  | .inferred, some _ => none
  | .absent, _ => none
  | .line n, _ | .listed n, _ => some n

namespace Options

/-! ## Values of options -/

/-- Commas between fields, and everything else inferred. -/
def default : Options :=
  { separation := .known (.char ',')
    comment := none
    trimsStart := false
    skips := fun _ => false
    header := .inferred
    names := none
    rows := none
    selection := none
    typing := .inferred
    gaps := gapWords
    encoding := "utf-8"
    point := '.' }

def char? : Value → Option Char
  | .str s =>
    match s.toList with
    | [c] => some c
    | _ => none
  | _ => none

/-- A number that counts something; it may be a float. -/
def count? : Value → Option Nat
  | .int n => if 0 ≤ n then some n.toNat else none
  | .float x => (floatToInt? x).bind fun n => if 0 ≤ n then some n.toNat else none
  | _ => none

/-- A place in an order that starts at zero. -/
def place? : Value → Option Nat
  | .int n => if 0 ≤ n then some n.toNat else none
  | _ => none

/-- What a value runs through, if it is a collection. -/
def members? : Value → Option (List Value)
  | .list items | .tuple items | .set items => some items
  | .map es => some (es.map Prod.fst)
  | _ => none

/-- Values that are pairwise different. -/
def areDistinct : List Value → Bool
  | [] => true
  | v :: vs => !(vs.any fun w => v.same w) && areDistinct vs

def separation? : Value → Option Separation
  | .null => some .unknown
  | .str s =>
    match s.toList with
    | [] | ['\n'] => none
    | [c] => some (if c.toNat < 128 then .known (.char c) else .mark c)
    | ['\\', 's', '+'] => some (.known .blanks)
    | _ => some (.pattern s)
  | _ => none

/-- Reads the separator from its two options, of which only one may be used. -/
def separationOf? (sep delimiter : Option Value) : Option Separation :=
  match sep, delimiter with
  | none, none | none, some .null => some default.separation
  | some v, none | some v, some .null => separation? v
  | none, some v => separation? v
  | some _, some _ => none

def header? : Value → Option Header
  | .null => some .absent
  | .str "infer" => some .inferred
  | .list [v] | .tuple [v] => (place? v).map .listed
  | v => (place? v).map .line

def names? : Value → Option (Option (List Value))
  | .null => some none
  | .set _ => none
  | v => do
    let names ← members? v
    guard (Value.areKeys names && areDistinct names)
    some (some names)

def skippedLine? : Value → Option Int
  | .bool b => some (if b then 1 else 0)
  | .int n => some n
  | .float x => (FloatParts.of x).quotient?.map fun (n, d) => n.tdiv d
  | _ => none

/-- Reads the lines to leave out: so many at the start, or each that is listed. -/
def skips? : Value → Option (Nat → Bool)
  | .null => some fun _ => false
  | .int n => some fun line => Int.ofNat line < n
  | v => do
    let lines ← (← members? v).mapM skippedLine?
    some fun line => lines.contains (Int.ofNat line)

def texts? (items : List Value) : Option (List String) :=
  items.mapM fun
    | .str s => some s
    | _ => none

/-- The whole numbers among some values, if all are. -/
def wholes? (items : List Value) : Option (List Int) := items.mapM wholeCell?

def selection? : Value → Option (Option Selection)
  | .null => some none
  | v => do
    let items ← members? v
    match wholes? items with
    | some places => some (some (.placed places.eraseDups))
    | none => (texts? items).map fun names => some (.named names.eraseDups)

/-- Reads the type of a column; floats are what is meant by no name. -/
def type? : Value → Option ColumnType
  | .str name => ColumnType.ofName? name
  | .null => some (.fraction .double)
  | _ => none

def typing? : Value → Option Typing
  | .null => some .inferred
  | .map es =>
    (es.mapM fun (e : Value × Value) => (type? e.2).map fun type => (e.1, type)).map .byName
  | v => (type? v).map .same

/-! ## All of them -/

/-- Sets one option. The separator is read apart from the others. -/
def set (o : Options) (name : String) (v : Value) : Option Options :=
  match name with
  | "sep" | "delimiter" => some o
  | "header" => (header? v).map fun h => { o with header := h }
  | "names" => (names? v).map fun names => { o with names := names }
  | "skiprows" => (skips? v).map fun p => { o with skips := p }
  | "nrows" =>
    match v with
    | .null => some o
    | v => (count? v).map fun n => { o with rows := some n }
  | "comment" =>
    match v with
    | .null => some o
    | v => (char? v).map fun c => { o with comment := some c }
  | "usecols" => (selection? v).map fun s => { o with selection := s }
  | "dtype" => (typing? v).map fun t => { o with typing := t }
  | "keep_default_na" => some { o with gaps := if v.isTrue then gapWords else [] }
  | "skipinitialspace" => some { o with trimsStart := v.isTrue }
  | "encoding" =>
    match v with
    | .str name => some (if name.isEmpty then o else { o with encoding := name })
    | v => if v.isTrue then none else some o
  | "decimal" => (char? v).map fun c => { o with point := c }
  | _ => none

/-- Names and a selection that is not empty do not go with a header given as a list. -/
def isConsistent (o : Options) : Bool :=
  match o.header with
  | .listed _ => (o.names.getD []).isEmpty && (o.selection.map Selection.size).getD 0 == 0
  | _ => true

/-- The options that entries stand for, if all of them are known. -/
def ofEntries? (es : Entries) : Option Options := do
  let o ← es.foldlM (fun o (k, v) => match k with
    | .str name => set o name v
    | _ => none) default
  let separation ← separationOf? (es.field? "sep") (es.field? "delimiter")
  let o := { o with separation := separation }
  guard o.isConsistent
  some o

end Options

end Rostering.Csv
