import Rostering.Csv.Number
import Rostering.Table

/-!
# Csv.Column — the cells of a column of texts

All cells of a column get one type, the first that fits every one of them: whole numbers, floats,
truth values, texts (`inferredColumn`). Cells without data fit every type. They become the number
that is not one, and turn whole numbers into floats.

Whole numbers are read as signed ones of 64 bits, or else without a sign, or else in any size. A
column that has numbers for which only the second will do, and others or gaps for which it will
not, remains as it was written.

A column may also be asked to have a type (`typedColumn?`). Its cells are then read as such, and
where they are not written like it they are read as what they are, which has to come to the same
without loss.
-/

namespace Rostering.Csv

/-! ## Cells -/

/-- A cell that has no type yet. -/
structure Cell where
  text : String
  /-- The text says that there are no data. -/
  missing : Bool

def Cell.given? (c : Cell) : Option String := if c.missing then none else some c.text

/-- Words for missing data. -/
def gapWords : List String :=
  ["", "#N/A", "#N/A N/A", "#NA", "-1.#IND", "-1.#QNAN", "-NaN", "-nan", "1.#IND", "1.#QNAN",
    "<NA>", "N/A", "NA", "NULL", "NaN", "None", "n/a", "nan", "null"]

/-- A cell of a text, which may be one of some words for missing data. -/
def Cell.of (gaps : List String) (text : String) : Cell := ⟨text, gaps.contains text⟩

/-! ## Columns of one type -/

/-- A column whose cells have one type; nothing stands where data are missing. -/
inductive Column where
  /-- Whole numbers of 64 bits. -/
  | wholes (cells : List (Option Int))
  /-- Whole numbers of any size. -/
  | longs (cells : List (Option Int))
  | floats (cells : List (Option Float))
  | truths (cells : List (Option Bool))
  | texts (cells : List (Option String))

/-- A whole number among gaps. -/
def gappedNumber (n : Int) : Value :=
  let x := floatOfInt n
  -- the least number of 64 bits stands for a gap itself
  if x == floatOfInt leastWord then notANumber else .float x

/-- Cells as values, with gaps among them. -/
def withGaps {α : Type} (value : α → Value) (cells : List (Option α)) : List Value :=
  cells.map fun c => (c.map value).getD notANumber

def Column.values : Column → List Value
  | .wholes cells =>
    if cells.all Option.isSome then withGaps .int cells else withGaps gappedNumber cells
  | .longs cells => withGaps .int cells
  | .floats cells => withGaps .float cells
  | .truths cells => withGaps .bool cells
  | .texts cells => withGaps .str cells

/-- Reads all cells that have data, up to the first that cannot be read. -/
def readCells {m : Type → Type} [Monad m] {α : Type} (read : String → m α) (cells : List Cell) :
    m (List (Option α)) :=
  cells.mapM fun c =>
    match c.given? with
    | none => pure none
    | some s => some <$> read s

/-! ## Inferred types -/

/-- A column of texts. -/
def textColumn (cells : List Cell) : Column := .texts (cells.map Cell.given?)

/-- A column as it was written, gaps included. -/
def writtenColumn (cells : List Cell) : Column := .texts (cells.map fun c => some c.text)

/-- A column of floats or truth values, or else of texts. -/
def fractionColumn (point : Char) (cells : List Cell) : Column :=
  match readCells (floatNumber? point) cells with
  | some xs => .floats xs
  | none =>
    match readCells truthValue? cells with
    | some bs => .truths bs
    | none => textColumn cells

/-- A column of whole numbers of any size, or else as it was written. -/
def longColumn (cells : List Cell) : Column :=
  match readCells anyWhole? cells with
  | some ns => .longs ns
  | none => writtenColumn cells

/-- The numbers of a column in which some are too large for a sign. Those that have one are left
out; where there is no number there is a gap. -/
def naturalCells (cells : List Cell) : Except Unfit (List (Option (Option Int))) :=
  readCells naturalNumber cells

/-- Some number is too large for a signed one. -/
def haveLarge (cells : List (Option (Option Int))) : Bool :=
  cells.any fun c => c.join.any (wordLimit ≤ ·)

/-- A column in which some whole number is too large for a signed one. -/
def largeColumn (point : Char) (cells : List Cell) : Column :=
  match naturalCells cells with
  | .error .shape => fractionColumn point cells
  | .error .size => longColumn cells
  | .ok ns =>
    let isSigned := ns.any (· == some none)
    if haveLarge ns && (isSigned || ns.any Option.isNone) then writtenColumn cells
    else if isSigned then longColumn cells
    else .wholes (ns.map Option.join)

/-- Gives a column the first type that fits. -/
def inferredColumn (point : Char) (cells : List Cell) : Column :=
  match readCells signedNumber cells with
  | .ok ns => .wholes ns
  | .error .shape => fractionColumn point cells
  | .error .size => largeColumn point cells

/-! ## Types by name -/

/-- How exact floats are. -/
inductive Precision where
  | half
  | single
  | double
  deriving DecidableEq

def Precision.round : Precision → Float → Float
  | .half => toHalf
  | .single => toSingle
  | .double => id

/-- Types that a column may be asked to have. -/
inductive ColumnType where
  /-- Signed numbers of so many bits. -/
  | whole (bits : Nat)
  /-- Numbers without a sign, of so many bits. -/
  | natural (bits : Nat)
  | fraction (precision : Precision)
  | truth
  | text
  /-- Whatever the cells are, of which each is expected many times. -/
  | category
  /-- Types that keep gaps apart from data. -/
  | gappedWhole (bits : Nat)
  | gappedNatural (bits : Nat)
  | gappedFraction (precision : Precision)
  | gappedTruth
  deriving DecidableEq

namespace ColumnType

def words : List (String × ColumnType) :=
  [("int", whole 64), ("int8", whole 8), ("int16", whole 16), ("int32", whole 32),
    ("int64", whole 64), ("int_", whole 64), ("byte", whole 8), ("short", whole 16),
    ("intc", whole 32), ("long", whole 64), ("longlong", whole 64), ("intp", whole 64),
    ("uint", natural 64), ("uint8", natural 8), ("uint16", natural 16), ("uint32", natural 32),
    ("uint64", natural 64), ("ubyte", natural 8), ("ushort", natural 16), ("uintc", natural 32),
    ("ulong", natural 64), ("ulonglong", natural 64), ("uintp", natural 64),
    ("float", fraction .double), ("float16", fraction .half), ("float32", fraction .single),
    ("float64", fraction .double), ("half", fraction .half), ("single", fraction .single),
    ("double", fraction .double),
    ("bool", truth), ("bool_", truth), ("str", text), ("str_", text), ("object", text),
    ("object_", text), ("string", text), ("category", category),
    ("Int8", gappedWhole 8), ("Int16", gappedWhole 16), ("Int32", gappedWhole 32),
    ("Int64", gappedWhole 64), ("UInt8", gappedNatural 8), ("UInt16", gappedNatural 16),
    ("UInt32", gappedNatural 32), ("UInt64", gappedNatural 64),
    ("Float32", gappedFraction .single), ("Float64", gappedFraction .double),
    ("boolean", gappedTruth)]

def codes : List (String × ColumnType) :=
  [("b", whole 8), ("i1", whole 8), ("h", whole 16), ("i2", whole 16), ("i", whole 32),
    ("i4", whole 32), ("l", whole 64), ("q", whole 64), ("p", whole 64), ("i8", whole 64),
    ("B", natural 8), ("u1", natural 8), ("H", natural 16), ("u2", natural 16),
    ("I", natural 32), ("u4", natural 32), ("L", natural 64), ("Q", natural 64),
    ("P", natural 64), ("u8", natural 64),
    ("e", fraction .half), ("f2", fraction .half), ("f", fraction .single),
    ("f4", fraction .single), ("d", fraction .double), ("f8", fraction .double),
    ("?", truth), ("b1", truth), ("O", text), ("U", text)]

/-- The type of a name. A mark for the order of bytes may stand in front of letters. -/
def ofName? (name : String) : Option ColumnType :=
  match words.lookup name with
  | some type => some type
  | none =>
    match name.toList with
    | c :: rest =>
      if ['<', '>', '=', '|'].contains c then codes.lookup (String.ofList rest)
      else codes.lookup name
    | [] => none

end ColumnType

/-! ## Columns of a given type -/

/-- A signed number of so many bits; one of 64 bits is as it was read. -/
def narrowedWhole (bits : Nat) (n : Int) : Int := if bits < 64 then n.bmod (twoTo bits) else n

/-- A number without a sign, of so many bits. -/
def narrowedNatural (bits : Nat) (n : Int) : Int := n % Int.ofNat (twoTo bits)

def isWholeOf (bits : Nat) (n : Int) : Bool :=
  -Int.ofNat (twoTo (bits - 1)) ≤ n && n < Int.ofNat (twoTo (bits - 1))

/-- A number without a sign fits into so many bits. -/
def isNaturalOf (bits : Nat) (n : Int) : Bool := 0 ≤ n && n < Int.ofNat (twoTo bits)

/-- The cells of a column as whole numbers, if they are such without loss and none is missing. -/
def Column.asWholes? (holds : Int → Bool) : Column → Option (List Value)
  | .truths bs => bs.mapM fun b => b.map fun b => .int (if b then 1 else 0)
  | .floats xs => xs.mapM fun x => do
    let n ← floatToInt? (← x)
    guard (holds n)
    some (.int n)
  | _ => none

/-- The cells of a column as truth values, if they are such without loss and none is missing. -/
def Column.asTruths? : Column → Option (List Value)
  | .truths bs => bs.mapM fun b => b.map .bool
  | .wholes ns => ns.mapM fun n => do
    let n ← n
    guard (n == 0 || n == 1)
    some (.bool (n == 1))
  | .floats xs => xs.mapM fun x => do
    let x ← x
    guard (x == 0 || x == 1)
    some (.bool (x == 1))
  | _ => none

/-- Whole numbers of which none is missing, each one narrowed. -/
def wholeColumn? (point : Char) (holds : Int → Bool) (narrowed : Int → Int) (cells : List Cell) :
    Option (List Value) :=
  let give (n : Option Int) := n.map fun n => Value.int (narrowed n)
  match readCells signedNumber cells with
  | .ok ns => ns.mapM give
  | .error .shape => (fractionColumn point cells).asWholes? holds
  | .error .size =>
    match naturalCells cells with
    | .ok ns => ns.mapM fun n => give n.join
    | .error .shape => (fractionColumn point cells).asWholes? holds
    | .error .size => none

/-- Floats of a precision, or truth values as floats. -/
def floatColumn? (point : Char) (precision : Precision) (cells : List Cell) :
    Option (List Value) :=
  match readCells (floatNumber? point) cells with
  | some xs => some (withGaps (fun x => .float (precision.round x)) xs)
  | none => (readCells truthValue? cells).map (withGaps fun b => .float (if b then 1 else 0))

/-- Truth values of which none is missing. -/
def truthColumn? (point : Char) (cells : List Cell) : Option (List Value) :=
  match readCells truthValue? cells with
  | some bs => (Column.truths bs).asTruths?
  | none => (inferredColumn point cells).asTruths?

/-- Numbers where all cells are such, and else texts. -/
def categoryColumn (cells : List Cell) : Column :=
  match inferredColumn '.' cells with
  | .wholes ns => .wholes ns
  | .longs ns => .longs ns
  | .floats xs => .floats xs
  | _ => textColumn cells

/-- A number, whole or not. An empty text is none, but a gap. -/
def anyNumber? (s : String) : Option (Option (Int ⊕ Float)) :=
  if s.isEmpty then some none
  else
    match signedNumber s, naturalNumber s with
    | .ok n, _ => some (some (.inl n))
    | _, .ok (some n) => some (some (.inl n))
    | _, _ => (floatNumber? '.' s).map fun x => some (.inr x)

/-- Numbers that become values of some type; all of them have to. -/
def gappedColumn? (give : Int ⊕ Float → Option Value) (cells : List Cell) :
    Option (List Value) := do
  let ns ← readCells anyNumber? cells
  ns.mapM fun n =>
    match n.join with
    | none => some notANumber
    | some n => give n

/-- A whole number as a value, if it is in range. -/
def gappedWhole? (holds : Int → Bool) : Int ⊕ Float → Option Value
  | .inl n => if holds n then some (.int n) else none
  | .inr x => (floatToInt? x).bind fun n => if holds n then some (.int n) else none

/-- A number as a float. -/
def gappedFloat (precision : Precision) : Int ⊕ Float → Value
  | .inl n => .float (precision.round (floatOfInt n))
  | .inr x => .float (precision.round x)

/-- A column of a type, if its cells fit. -/
def typedColumn? (point : Char) (type : ColumnType) (cells : List Cell) : Option (List Value) :=
  match type with
  | .text => some (textColumn cells).values
  | .category => some (categoryColumn cells).values
  | .fraction precision => floatColumn? point precision cells
  | .whole bits => wholeColumn? point (isWholeOf bits) (narrowedWhole bits) cells
  | .natural bits => wholeColumn? point (isNaturalOf bits) (narrowedNatural bits) cells
  | .truth => truthColumn? point cells
  | .gappedWhole bits => gappedColumn? (gappedWhole? (isWholeOf bits)) cells
  | .gappedNatural bits => gappedColumn? (gappedWhole? (isNaturalOf bits)) cells
  | .gappedFraction precision => gappedColumn? (fun n => some (gappedFloat precision n)) cells
  | .gappedTruth => (readCells truthWord? cells).map (withGaps .bool)

end Rostering.Csv
