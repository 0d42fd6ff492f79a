import Rostering.Csv.Options
import Rostering.Csv.Row

/-!
# Csv.RowFeed — rows that are taken one by one

Rows that hold nothing are passed over, comments are cut off, and lines to leave out are left out
in front of each row that is asked for (`RowFeed.next?`). Rows that were looked at and not used stay
in a buffer, from which the content of a table begins (`RowFeed.content?`).
-/

namespace Rostering.Csv

/-! ## Single rows -/

/-- Cuts a row at the first field with a comment, unless the field is a word for missing data. -/
def cutComment (o : Options) : Row → Row
  | [] => []
  | none :: rest => none :: cutComment o rest
  | some s :: rest =>
    match o.comment with
    | none => some s :: cutComment o rest
    | some mark =>
      if !s.toList.contains mark || o.gaps.contains s then some s :: cutComment o rest
      else
        let before := s.toList.takeWhile (· != mark)
        if before.isEmpty then [] else [some (String.ofList before)]

/-- The row holds nothing but at most one blank text. -/
def isEmptyRow : Row → Bool
  | [] => true
  | [some s] => s.toList.all Text.isBlank
  | _ => false

/-- A first row without the mark for the order of bytes. Behind the mark there may be quotes, which
have to be closed and count for nothing. -/
def unmarkedRow? : Row → Option Row
  | some s :: rest =>
    match s.toList with
    | c :: cs =>
      if c != Char.ofNat 0xFEFF then some (some s :: rest)
      else
        match cs with
        | '"' :: inner =>
          let quoted := inner.takeWhile (· != '"')
          match inner.drop quoted.length with
          | _ :: behind => some (some (String.ofList (quoted ++ behind)) :: rest)
          | [] => none
        | cs => some (some (String.ofList cs) :: rest)
    | [] => some (some s :: rest)
  | row => some row

/-- Behind digits and a fraction there is nothing, or an exponent. -/
def endsNumber : List Char → Bool
  | [] => true
  | c :: cs =>
    let digits := match cs with
      | '-' :: cs => cs
      | cs => cs
    (c == 'e' || c == 'E') && !digits.isEmpty && digits.all Char.isDigit

/-- The text looks like a number with some mark for its fraction. -/
def looksNumeric (point : Char) (s : String) : Bool :=
  let (_, cs) := readSign (Text.stripped s).toList
  let (_, cs) := spanDigits cs
  match cs with
  | c :: rest => if c == point then endsNumber (spanDigits rest).2 else endsNumber cs
  | [] => true

/-- Numbers of a row with a point for their fraction. -/
def pointedRow (point : Char) (row : Row) : Row :=
  if point == '.' then row
  else
    row.map fun field => field.map fun s =>
      if looksNumeric point s then s.map fun c => if c == point then '.' else c else s

/-! ## The feed -/

/-- Rows to come and rows in the buffer. -/
structure RowFeed where
  rest : List Row
  /-- What comes behind the rows cannot be read. -/
  broken : Bool
  /-- Number of rows taken from the text. -/
  taken : Nat
  /-- Number of rows that were found to hold something. -/
  found : Nat
  buffer : List Row

namespace RowFeed

/-- Takes a row off the text. There is none at its end; a fault in the text is an error. -/
def take? (f : RowFeed) : Option (Option Row × RowFeed) :=
  match f.rest with
  | row :: rest => some (some row, { f with rest := rest, taken := f.taken + 1 })
  | [] => if f.broken then none else some (none, f)

def skip (o : Options) : (fuel : Nat) → RowFeed → RowFeed
  | 0, f => f
  | fuel + 1, f =>
    match f.rest with
    | _ :: rest =>
      if o.skips f.taken then skip o fuel { f with rest := rest, taken := f.taken + 1 } else f
    | [] => f

/-- Takes rows until one holds something. -/
def takeFilled? (o : Options) : (fuel : Nat) → RowFeed → Option (Option Row × RowFeed)
  | 0, f => some (none, f)
  | fuel + 1, f => do
    let (row, f) ← f.take?
    match row with
    | none => some (none, f)
    | some row =>
      let row := cutComment o row
      if isEmptyRow row then takeFilled? o fuel f else some (some row, f)

/-- The next row that holds something, which is also put into the buffer. -/
def next? (o : Options) (f : RowFeed) : Option (Option Row × RowFeed) := do
  let fuel := f.rest.length + 1
  let (row, f) ← (f.skip o fuel).takeFilled? o fuel
  match row with
  | none => some (none, f)
  | some row =>
    let row ← if f.taken = 1 then unmarkedRow? row else some row
    some (some row, { f with found := f.found + 1, buffer := f.buffer ++ [row] })

/-- The first row of the buffer, or else the next row. -/
def peek? (o : Options) (f : RowFeed) : Option (Option Row × RowFeed) :=
  match f.buffer with
  | row :: _ => some (some row, f)
  | [] => f.next? o

/-- Takes rows until so many have been found, the one in hand among them. -/
def advance? (o : Options) (count : Nat) : (fuel : Nat) → Option Row × RowFeed →
    Option (Option Row × RowFeed)
  | 0, now => some now
  | fuel + 1, (row, f) =>
    if count ≤ f.found then some (row, f)
    else do
      let now ← f.next? o
      match now.1 with
      | none => some now
      | some _ => advance? o count fuel now

/-- The row of a line, counted from zero. -/
def line? (o : Options) (f : RowFeed) (line : Nat) : Option (Option Row × RowFeed) := do
  let now ← f.peek? o
  match now.1 with
  | none => some now
  | some _ => advance? o (line + 1) (f.rest.length + 1) now

/-- The first rows of a text that are not left out, so many of them, counted from a place on; a
fault behind the rows is an error if more of them are asked for. -/
def keptRows? (o : Options) (broken : Bool) : (place : Nat) → (count : Option Nat) →
    List Row → Option (List Row)
  | _, some 0, _ => some []
  | _, _, [] => if broken then none else some []
  | place, count, row :: rest =>
    if o.skips place then keptRows? o broken (place + 1) count rest
    else (keptRows? o broken (place + 1) (count.map (· - 1)) rest).map (row :: ·)

/-- The rows of the content: those in the buffer and those to come, so many if rows are counted.
Rows that hold nothing count, but are left out afterwards. -/
def content? (o : Options) (f : RowFeed) : Option (List Row) := do
  let rows ←
    match o.rows with
    | some n =>
      if n ≤ f.buffer.length then some (f.buffer.take n)
      else
        (keptRows? o f.broken f.taken (some (n - f.buffer.length)) f.rest).map (f.buffer ++ ·)
    | none => (keptRows? o f.broken f.taken none f.rest).map (f.buffer ++ ·)
  some (((rows.map (cutComment o)).filter fun row => !isEmptyRow row).map (pointedRow o.point))

end RowFeed

end Rostering.Csv
