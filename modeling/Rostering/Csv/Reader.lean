import Rostering.Csv.Guess
import Rostering.Csv.Layout
import Rostering.Csv.RowLayout
import Rostering.Text.Encoding

/-!
# Csv.Reader — separated text as a table

`Csv.table?` reads a text by options (`Options.ofEntries?`). Where the separator is a character
of ASCII or runs of blanks, the text is scanned as a whole (`Csv.Scan`). Else it is cut line by line
into rows (`Csv.Row`), and the first line that counts may have to show the separator (`Csv.Guess`).
-/

namespace Rostering.Csv

def scannedTable? (o : Options) (separator : Separator) (text : String) : Option Table := do
  let (all, isOpen) := scan ⟨separator, o.comment, o.trimsStart, o.skips⟩ text
  let lines ←
    match o.neededLines with
    | some n => if isOpen && all.length < n then none else some (all.take n)
    | none => if isOpen then none else some all
  let lines ← o.evened lines
  let layout ← Layout.of? o lines
  layout.table? o lines

def freshFeed (rows : Rows) : RowFeed := ⟨rows.rows, rows.broken, 0, 0, []⟩

/-- Rows whose separator the first line shows that is not left out and not all comment. That line
is read first, and need not be sound. -/
def guessedFeed? (o : Options) : (place : Nat) → List String → Option RowFeed
  | _, [] => none
  | place, line :: rest =>
    match o.skips place, cutComment o [some line] with
    | false, some shown :: _ => do
      let separator ← Guess.separator? shown
      let first := markedRows ⟨separator, o.trimsStart, false⟩ [shown]
      let rows := markedRows ⟨separator, o.trimsStart, true⟩ rest
      some ⟨rows.rows, rows.broken, place + 1, 1, first.rows⟩
    | _, _ => guessedFeed? o (place + 1) rest

def rowTable? (o : Options) (feed : RowFeed) : Option Table := do
  let layout ← RowLayout.of? o feed
  layout.table? o

def table? (o : Options) (text : String) : Option Table := do
  let text ← (← Text.Encoding.ofName? o.encoding).reread? text
  match o.separation with
  | .known separator => scannedTable? o separator text
  | .mark c => rowTable? o (freshFeed (markedRows ⟨c, o.trimsStart, true⟩ (textLines text)))
  | .pattern source => do
    let pattern ← Text.Expression.parse? .plain source
    rowTable? o (freshFeed (patternRows pattern (textLines text)))
  | .unknown => do
    let feed ← guessedFeed? o 0 (textLines text)
    rowTable? o feed

end Rostering.Csv
