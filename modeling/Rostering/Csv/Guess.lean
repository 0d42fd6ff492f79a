import Rostering.Text.Pattern.Reader

/-!
# Csv.Guess — separators that are found out

Where nothing is said of the separator, a line has to show it. If the line has quotes, the
separator is the character that stands next to them most often (`besideQuotes?`). Else it is one of
the usual ones that occurs, or else the character of ASCII that occurs most often (`byCount?`).
-/

namespace Rostering.Csv.Guess

/-- Quoted fields with separators around them, behind them and in front of them, and alone in their
line. -/
def quotePatterns : List String :=
  ["(?P<delim>[^\\w\\n\"\\x27])(?P<space> ?)(?P<quote>[\"\\x27]).*?(?P=quote)(?P=delim)",
    "(?:^|\\n)(?P<quote>[\"\\x27]).*?(?P=quote)(?P<delim>[^\\w\\n\"\\x27])(?P<space> ?)",
    "(?P<delim>[^\\w\\n\"\\x27])(?P<space> ?)(?P<quote>[\"\\x27]).*?(?P=quote)(?:$|\\n)",
    "(?:^|\\n)(?P<quote>[\"\\x27]).*?(?P=quote)(?:$|\\n)"]

/-- What the pattern finds beside quotes, for each place where it matches. -/
def neighbours (e : Text.Expression) (text : Array Char) : List (Option Char) :=
  (e.occurrences text).map fun (_, m) => do
    let number ← e.names.lookup "delim"
    (← m.group? text number).head?

/-- The first of the most frequent items. -/
def mostFrequent? (cs : List Char) : Option Char :=
  let most := (cs.map cs.count).foldl max 0
  cs.find? fun c => cs.count c == most

/-- The character that stands next to quotes most often. -/
def besideQuotes? (text : Array Char) : Option Char :=
  let flags : Text.Expression.Flags := ⟨false, true, true⟩
  let found := quotePatterns.map fun source =>
    match Text.Expression.parse? flags source with
    | some e => neighbours e text
    | none => []
  match found.find? fun cs => !cs.isEmpty with
  | some cs => mostFrequent? (cs.filterMap id)
  | none => none

/-- Usual separators, the most usual first. -/
def usual : List Char := [',', '\t', ';', ' ', ':']

/-- The character goes before another: it occurs more often, or as often and comes later in
ASCII. -/
def dominates (cs : List Char) (a b : Char) : Bool :=
  cs.count b < cs.count a || (cs.count b == cs.count a && b ≤ a)

/-- The only character, a usual separator among several, or else the most frequent one. -/
def byCount? (cs : List Char) : Option Char :=
  let cs := cs.filter fun c => c != '\n' && c.toNat < 127
  match cs.eraseDups with
  | [c] => some c
  | candidates =>
    match usual.find? candidates.contains with
    | some c => some c
    | none => candidates.find? fun c => candidates.all (dominates cs c)

def separator? (line : String) : Option Char :=
  (besideQuotes? line.toList.toArray).or (byCount? line.toList)

end Rostering.Csv.Guess
