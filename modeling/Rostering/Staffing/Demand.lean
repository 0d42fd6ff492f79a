import Rostering.Decimal.Read
import Rostering.Powers
import Rostering.Table

/-!
# Staffing.Demand — how many workers are needed, and who may work

Two tables describe the work: one says how many workers each day and skill need, in one scenario
or in all of them, and one grants skills to candidates. Days in tables come in many spellings, so
they are compared with the days of an index by label (`matchMembers`).

`demandOf` turns the first table into entries, of which the first for a scenario, day and skill
counts; rows for other days are passed over without a look at their numbers. `grantedSkills` turns
the second into pairs.
-/

namespace Rostering.Staffing

/-! ## Cells -/

/-- The member that a value means: the last one of its label. -/
def matchMember? (members : List Value) (v : Value) : Option Value :=
  members.reverse.find? fun m => m.label == v.label

def matchMembers (values members : List Value) : List (Option Value) :=
  values.map (matchMember? members)

/-- A cell that says yes: a word for it, or anything else that counts as true. -/
def isAffirmed : Value → Except Fault Bool
  | .str s => pure (["true", "yes", "y", "1"].contains (Text.lower (Text.stripped s)))
  | .float x => pure (!(x == 0) && !x.isNaN)
  | v => v.truth

def isGap : Value → Bool
  | .null | .noMoment => true
  | .float x => x.isNaN
  | _ => false

def moment? : Value → Option Moment
  | .day (.moment m) => some m
  | _ => none

/-- A moment in a column of them, with so many digits behind the seconds. -/
def momentText (dateOnly : Bool) (places : Nat) (m : Moment) : String :=
  let time := " " ++ padded 2 m.hour ++ ":" ++ padded 2 m.minute ++ ":" ++ padded 2 m.second
  let fraction := if places = 0 then "" else "." ++ padded places (m.micro / tenTo (6 - places))
  if dateOnly then m.date.iso else m.date.iso ++ time ++ fraction

/-- The moments of a column as texts: all show dates alone if all are at midnight, and all have as
many digits behind the seconds as the finest needs, in groups of three. -/
def momentTexts (cells : List Value) : List (Option String) :=
  let moments := cells.filterMap moment?
  let places :=
    if moments.all fun m => m.micro == 0 then 0
    else if moments.all fun m => m.micro % 1000 == 0 then 3 else 6
  let dateOnly := moments.all Moment.isMidnight
  cells.map fun v => (moment? v).map (momentText dateOnly places)

/-- A cell as text. Bytes are read as text. -/
def cellText : Value → String
  | .bytes bs => (String.fromUTF8? ⟨bs.toArray⟩).getD (Value.bytes bs).shown
  | v => v.shown

/-- The cells of a column as texts; gaps have none. -/
def cellTexts (cells : List Value) : List (Option String) :=
  let isPlain := cells.all Value.isMomentCell && (cells.filterMap Value.zone?).all Option.isNone
  if isPlain then momentTexts cells
  else cells.map fun v => if isGap v then none else some (cellText v)

/-! ## Demand -/

/-- The number that a cell stands for: a number or a text that reads as one. -/
def numberOf? : Value → Except Fault (Option Float)
  | .int n =>
    let x := floatOfInt n
    if floatIsFinite x then pure (some x) else throw .overflow
  | .float x => pure (some x)
  | .str s => pure (floatOfText? s)
  | _ => pure none

/-- A number of workers: a broken one is rounded up. Messages show the value by the text given for
it. -/
def requiredCount (value : Value) (shown : String) (day : Value) (skill : String) :
    Except Fault Nat := do
  match ← numberOf? value with
  | none =>
    throw (if value.hasText then .demandNotNumber day.label skill shown else .overlong)
  | some x =>
    match (FloatParts.of x).ceil? with
    | some n => if x < 0 then throw (.demandNegative day.label skill shown) else pure n.toNat
    | none => throw (.demandNegative day.label skill shown)

/-- How many workers a scenario needs on a day with a skill. Scenario and skill are missing where
the table has a gap. -/
structure DemandEntry where
  scenario : Option String
  day : Value
  skill : Option String
  count : Nat

namespace DemandEntry

/-- The entry is about a scenario, day and skill. -/
def isFor (scenario : Option String) (day : Value) (skill : Option String) (e : DemandEntry) :
    Bool :=
  e.scenario == scenario && e.day.same day && e.skill == skill

/-- Adds an entry unless there is one about the same. -/
def add (e : DemandEntry) (es : List DemandEntry) : List DemandEntry :=
  if es.any (isFor e.scenario e.day e.skill) then es else es ++ [e]

end DemandEntry

def countFor? (es : List DemandEntry) (scenario : String) (day : Value) (skill : String) :
    Option Nat :=
  (es.find? (DemandEntry.isFor (some scenario) day (some skill))).map DemandEntry.count

def column (t : Table) (name : String) : Except Fault (List Value) :=
  match t.column? (.str name) with
  | some cells => pure cells
  | none => throw (.noKey (quotedText name))

/-- A row of a demand table: the scenarios it is for, its day, skill and number. -/
structure DemandRow where
  scenarios : List (Option String)
  day : Option Value
  skill : Option String
  value : Value
  shown : String

/-- A column whose cells are all taken as texts. -/
def textColumn (t : Table) (name : String) : Except Fault (List Value) := do
  let cells ← column t name
  Value.checkTexts cells
  pure cells

/-- The rows of a demand table. Without a column for it, each row is for every scenario. -/
def demandRows (t : Table) (days : List Value) (scenarios : List String) :
    Except Fault (List DemandRow) := do
  let members := matchMembers (← textColumn t "day") days
  let targets ←
    if t.hasColumn (.str "scenario") then
      (textColumn t "scenario").map fun cells => (cellTexts cells).map fun s => [s]
    else pure (t.rows.map fun _ => scenarios.map some)
  let skills := cellTexts (← textColumn t "skill")
  let values ← column t "value"
  pure ((targets.zip (members.zip (skills.zip (values.zip (Value.quotedCells values))))).map
    fun (targets, day, skill, value, shown) => ⟨targets, day, skill, value, shown⟩)

/-- The entries of one row behind those of earlier rows. -/
def addRow (es : List DemandEntry) (row : DemandRow) : Except Fault (List DemandEntry) :=
  match row.day with
  | none | some .null => pure es
  | some day => do
    let count ← requiredCount row.value row.shown day (row.skill.getD "nan")
    if !day.isKey && !row.scenarios.isEmpty then throw .mistyped
    pure (row.scenarios.foldl (fun es s => DemandEntry.add ⟨s, day, row.skill, count⟩ es) es)

/-- The entries of a demand table for some days and scenarios. A cell for a day, skill or scenario
that has no text is a fault in any row; a number is looked at only where the day is one of them. -/
def demandOf (t : Table) (days : List Value) (scenarios : List String) :
    Except Fault (List DemandEntry) := do
  (← demandRows t days scenarios).foldlM addRow []

/-! ## Skills -/

/-- A cell of a row by its column, which has to be there; of several the last. -/
def cell (t : Table) (row : List Value) (name : String) : Except Fault Value :=
  match (t.positions (.str name)).getLast? with
  | some i => pure (Table.cellAt i row)
  | none => throw (.noKey (quotedText name))

/-- The row grants its skill: there is no flag, or the flag says yes. -/
def grants (t : Table) (row : List Value) : Except Fault Bool :=
  if t.hasColumn (.str "has_skill") then do isAffirmed (← cell t row "has_skill") else pure true

/-- The pair of candidate and skill that a row grants, if it does. -/
def granted? (t : Table) (row : List Value) : Except Fault (Option (String × String)) := do
  if ← grants t row then
    let candidate ← cell t row "candidate"
    let skill ← cell t row "skill"
    pure (some (← candidate.text, ← skill.text))
  else pure none

/-- The pairs of candidate and skill that a table grants. -/
def grantedSkills (t : Table) : Except Fault (List (String × String)) := do
  let pairs ← t.rows.mapM (granted? t)
  pure (pairs.filterMap id).eraseDups

end Rostering.Staffing
