import Rostering.Model.Solution

/-!
# Model.Report — models and solutions as values

Variables are reported in the order of their numbers, constraints in the order in which they were
added, and sums in normal form.
-/

namespace Rostering

/-- A variable: its name and, if there are values for it, its bounds. -/
def Variable.report (x : Variable) : Value :=
  .list (.str x.name :: (if x.lower ≤ x.upper then [.int x.lower, .int x.upper] else []))

/-! ## Sums -/

def numberValue (i : Nat) : Value := .int (Int.ofNat i)

/-- A bound; the ends of the range of words count as none. -/
def boundReport : Option Int → Value
  | some n => if n == leastWord || n == wordLimit - 1 then .null else .int n
  | none => .null

def Constraint.report (c : Constraint) : Value :=
  .list [.list (c.terms.merged.map fun (i, n) => .list [numberValue i, .int n]),
    boundReport c.lower, boundReport c.upper]

/-- A coefficient; floats that are whole numbers are shown as such while they are exact. -/
def Coefficient.report : Coefficient → Value
  | .whole n => .int n
  | .real x =>
    match floatToInt? x with
    | some n => if n.natAbs < twoTo 53 then .int n else .float x
    | none => .float x

/-- A goal: its direction, what asked for it, and its sum. -/
def Objective.report (o : Objective) : Value :=
  .ofFields [("sense", .str o.sense.name), ("source", .str o.source),
    ("kind", .str (if o.isReal then "float" else "int")),
    ("terms", .list (o.counted.map fun (i, c) => .list [numberValue i, c.report])),
    ("offset", .int 0)]

/-! ## Models -/

def labelsOf (l : List Value) : Value := .ofTexts (l.map Value.label)

namespace Model

def sizeReport (m : Model) : Value := .list [numberValue m.size.1, numberValue m.size.2]

def familiesReport (m : Model) : Value :=
  .ofFields (m.families.entries.map fun (name, f) => (name, .list (f.keys.map labelsOf)))

def report (m : Model) : List (String × Value) :=
  [("variables", .list (m.vars.map Variable.report)), ("families", m.familiesReport),
    ("constraints", .list (m.constraints.map Constraint.report)),
    ("objective", (m.objective.map Objective.report).getD .null), ("size", m.sizeReport)]

/-- The members of the indexes that a model was made from, and the remarks on how. -/
def originReport (m : Model) : List (String × Value) :=
  [("metadata", .ofFields (m.members.map fun (name, l) => (name, labelsOf l))),
    ("warnings", .ofTexts m.notices)]

end Model

/-! ## Solutions -/

/-- A float rounded to six places, a half to the even neighbour. Zero has no sign. -/
def roundedToSix (x : Float) : Float :=
  match (FloatParts.of x).quotient? with
  | none => x
  | some (n, d) =>
    let scaled := n.natAbs * tenTo 6
    let down := scaled / d
    let rest := 2 * (scaled % d)
    let isUp := d < rest || (rest == d && down % 2 == 1)
    let rounded := if isUp then down + 1 else down
    nearestFloat (n < 0 && rounded != 0) rounded (-6)

def Solution.report (s : Solution) : Value :=
  .ofFields [("status", .str s.status), ("objective_value", (s.objective.map .float).getD .null),
    ("variables", .map (Entries.ofFields s.values.entries))]

end Rostering
