import Rostering.Model.Search

/-!
# Model.Outcome — solving a model

A model is valid if all its numbers can be handled: no variable without values, no sum that could
leave the range of words, no coefficient that is not a number. A valid model either has a best
point, which gives all its families values, or no point that satisfies its constraints.

Coefficients that are floats are taken for the fractions that they are, so that points are compared
exactly.
-/

namespace Rostering

/-! ## Validity -/

/-- The largest size that sums may reach. -/
def sumLimit : Int := Int.ofNat (twoTo 62) - 1

def isWithinLimit (n : Int) : Bool := -sumLimit ≤ n && n ≤ sumLimit

namespace Box

/-- How far a sum may go below zero and above it, as its terms are added up in some order. -/
def reach (b : Box) (t : Terms) : Int × Int :=
  t.foldl (fun (low, high) (i, c) =>
    let (l, u) := b.bounds i
    (low + min 0 (min (c * l) (c * u)), high + max 0 (max (c * l) (c * u)))) (0, 0)

/-- A sum stays in range. -/
def allows (b : Box) (t : Terms) : Bool :=
  let (low, high) := b.reach t
  isWithinLimit low && isWithinLimit high

end Box

/-- A variable has values, and none out of range. -/
def Variable.isValid (x : Variable) : Bool :=
  x.lower ≤ x.upper && isWithinLimit x.lower && isWithinLimit x.upper

/-! ## Goals in whole numbers -/

/-- A goal in whole numbers: its terms, each multiplied by `2 ^ places`. -/
structure WholeGoal where
  terms : Terms
  places : Nat

/-- The largest size of a coefficient in a goal of floats. -/
def largestCoefficient : Nat := tenTo 20

/-- The coefficient as a fraction whose denominator is a power of two. -/
def Coefficient.quotient? : Coefficient → Option (Int × Nat)
  | .whole n => some (n, 1)
  | .real x => (FloatParts.of x).quotient?

namespace Objective

/-- There is a coefficient that makes the goal one of floats. -/
def isReal (o : Objective) : Bool := o.terms.any fun e => e.2.isReal

/-- The terms as they count: each variable once, and all coefficients floats if one is. -/
def counted (o : Objective) : List (Nat × Coefficient) :=
  let terms := Coefficient.merged o.terms
  if o.isReal then terms.map fun (i, c) => (i, .real c.toFloat) else terms

/-- The goal in whole numbers, if all coefficients are numbers and those of floats not too
large. -/
def whole? (o : Objective) : Option WholeGoal := do
  let fractions ← o.counted.mapM fun (i, c) => do
    let (n, d) ← c.quotient?
    guard (!o.isReal || n.natAbs ≤ largestCoefficient * d)
    pure (i, n, d)
  let places := fractions.foldl (fun k (_, _, d) => max k d.log2) 0
  pure ⟨fractions.map fun (i, n, d) => (i, n * Int.ofNat (twoTo (places - d.log2))), places⟩

end Objective

/-- The float nearest to a value of a goal. -/
def WholeGoal.toFloat (g : WholeGoal) (value : Int) : Float :=
  nearestFloat (value < 0) (value.natAbs * Nat.pow 5 g.places) (-Int.ofNat g.places)

/-! ## Solving -/

/-- What solving a model comes to. -/
inductive Outcome where
  | invalid
  | infeasible
  /-- A best point, and the value of the goal there, if there is a goal. -/
  | optimal (point : Array Int) (goal : Option Float)

def Outcome.status : Outcome → String
  | .invalid => "MODEL_INVALID"
  | .infeasible => "INFEASIBLE"
  | .optimal _ _ => "OPTIMAL"

/-- A status that comes with values for the variables. -/
def isSuccess (status : String) : Bool := ["OPTIMAL", "FEASIBLE"].contains status

namespace Model

def box (m : Model) : Box := (m.vars.map fun x => (x.lower, x.upper)).toArray

def rows (m : Model) : List Row := m.constraints.flatMap Constraint.rows

/-- All variables, and the sums of all constraints, are in range. -/
def isValid (m : Model) : Bool :=
  m.vars.all Variable.isValid
    && m.constraints.all fun c => m.box.allows c.terms.merged

def coefficients (m : Model) (t : Terms) : Array Int :=
  t.foldl (fun a (i, c) => a.setIfInBounds i c) (Array.replicate m.vars.length 0)

def best? (m : Model) (goal : Terms) : Option Found :=
  (Minimization.ofGoal m.rows (m.coefficients goal)).best? m.box

/-- Solves a valid model whose goal is given in whole numbers. -/
def solveFor (m : Model) (sense : Sense) (g : WholeGoal) : Outcome :=
  let least := match sense with
    | .minimize => g.terms
    | .maximize => g.terms.negated
  match m.best? least with
  | none => .infeasible
  | some found =>
    let value := match sense with
      | .minimize => found.value
      | .maximize => -found.value
    .optimal found.point (some (g.toFloat value))

def outcome (m : Model) : Outcome :=
  if !m.isValid then .invalid
  else
    match m.objective with
    | none =>
      match m.best? [] with
      | none => .infeasible
      | some found => .optimal found.point none
    | some o =>
      match o.whole? with
      | none => .invalid
      | some g =>
        if !o.isReal && !m.box.allows g.terms then .invalid else m.solveFor o.sense g

end Model

end Rostering
