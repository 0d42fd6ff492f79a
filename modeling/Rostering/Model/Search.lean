import Rostering.Model.Box

/-!
# Model.Search — the best point of a box that satisfies all rows

`Minimization.best?` finds a point of a box with the least value of a goal among those that satisfy all
rows. It splits the box in halves until all variables are fixed. A part is left out when narrowing
finds no point in it, or when weighted rows show that none of its points is better than the best
one so far by at least the grain of the goal, of which all differences of values are multiples.
-/

namespace Rostering

/-- Rows to satisfy, and a goal to make least. -/
structure Minimization where
  rows : List Row
  /-- Coefficients of the goal, by variable. -/
  goal : Array Int
  /-- Divides all coefficients of the goal. -/
  grain : Int
  /-- Variables in the order in which they are split. -/
  order : List Nat

/-- A point and its value. -/
structure Found where
  value : Int
  point : Array Int

/-- What is known while a search goes on: the best point so far, and the weights of rows that were
used last. -/
structure Progress where
  best : Option Found
  weights : Multipliers

namespace Minimization

/-! ## Set-up -/

def ofGoal (rows : List Row) (goal : Array Int) : Minimization :=
  let wanted := (List.range goal.size).filter fun i => goal.getD i 0 != 0
  let others := (List.range goal.size).filter fun i => goal.getD i 0 == 0
  let divisor := goal.foldl (fun d c => Nat.gcd d c.natAbs) 0
  ⟨rows, goal, max 1 (Int.ofNat divisor), wanted ++ others⟩

def terms (t : Minimization) : Terms :=
  (t.goal.toList.zipIdx.filter fun (c, _) => c != 0).map fun (c, i) => (i, c)

/-- The goal is better than a value. -/
def cutoff (t : Minimization) (value : Int) : Row := ⟨t.terms, value - t.grain⟩

/-! ## Leaving parts out -/

/-- Rounds in which a part is narrowed. -/
def narrowingRounds : Nat := 50

/-- Steps in which weights are changed for one part. -/
def climbingSteps : Nat := 60

/-- Weights are whole multiples of this part of one. -/
def weightUnit : Int := 4096

/-- Narrows a part by the rows, and by what is better than the best point so far. -/
def narrow? (t : Minimization) (best : Option Found) (b : Box) : Option Box :=
  let rows := match best with
    | some found => t.cutoff found.value :: t.rows
    | none => t.rows
  b.narrow? rows narrowingRounds

/-- Looks for weights that show that a part has no better point, or no point at all while none
has been found. -/
def exclude? (t : Minimization) (p : Progress) (b : Box) : Bool × Multipliers :=
  match p.best with
  | some found =>
    Multipliers.climb? t.rows (t.goal.map (weightUnit * ·)) b
      (weightUnit * (found.value - t.grain) + 1) climbingSteps p.weights
  | none => Multipliers.climb? t.rows (t.goal.map fun _ => 0) b 1 climbingSteps p.weights

/-! ## Splitting -/

/-- The variable to split, if there is one that is not fixed. -/
def splitAt? (t : Minimization) (b : Box) : Option Nat :=
  t.order.find? fun i => (b.bounds i).1 < (b.bounds i).2

/-- The halves of a part, the more promising one first: with the smaller goal, or else with the
larger variable. -/
def halves (t : Minimization) (b : Box) (i : Nat) : Box × Box :=
  let (l, u) := b.bounds i
  let middle := l + (u - l) / 2
  let low := b.setIfInBounds i (l, middle)
  let high := b.setIfInBounds i (middle + 1, u)
  if 0 < t.goal.getD i 0 then (low, high) else (high, low)

/-- Takes the only point of a part if it satisfies all rows. -/
def settle (t : Minimization) (p : Progress) (b : Box) : Progress :=
  if t.rows.all fun r => b.least r.terms ≤ r.most then
    { p with best := some ⟨b.least t.terms, b.map Prod.fst⟩ }
  else p

def search (t : Minimization) : Nat → Progress → Box → Progress
  | 0, p, _ => p
  | depth + 1, p, b =>
    match t.narrow? p.best b with
    | none => p
    | some b =>
      match t.splitAt? b with
      | none => t.settle p b
      | some i =>
        let (excluded, weights) := t.exclude? p b
        let p := { p with weights := weights }
        if excluded then p
        else
          let (first, second) := t.halves b i
          t.search depth (t.search depth p first) second

/-- How often the bounds of a box can be halved, one variable after the other. -/
def depth (b : Box) : Nat := b.foldl (fun n e => n + (e.2 - e.1).toNat.log2 + 1) 1

/-- A point of a box that satisfies all rows and has the least value of the goal. -/
def best? (t : Minimization) (b : Box) : Option Found :=
  (t.search (depth b) ⟨none, t.rows.map fun _ => 0⟩ b).best

end Minimization

end Rostering
