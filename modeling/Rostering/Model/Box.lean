import Rostering.Model.Basic

/-!
# Model.Box — what bounds and inequalities say about each other

A `Box` holds bounds on all variables and a `Row` is an inequality between a sum and a number. A
row narrows a box (`Row.narrow?`) or shows that no point of it satisfies the row; `Box.narrow?`
repeats this until nothing changes.

Rows that are added up with weights that are not negative bound a goal from below
(`Multipliers.bound`): over the box, the goal plus the weighted rows is at least its least value.
`Multipliers.climb?` looks for weights that give a bound of some height.
-/

namespace Rostering

/-! ## Inequalities -/

/-- A sum that is at most a number. -/
structure Row where
  terms : Terms
  most : Int

def Constraint.rows (c : Constraint) : List Row :=
  let t := c.terms.merged
  (c.upper.toList.map fun u => ⟨t, u⟩) ++ (c.lower.toList.map fun l => ⟨t.negated, -l⟩)

/-! ## Boxes -/

/-- Lower and upper bounds by variable. -/
abbrev Box := Array (Int × Int)

namespace Box

def bounds (b : Box) (i : Nat) : Int × Int := b.getD i (0, 0)

/-- Number of steps between all bounds. -/
def width (b : Box) : Nat := b.foldl (fun n e => n + (e.2 - e.1).toNat) 0

def leastOf (b : Box) (e : Nat × Int) : Int :=
  let (l, u) := b.bounds e.1
  if 0 ≤ e.2 then e.2 * l else e.2 * u

/-- The value of the variable of a term at which the term is least. -/
def leastAt (b : Box) (e : Nat × Int) : Int :=
  let (l, u) := b.bounds e.1
  if 0 ≤ e.2 then l else u

def least (b : Box) (t : Terms) : Int := t.foldl (fun n e => n + b.leastOf e) 0

end Box

namespace Row

/-- Narrows the bounds of one variable: its term exceeds its least value by at most the slack of
the row. -/
def narrowTerm (slack : Int) (b : Box) (e : Nat × Int) : Box :=
  let (l, u) := b.bounds e.1
  if 0 < e.2 then
    let top := l + slack / e.2
    if top < u then b.setIfInBounds e.1 (l, top) else b
  else if e.2 < 0 then
    let bottom := u - slack / (-e.2)
    if l < bottom then b.setIfInBounds e.1 (bottom, u) else b
  else b

/-- Narrows a box, unless no point of it satisfies the row. -/
def narrow? (r : Row) (b : Box) : Option Box :=
  let slack := r.most - b.least r.terms
  if slack < 0 then none else some (r.terms.foldl (narrowTerm slack) b)

end Row

/-- Narrows a box by rows for as long as that changes it, at most for a number of rounds. -/
def Box.narrow? (rows : List Row) : Nat → Box → Option Box
  | 0, b => some b
  | rounds + 1, b =>
    match rows.foldlM (fun b r => r.narrow? b) b with
    | none => none
    | some c => if c.width < b.width then c.narrow? rows rounds else some c

/-! ## Weighted rows -/

/-- Weights of rows, in their order. -/
abbrev Multipliers := List Int

namespace Multipliers

/-- Adds a multiple of a sum to coefficients. -/
def addTerms (n : Int) (t : Terms) (a : Array Int) : Array Int :=
  if n == 0 then a
  else t.foldl (fun a e => a.setIfInBounds e.1 (a.getD e.1 0 + n * e.2)) a

def combine (m : Multipliers) (rows : List Row) (goal : Array Int) : Array Int :=
  (m.zip rows).foldl (fun a (n, r) => addTerms n r.terms a) goal

/-- A lower bound of a goal where all rows hold: the least value of the goal plus the weighted
rows. -/
def bound (m : Multipliers) (rows : List Row) (combined : Array Int) (b : Box) : Int :=
  combined.toList.zipIdx.foldl (fun n (c, i) => n + b.leastOf (i, c)) 0
    - (m.zip rows).foldl (fun n (k, r) => n + k * r.most) 0

/-- The point at which combined coefficients are least. -/
def leastPoint (combined : Array Int) (b : Box) : Array Int :=
  (combined.toList.zipIdx.map fun (c, i) => b.leastAt (i, c)).toArray

/-- By how much a row is violated at a point. -/
def excess (point : Array Int) (r : Row) : Int :=
  r.terms.foldl (fun n e => n + e.2 * point.getD e.1 0) (-r.most)

/-- Changes weights so that the bound of a goal rises, until it reaches a height or the steps are
used up. Gives the weights of the last step, and whether the height was reached. -/
def climb? (rows : List Row) (goal : Array Int) (b : Box) (height : Int) :
    Nat → Multipliers → Bool × Multipliers
  | 0, m => (false, m)
  | steps + 1, m =>
    let combined := m.combine rows goal
    let n := m.bound rows combined b
    if height ≤ n then (true, m)
    else
      let slope := rows.map (excess (leastPoint combined b))
      let norm := slope.foldl (fun n x => n + x * x) 0
      if norm == 0 then (false, m)
      else
        let stride := max 1 ((height - n) / norm)
        climb? rows goal b height steps
          ((m.zip slope).map fun (n, x) => max 0 (n + stride * x))

end Multipliers

end Rostering
