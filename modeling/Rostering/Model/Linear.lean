import Rostering.Decimal.Exact

/-!
# Model.Linear — sums of variables, and bounds on them

Variables are numbers here. `Terms` is a sum as it was written: a variable may occur several times
in it. `Terms.merged` is its normal form, with every variable once, in ascending order, and none
that cancels out.

A `Constraint` bounds a sum from one side or from both, and `Constraint.Holds` is its meaning.
-/

namespace Rostering

/-- Values of variables. -/
abbrev Valuation := Nat → Int

/-- A sum of variables with coefficients. -/
abbrev Terms := List (Nat × Int)

namespace Terms

def eval : Terms → Valuation → Int
  | [], _ => 0
  | e :: t, v => e.2 * v e.1 + eval t v

def ofVariables (l : List Nat) : Terms := l.map fun i => (i, 1)

def negated (t : Terms) : Terms := t.map fun e => (e.1, -e.2)

@[simp] theorem eval_nil (v : Valuation) : eval [] v = 0 := rfl

@[simp] theorem eval_cons (e : Nat × Int) (t : Terms) (v : Valuation) :
    eval (e :: t) v = e.2 * v e.1 + eval t v := rfl

@[simp] theorem eval_append (s t : Terms) (v : Valuation) :
    eval (s ++ t) v = eval s v + eval t v := by
  induction s with
  | nil => simp
  | cons e s ih =>
    simp only [List.cons_append, eval_cons, ih]
    omega

theorem eval_negated (t : Terms) (v : Valuation) : eval (negated t) v = -eval t v := by
  induction t with
  | nil => simp [negated]
  | cons e t ih =>
    have ih : eval (List.map (fun e => (e.1, -e.2)) t) v = -eval t v := ih
    simp only [negated, List.map_cons, eval_cons, ih, Int.neg_mul]
    omega

/-! ## Normal form -/

/-- Adds a term to a sum in ascending order of its variables. -/
def add (i : Nat) (c : Int) : Terms → Terms
  | [] => [(i, c)]
  | (j, d) :: rest =>
    if i = j then (j, c + d) :: rest
    else if i < j then (i, c) :: (j, d) :: rest
    else (j, d) :: add i c rest

def withoutZeros (t : Terms) : Terms := t.filter fun e => e.2 != 0

/-- Every variable once, in ascending order, without those that cancel out. -/
def merged (t : Terms) : Terms :=
  withoutZeros (t.foldr (fun e sum => add e.1 e.2 sum) [])

end Terms

/-! ## Constraints -/

/-- Bounds on a sum. -/
structure Constraint where
  terms : Terms
  lower : Option Int
  upper : Option Int
  deriving DecidableEq

namespace Constraint

def Holds (c : Constraint) (v : Valuation) : Prop :=
  (∀ l ∈ c.lower, l ≤ c.terms.eval v) ∧ (∀ u ∈ c.upper, c.terms.eval v ≤ u)

def atLeast (t : Terms) (n : Int) : Constraint := ⟨t, some n, none⟩

def atMost (t : Terms) (n : Int) : Constraint := ⟨t, none, some n⟩

def exactly (t : Terms) (n : Int) : Constraint := ⟨t, some n, some n⟩

theorem holds_atLeast (t : Terms) (n : Int) (v : Valuation) :
    (atLeast t n).Holds v ↔ n ≤ t.eval v := by
  simp [Holds, atLeast]

theorem holds_atMost (t : Terms) (n : Int) (v : Valuation) :
    (atMost t n).Holds v ↔ t.eval v ≤ n := by
  simp [Holds, atMost]

theorem holds_exactly (t : Terms) (n : Int) (v : Valuation) :
    (exactly t n).Holds v ↔ t.eval v = n := by
  simp only [Holds, exactly, Option.mem_def, Option.some.injEq, forall_eq']
  omega

end Constraint

/-! ## Coefficients of a goal -/

/-- A whole number, or a float that is none. -/
inductive Coefficient where
  | whole (n : Int)
  | real (x : Float)

namespace Coefficient

/-- Signed numbers of 64 bits. -/
def fitsWord (n : Int) : Bool := leastWord ≤ n && n < wordLimit

def toFloat : Coefficient → Float
  | .whole n => floatOfInt n
  | .real x => x

def add : Coefficient → Coefficient → Coefficient
  | .whole a, .whole b => .whole (a + b)
  | a, b => .real (a.toFloat + b.toFloat)

def isZero : Coefficient → Bool
  | .whole n => n == 0
  | .real x => x == 0

/-- The coefficient makes a goal one of floats: it is one, or it is too large. -/
def isReal : Coefficient → Bool
  | .whole n => !fitsWord n
  | .real _ => true

/-- The coefficient of a number; one that is too large for a word is a float, if there is one. -/
def ofInt? (n : Int) : Option Coefficient :=
  if fitsWord n || floatIsFinite (floatOfInt n) then some (.whole n) else none

/-- Adds a term to a sum in ascending order of its variables. -/
def insertTerm (i : Nat) (c : Coefficient) : List (Nat × Coefficient) → List (Nat × Coefficient)
  | [] => [(i, c)]
  | (j, d) :: rest =>
    if i = j then (j, d.add c) :: rest
    else if i < j then (i, c) :: (j, d) :: rest
    else (j, d) :: insertTerm i c rest

/-- Every variable once, in ascending order, without those that cancel out. -/
def merged (l : List (Nat × Coefficient)) : List (Nat × Coefficient) :=
  (l.foldl (fun sum e => insertTerm e.1 e.2 sum) []).filter fun e => !e.2.isZero

/-- The sum can be written with all its signs changed: it is one of floats, or none of its
coefficients is the least word. -/
def isReversible (l : List (Nat × Coefficient)) : Bool :=
  l.any (fun e => e.2.isReal) || (merged l).all fun e => match e.2 with
    | .whole n => n != leastWord
    | .real _ => true

end Coefficient

end Rostering
