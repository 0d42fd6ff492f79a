import Rostering.Staffing.Rules

/-!
# Staffing.Goals — other goals for a schedule

Three goals that a specification may ask for in place of the goal of its problem: the cost of
hiring with a factor, as many assignments as possible, or the smallest possible load of whoever has
the most to do. The last one adds variables for the loads.
-/

namespace Rostering.Staffing

/-! ## Cost -/

/-- A product of numbers. Whatever is no number has no product that could be a cost. -/
def product (factor v : Value) : Except Fault Value :=
  let float := fun (n : Int) =>
    let x := floatOfInt n
    if floatIsFinite x then pure x else throw Fault.overflow
  let whole? : Value → Option Int := fun
    | .int n => some n
    | .bool b => some (if b then 1 else 0)
    | _ => none
  match factor, v with
  | .float x, .float y => pure (.float (x * y))
  | .int n, .float y => do pure (.float ((← float n) * y))
  | .float x, v =>
    match whole? v with
    | some n => do pure (.float (x * (← float n)))
    | none => throw .mistyped
  | .int n, v =>
    match whole? v with
    | some k => pure (.int (n * k))
    | none => throw .mistyped
  | _, _ => throw .mistyped

/-- Makes the cost of hiring small. Where no cost is given, or nobody is hired, the goal stays. -/
def minimizeCost (m : Model) (s : Specification) (args : Arguments) : Except Failure Model := do
  let factor ← asArgument (args.optional "multiplier" (.float 1) [.int, .float])
  if !s.parameters.contains "cost_month" || !m.hasFamily "hire" then return m
  let cost ← asFault (s.loadedData "cost_month")
  let hire ← asFault (m.family "hire")
  let candidates ← asFault (s.indexValues "candidates")
  let terms ← asFault (costTerms hire candidates cost (product factor))
  pure (m.pursue .minimize "minimize_cost" terms)

/-! ## Coverage -/

def maximizeCoverage (m : Model) (_ : Specification) (args : Arguments) :
    Except Failure Model := do
  let weight ← asArgument (args.optional "weight" (.float 1) [.int, .float])
  if !m.hasFamily "assign" then return m
  let assign ← asFault (m.family "assign")
  let weight ← asFault (coefficientOf weight)
  asFault (m.maximize "maximize_coverage" (assign.numbers.map fun i => (i, weight)))

/-! ## Workload -/

/-- The load of a candidate is the number of assignments, and the largest load is at least that. -/
def loadConstraints (assign workload : Family) (largest : Nat) (ix : Indexes) :
    List Constraint :=
  ix.candidates.flatMap fun c =>
    let load := workload.number [c]
    let work := workOver assign ix.skills c ix.days
    [.exactly ((load, 1) :: Terms.negated work) 0, .atLeast [(largest, 1), (load, -1)] 0]

def balanceWorkload (m : Model) (s : Specification) (_ : Arguments) : Except Failure Model := do
  if !m.hasFamily "assign" then return m
  let assign ← asFault (m.family "assign")
  let ix ← Indexes.ofSpecification s
  let most := Int.ofNat (ix.days.length * ix.skills.length)
  let m ← asFault (m.addFamily "workload" (ix.candidates.map fun c => [c]) 0 most)
  let workload ← asFault (m.family "workload")
  let largest := m.vars.length
  let m ← asFault (m.addSingle "max_workload" 0 most)
  pure ((m.require (loadConstraints assign workload largest ix)).pursue .minimize
    "balance_workload" [(largest, .whole 1)])

end Rostering.Staffing
