import Rostering.Model.Basic
import Rostering.Settings
import Rostering.Specification
import Rostering.Staffing.Demand
import Rostering.Text.Search

/-!
# Staffing.Problem — hiring candidates and giving them work

A `Problem` is what a specification says about the work: days, candidates, skills and scenarios,
how many workers are needed, who may do what, what hiring costs, and how much a candidate may do on
one day. `Problem.ofSpecification` reads it; `Problem.model` turns it into a model with two
families of truth values:

* `assign[candidate, day, skill]` — the candidate does this work on that day;
* `hire[candidate]` — the candidate is hired.

Every scenario has to be covered by the same assignments.
-/

namespace Rostering.Staffing

/-! ## Reading a specification -/

/-- What has to be planned. -/
structure Problem where
  days : List Value
  candidates : List Value
  skills : List Value
  scenarios : List Value
  demand : List DemandEntry
  granted : List (String × String)
  cost : Option Value
  dailyLimit : Nat

/-- The entries of a demand table. What is no table has no columns, a mapping at least none of this
name. -/
def demandFrom (v : Value) (days : List Value) (scenarios : List String) :
    Except Fault (List DemandEntry) :=
  match v with
  | .table columns rows => demandOf ⟨columns, rows⟩ days scenarios
  | .map es =>
    match es.find? fun e => Value.same (.str "day") e.1 with
    | none => throw (.noKey (quotedText "day"))
    | some (_, days) => if days.items?.isSome then throw (.noField "columns") else throw .mistyped
  | _ => throw .mistyped

def skillsFrom (v : Value) : Except Fault (List (String × String)) :=
  match v with
  | .table columns rows => grantedSkills ⟨columns, rows⟩
  | _ => throw (.noField "columns")

def checkedBound (n : Nat) : Except Fault Unit :=
  if Coefficient.fitsWord (Int.ofNat n) then pure () else throw .mistyped

/-- The limit on assignments of one candidate on one day. -/
def dailyLimitOf (options : Named Value) : Except Fault Nat :=
  match options.find? "max_daily_assignments" with
  | none => pure Settings.dailyLimit
  | some (.int n) => if 0 ≤ n then pure n.toNat else throw (.badDailyLimit (.int n))
  | some v => throw (.badDailyLimit v)

/-- A member as the text that tables name it by; a day is never named by one. -/
def textOf? : Value → Option String
  | .str s => some s
  | _ => none

namespace Problem

def required? (p : Problem) (scenario day skill : Value) : Option Nat :=
  match textOf? scenario, textOf? skill with
  | some scenario, some skill => countFor? p.demand scenario day skill
  | _, _ => none

/-- The table of skills grants a skill to a candidate. -/
def isGranted (p : Problem) (candidate skill : Value) : Bool :=
  match textOf? candidate, textOf? skill with
  | some candidate, some skill => p.granted.contains (candidate, skill)
  | _, _ => false

/-- All scenarios, days and skills, in this order. -/
def slots (p : Problem) : List (Value × Value × Value) :=
  p.scenarios.flatMap fun s => p.days.flatMap fun d => p.skills.map fun k => (s, d, k)

def counts (p : Problem) : List Nat :=
  p.slots.filterMap fun (s, d, k) => p.required? s d k

def ofSpecification (s : Specification) : Except Fault Problem := do
  let days ← s.indexValues "days"
  let candidates ← s.indexValues "candidates"
  let skills ← s.indexValues "skills"
  let scenarios ← s.indexOrDefault "scenarios" [.str Settings.scenario]
  let demand ← demandFrom (← s.loadedData "demand") days (scenarios.map Value.shown)
  let granted ← skillsFrom (← s.loadedData "candidate_skills")
  let cost ←
    if s.parameters.contains "cost_month" then (s.loadedData "cost_month").map some
    else pure none
  let p : Problem := ⟨days, candidates, skills, scenarios, demand, granted, cost, 0⟩
  p.counts.forM checkedBound
  let limit ← dailyLimitOf s.options
  checkedBound limit
  pure { p with dailyLimit := limit }

/-! ## Variables -/

/-- Keys of assignments: candidate, day and skill. -/
def assignKeys (p : Problem) : List Key :=
  p.candidates.flatMap fun c => p.days.flatMap fun d => p.skills.map fun k => [c, d, k]

def hireKeys (p : Problem) : List Key := p.candidates.map fun c => [c]

def assign (p : Problem) : Family := Family.ofPairs (p.assignKeys.zipIdx 0)

def hire (p : Problem) : Family := Family.ofPairs (p.hireKeys.zipIdx p.assignKeys.length)

/-! ## Constraints -/

/-- Each slot has as many workers as it needs. -/
def coverage (p : Problem) : List Constraint :=
  p.slots.filterMap fun (s, d, k) => (p.required? s d k).map fun n =>
    .atLeast (.ofVariables (p.candidates.map fun c => p.assign.number [c, d, k])) (Int.ofNat n)

def eligibility (p : Problem) : List Constraint :=
  p.candidates.flatMap fun c => p.days.flatMap fun d =>
    (p.skills.filter fun k => !p.isGranted c k).map fun k =>
      .exactly (.ofVariables [p.assign.number [c, d, k]]) 0

def hiring (p : Problem) : List Constraint :=
  p.assignKeys.map fun key =>
    .atMost [(p.assign.number key, 1), (p.hire.number (key.take 1), -1)] 0

def dailyLimits (p : Problem) : List Constraint :=
  p.candidates.flatMap fun c => p.days.map fun d =>
    .atMost (.ofVariables (p.skills.map fun k => p.assign.number [c, d, k]))
      (Int.ofNat p.dailyLimit)

end Problem

/-! ## Cost -/

/-- The number that a value is as a coefficient. -/
def coefficientOf (v : Value) : Except Fault Coefficient :=
  match v.asCoefficient with
  | .int n =>
    match Coefficient.ofInt? n with
    | some c => pure c
    | none => throw .mistyped
  | .bool b => pure (.whole (if b then 1 else 0))
  | .float x => pure (.real x)
  | _ => throw .mistyped

/-- What a candidate costs, if anything. Costs are a mapping; of a text or a list only what does
not mention the candidate makes sense. -/
def costOf (cost candidate : Value) : Except Fault (Option Value) :=
  let mentioned := fun (b : Bool) => if b then throw Fault.mistyped else pure none
  match cost with
  | .map es => pure (Entries.find? es candidate)
  | .list items => mentioned (items.any fun v => candidate.same v)
  | .set items => mentioned (items.any fun v => candidate.same v)
  | .table columns _ => mentioned (columns.any fun v => candidate.same v)
  | .str s =>
    match candidate with
    | .str name => mentioned (Text.mentions s name)
    | _ => throw .mistyped
  | _ => throw .mistyped

/-- The cost of hiring as a goal: what each candidate costs, after a change to it. -/
def costTerms (hire : Family) (candidates : List Value) (cost : Value)
    (change : Value → Except Fault Value) : Except Fault (List (Nat × Coefficient)) := do
  let terms ← candidates.mapM fun c => do
    match ← costOf cost c with
    | none => pure none
    | some v =>
      let coefficient ← coefficientOf (← change v)
      pure (some (hire.number [c], coefficient))
  pure (terms.filterMap id)

namespace Problem

/-- The goal as it stands without overrides: the cost of hiring, or the number of assignments where
no cost is given. -/
def goal (p : Problem) : Except Fault (List (Nat × Coefficient)) :=
  match p.cost with
  | none | some .null => pure (p.assign.numbers.map fun i => (i, .whole 1))
  | some cost => costTerms p.hire p.candidates cost pure

def model (p : Problem) : Except Fault Model := do
  let goal ← p.goal
  pure
    { vars := p.assignKeys.map (Variable.ofKey "assign" 0 1)
        ++ p.hireKeys.map (Variable.ofKey "hire" 0 1)
      families := Named.ofList [("assign", p.assign), ("hire", p.hire)]
      constraints := p.coverage ++ p.eligibility ++ p.hiring ++ p.dailyLimits
      objective := some ⟨.minimize, "work_scheduling", goal⟩
      members := [("days", p.days), ("candidates", p.candidates), ("skills", p.skills),
        ("scenarios", p.scenarios)]
      notices := [] }

end Problem

end Rostering.Staffing
