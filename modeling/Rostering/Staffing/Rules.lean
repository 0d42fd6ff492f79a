import Rostering.Arguments
import Rostering.Staffing.Problem

/-!
# Staffing.Rules — further constraints on assignments

Three rules that a specification may ask for on top of the model of a problem. Each reads its
arguments first, leaves a model without assignments alone, and otherwise adds constraints, which
are given as lists of their own (`windowConstraints`, `consecutiveConstraints`, `restConstraints`).
-/

namespace Rostering.Staffing

/-- A result that depends on arguments as one of the service. -/
def asArgument {α : Type} (r : Except ArgumentFault α) : Except Failure α :=
  r.mapError Failure.argument

/-- A result that a fault may prevent as one of the service. -/
def asFault {α : Type} (r : Except Fault α) : Except Failure α := r.mapError Failure.fault

def wholeArgument (args : Arguments) (key : String) (other : Int) : Except Failure Int := do
  match ← asArgument (args.optional key (.int other) [.int]) with
  | .int n => pure n
  | _ => pure other

/-- A whole number among the arguments that must not be negative. -/
def countArgument (args : Arguments) (key : String) (other : Nat) : Except Failure Nat := do
  let n ← wholeArgument args key (Int.ofNat other)
  if n < 0 then
    -- the message shows the number
    throw (if (Value.int n).hasText then .argument (.negative key n) else .fault .overlong)
  else pure n.toNat

/-- The indexes of a schedule. -/
structure Indexes where
  candidates : List Value
  days : List Value
  skills : List Value

def Indexes.ofSpecification (s : Specification) : Except Failure Indexes := do
  let candidates ← asFault (s.indexValues "candidates")
  let days ← asFault (s.indexValues "days")
  let skills ← asFault (s.indexValues "skills")
  pure ⟨candidates, days, skills⟩

def workOn (assign : Family) (skills : List Value) (candidate day : Value) : Terms :=
  .ofVariables (skills.map fun k => assign.number [candidate, day, k])

/-! ## Time windows -/

/-- The hour of a day; members that carry no time count as hour zero. -/
def hourOf : Value → Nat
  | .day d => d.hour
  | _ => 0

def isMoment : Value → Bool
  | .day (.moment _) => true
  | _ => false

/-- The hour of a day lies in a window, ends included. -/
def isWithin (first last : Int) (day : Value) : Bool :=
  !(Int.ofNat (hourOf day) < first || last < Int.ofNat (hourOf day))

/-- One candidate does nothing on days outside of a window. -/
def windowConstraints (assign : Family) (ix : Indexes) (candidate : Value) (first last : Int) :
    List Constraint :=
  (ix.days.filter fun d => !isWithin first last d).flatMap fun d =>
    ix.skills.map fun k => .exactly (.ofVariables [assign.number [candidate, d, k]]) 0

def windowRemark (candidate : String) : String :=
  "⚠️ time_window for '" ++ candidate
    ++ "': day members have no time of day, treating them as hour 0"

/-- Keeps a candidate to days in a window of hours. -/
def timeWindow (m : Model) (s : Specification) (args : Arguments) : Except Failure Model := do
  let candidate ← asArgument (args.require "candidate" [.str])
  let first ← wholeArgument args "start_time" (Int.ofNat Settings.windowStart)
  let last ← wholeArgument args "end_time" (Int.ofNat Settings.windowEnd)
  if !m.hasFamily "assign" then return m
  let assign ← asFault (m.family "assign")
  let candidates ← asFault (s.indexValues "candidates")
  if !(candidates.any fun c => candidate.same c) then
    throw (.argument (.unknownCandidate candidate.shown candidates))
  let ix ← Indexes.ofSpecification s
  let m := if ix.days.all isMoment then m else m.remark (windowRemark candidate.shown)
  pure (m.require (windowConstraints assign ix candidate first last))

/-! ## Days in a row -/

def workOver (assign : Family) (skills : List Value) (candidate : Value) (days : List Value) :
    Terms :=
  days.flatMap fun d => workOn assign skills candidate d

/-- On days in a row, one more than allowed, there are no more assignments than allowed. -/
def consecutiveConstraints (assign : Family) (ix : Indexes) (most : Nat) : List Constraint :=
  ix.candidates.flatMap fun c => (List.range (ix.days.length - most)).map fun i =>
    .atMost (workOver assign ix.skills c ((ix.days.drop i).take (most + 1))) (Int.ofNat most)

/-- Limits the days in a row that a candidate works. -/
def consecutiveDays (m : Model) (s : Specification) (args : Arguments) :
    Except Failure Model := do
  let most ← countArgument args "max_consecutive" Settings.consecutiveDays
  if !m.hasFamily "assign" then return m
  let assign ← asFault (m.family "assign")
  let ix ← Indexes.ofSpecification s
  pure (m.require (consecutiveConstraints assign ix most))

/-! ## Days of rest -/

/-- The assignments of a candidate on the day at a position. -/
def workAt (assign : Family) (ix : Indexes) (candidate : Value) (position : Nat) : Terms :=
  workOn assign ix.skills candidate (ix.days[position]?.getD .null)

/-- Two days with so many days between them, and each of those, carry one assignment together. -/
def restConstraints (assign : Family) (ix : Indexes) (rest : Nat) : List Constraint :=
  ix.candidates.flatMap fun c => (List.range (ix.days.length - rest - 1)).flatMap fun i =>
    (List.range rest).map fun r =>
      .atMost (workAt assign ix c i ++ workAt assign ix c (i + rest + 1)
        ++ workAt assign ix c (i + 1 + r)) 1

/-- Puts days of rest between the days that a candidate works. -/
def restDays (m : Model) (s : Specification) (args : Arguments) : Except Failure Model := do
  let rest ← countArgument args "min_rest" Settings.restDays
  if !m.hasFamily "assign" then return m
  let assign ← asFault (m.family "assign")
  let ix ← Indexes.ofSpecification s
  pure (m.require (restConstraints assign ix rest))

end Rostering.Staffing
