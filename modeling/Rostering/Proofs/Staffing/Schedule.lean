import Mathlib
import Rostering.Staffing.Rules

/-!
# What a specification asks of a schedule

A schedule says how often each candidate does each work on each day (`x candidate day skill`) and
whether a candidate is hired (`hired candidate`). `IsSchedule` says when a schedule does what a
specification declares, in terms of the specification alone: its indexes as they are written, its
tables, its options and its constraint overrides. No model, variable or constraint occurs in it.

Sums run over the lists of members, so a member that is written twice counts twice.
-/

namespace Rostering.Staffing

/-! ## Declared data -/

/-- The members of an index as they are written, or others where there is no such index. -/
def membersOf (s : Specification) (name : String) (others : List Value) : List Value :=
  ((s.indexes.find? name).map Index.members).getD others

def indexesOf (s : Specification) : Indexes :=
  ⟨membersOf s "candidates" [], membersOf s "days" [], membersOf s "skills" []⟩

/-- The scenarios; without an index for them there is one. -/
def scenariosOf (s : Specification) : List Value :=
  membersOf s "scenarios" [.str Settings.scenario]

/-- The demand table has a number of workers for a scenario, day and skill. -/
def Demands (s : Specification) (scenario : String) (day : Value) (skill : String) (count : Nat) :
    Prop :=
  ∃ table entries, s.loadedData "demand" = .ok table
    ∧ demandFrom table (indexesOf s).days ((scenariosOf s).map Value.shown) = .ok entries
    ∧ countFor? entries scenario day skill = some count

/-- Some row of the table of skills grants the skill to the candidate. -/
def GrantsSkill (s : Specification) (candidate skill : Value) : Prop :=
  ∃ columns rows, s.loadedData "candidate_skills" = .ok (.table columns rows)
    ∧ ∃ row ∈ rows, ∃ c k, granted? ⟨columns, rows⟩ row = .ok (some (c, k))
      ∧ candidate = .str c ∧ skill = .str k

/-- The most that a candidate may do on one day. -/
def mostPerDay (s : Specification) : Int :=
  match s.options.find? "max_daily_assignments" with
  | some (.int n) => n
  | _ => Settings.dailyLimit

/-- A whole number among the arguments of an override. -/
def wholeOr (args : Arguments) (key : String) (other : Nat) : Int :=
  match args.find? key with
  | some (.int n) => n
  | _ => other

/-! ## Schedules -/

section

variable (x : Value → Value → Value → Int)

/-- What a candidate does on a day, over all skills. -/
def load (skills : List Value) (candidate day : Value) : Int :=
  (skills.map fun k => x candidate day k).sum

/-- The named candidate does nothing on days outside of the window. -/
def KeepsWindow (ix : Indexes) (args : Arguments) : Prop :=
  ∀ candidate, args.find? "candidate" = some candidate → ∀ d ∈ ix.days,
    (Int.ofNat (hourOf d) < wholeOr args "start_time" Settings.windowStart
      ∨ wholeOr args "end_time" Settings.windowEnd < Int.ofNat (hourOf d)) →
    ∀ k ∈ ix.skills, x candidate d k = 0

/-- In any days in a row, one more than allowed, each candidate does at most what is allowed. -/
def KeepsConsecutive (ix : Indexes) (args : Arguments) : Prop :=
  let most := (wholeOr args "max_consecutive" Settings.consecutiveDays).toNat
  ∀ c ∈ ix.candidates, ∀ i, i + most < ix.days.length →
    (((ix.days.drop i).take (most + 1)).map (load x ix.skills c)).sum ≤ most

/-- Two days with the days of rest between them, and any one of these, carry one assignment. -/
def KeepsRest (ix : Indexes) (args : Arguments) : Prop :=
  let rest := (wholeOr args "min_rest" Settings.restDays).toNat
  ∀ c ∈ ix.candidates, ∀ i r first between last, i < r → r ≤ i + rest →
    ix.days[i]? = some first → ix.days[r]? = some between → ix.days[i + rest + 1]? = some last →
    load x ix.skills c first + load x ix.skills c last + load x ix.skills c between ≤ 1

/-- The schedule keeps to an override. -/
def Keeps (ix : Indexes) (o : Override) : Prop :=
  match o.target with
  | "time_window" => KeepsWindow x ix o.args
  | "max_consecutive_days" => KeepsConsecutive x ix o.args
  | "min_rest_days" => KeepsRest x ix o.args
  | _ => True

/-- The schedule does what the template asks for. -/
structure IsCovering (s : Specification) (hired : Value → Int) : Prop where
  /-- The demand of every scenario is covered. -/
  covers : ∀ scenario d skill n, .str scenario ∈ scenariosOf s → d ∈ (indexesOf s).days →
    .str skill ∈ (indexesOf s).skills → Demands s scenario d skill n →
    n ≤ ((indexesOf s).candidates.map fun c => x c d (.str skill)).sum
  /-- Nobody does work that no row of the table of skills grants. -/
  eligible : ∀ c ∈ (indexesOf s).candidates, ∀ d ∈ (indexesOf s).days,
    ∀ k ∈ (indexesOf s).skills, ¬ GrantsSkill s c k → x c d k = 0
  /-- Nobody works without being hired. -/
  employed : ∀ c ∈ (indexesOf s).candidates, ∀ d ∈ (indexesOf s).days,
    ∀ k ∈ (indexesOf s).skills, x c d k ≤ hired c
  /-- Nobody does too much on one day. -/
  daily : ∀ c ∈ (indexesOf s).candidates, ∀ d ∈ (indexesOf s).days,
    load x (indexesOf s).skills c d ≤ mostPerDay s

/-- The schedule does what the specification declares: it does what the template asks for, and it
keeps to every constraint override. -/
structure IsSchedule (s : Specification) (hired : Value → Int) : Prop
    extends IsCovering x s hired where
  kept : ∀ o ∈ s.overridesFor "constraints", Keeps x (indexesOf s) o

end

end Rostering.Staffing
