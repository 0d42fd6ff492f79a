import Rostering.Proofs.Except
import Rostering.Proofs.Model.Family
import Rostering.Proofs.Staffing.Schedule

/-!
# What the rules for schedules add, and what it means

Each rule reads its arguments, finds the family of assignments and adds one list of constraints.
The module says which list that is and what it asks of the values of the assignments.

## The architecture

* **`Model.Adds`** — all that a rule changes: the constraints grow by a list, and variables and
  families stay.
* **`timeWindow_adds`**, **`consecutiveDays_adds`**, **`restDays_adds`** — the list that each rule
  adds when it succeeds.
* **`holds_windowConstraints`**, **`holds_consecutiveConstraints`**, **`holds_restConstraints`** — the
  list holds exactly when the schedule keeps to the rule.
-/

namespace Rostering

/-- A model grows by constraints and stays as it is otherwise, except for remarks. -/
structure Model.Adds (m m' : Model) (l : List Constraint) : Prop where
  vars : m'.vars = m.vars
  families : m'.families = m.families
  constraints : m'.constraints = m.constraints ++ l

namespace Staffing

/-! ## Arguments -/

theorem asArgument_eq_ok {α : Type} {r : Except ArgumentFault α} {a : α} :
    asArgument r = .ok a ↔ r = .ok a :=
  mapError_eq_ok

theorem asFault_eq_ok {α : Type} {r : Except Fault α} {a : α} : asFault r = .ok a ↔ r = .ok a :=
  mapError_eq_ok

theorem checked_eq_ok {key : String} {types : List ArgumentType} {v w : Value}
    (h : Arguments.checked key types v = .ok w) :
    w = v ∧ types.any (fun type => type.holds v) = true := by
  unfold Arguments.checked at h
  split at h
  · next hany =>
      rw [pure_eq_ok] at h
      exact ⟨h.symm, hany⟩
  · exact absurd h throw_ne_ok

theorem require_eq_ok {args : Arguments} {key : String} {types : List ArgumentType} {v : Value}
    (h : args.require key types = .ok v) : args.find? key = some v := by
  unfold Arguments.require at h
  split at h
  · exact absurd h throw_ne_ok
  · next w hw =>
      rw [(checked_eq_ok h).1]
      exact hw

/-- A whole number that was read is the one that was given, or the one that stands in for it.
Nothing else passes the check of its type. -/
theorem wholeArgument_eq_ok {args : Arguments} {key : String} {other : Nat} {n : Int}
    (h : wholeArgument args key (Int.ofNat other) = .ok n) : n = wholeOr args key other := by
  unfold wholeArgument at h
  obtain ⟨v, hv, h⟩ := bind_eq_ok.mp h
  have hv := asArgument_eq_ok.mp hv
  unfold Arguments.optional at hv
  unfold wholeOr
  cases hfind : args.find? key with
  | none =>
      rw [hfind] at hv
      cases hv
      cases h
      rfl
  | some w =>
      rw [hfind] at hv
      cases w with
      | null =>
          cases hv
          cases h
          rfl
      | int k =>
          cases hv
          cases h
          rfl
      | _ =>
          -- a value of another type has been rejected
          have hholds := (checked_eq_ok hv).2
          simp [ArgumentType.holds] at hholds

theorem countArgument_eq_ok {args : Arguments} {key : String} {other n : Nat}
    (h : countArgument args key other = .ok n) : n = (wholeOr args key other).toNat := by
  unfold countArgument at h
  obtain ⟨k, hk, h⟩ := bind_eq_ok.mp h
  split at h
  · exact absurd h throw_ne_ok
  · rw [pure_eq_ok] at h
    rw [← h, wholeArgument_eq_ok hk]

theorem indexValues_eq_ok {s : Specification} {name : String} {l : List Value}
    (h : s.indexValues name = .ok l) (others : List Value) : membersOf s name others = l := by
  unfold Specification.indexValues at h
  unfold membersOf
  cases hfind : s.indexes.find? name with
  | none =>
      rw [hfind] at h
      exact absurd h throw_ne_ok
  | some index =>
      rw [hfind] at h
      exact pure_eq_ok.mp h

theorem Indexes.ofSpecification_eq_ok {s : Specification} {ix : Indexes}
    (h : Indexes.ofSpecification s = .ok ix) : ix = indexesOf s := by
  unfold Indexes.ofSpecification at h
  obtain ⟨candidates, hcandidates, h⟩ := bind_eq_ok.mp h
  obtain ⟨days, hdays, h⟩ := bind_eq_ok.mp h
  obtain ⟨skills, hskills, h⟩ := bind_eq_ok.mp h
  rw [pure_eq_ok] at h
  unfold indexesOf
  rw [indexValues_eq_ok (asFault_eq_ok.mp hcandidates), indexValues_eq_ok (asFault_eq_ok.mp hdays),
    indexValues_eq_ok (asFault_eq_ok.mp hskills)]
  exact h.symm

/-! ## What is added -/

section

variable {m m' : Model} {s : Specification} {args : Arguments} {assign : Family}

theorem hasFamily_of_family {name : String} {f : Family} (hf : m.family name = .ok f) :
    m.hasFamily name = true := by
  unfold Model.family at hf
  unfold Model.hasFamily Named.contains
  cases hfind : m.families.find? name with
  | none =>
      rw [hfind] at hf
      exact absurd hf throw_ne_ok
  | some f => rfl

/-- A rule for time windows adds the constraints of its window. -/
theorem timeWindow_adds (hassign : m.family "assign" = .ok assign)
    (h : timeWindow m s args = .ok m') : ∃ candidate, args.find? "candidate" = some candidate
      ∧ m.Adds m' (windowConstraints assign (indexesOf s) candidate
        (wholeOr args "start_time" Settings.windowStart)
        (wholeOr args "end_time" Settings.windowEnd)) := by
  unfold timeWindow at h
  obtain ⟨candidate, hcandidate, h⟩ := bind_eq_ok.mp h
  obtain ⟨first, hfirst, h⟩ := bind_eq_ok.mp h
  obtain ⟨last, hlast, h⟩ := bind_eq_ok.mp h
  rw [hasFamily_of_family hassign] at h
  obtain ⟨f, hf, h⟩ := bind_eq_ok.mp h
  obtain ⟨candidates, -, h⟩ := bind_eq_ok.mp h
  dsimp only at h
  split at h
  · obtain ⟨_, hthrow, -⟩ := bind_eq_ok.mp h
    exact absurd hthrow throw_ne_ok
  · obtain ⟨ix, hix, h⟩ := bind_eq_ok.mp h
    rw [asFault_eq_ok, hassign] at hf
    cases hf
    rw [pure_eq_ok, wholeArgument_eq_ok hfirst, wholeArgument_eq_ok hlast,
      Indexes.ofSpecification_eq_ok hix] at h
    refine ⟨candidate, require_eq_ok (asArgument_eq_ok.mp hcandidate), ?_⟩
    -- a remark on days without a time is all that the cases differ in
    rw [← h]
    split <;> exact ⟨rfl, rfl, rfl⟩

/-- A rule for days in a row adds the constraints of all windows. -/
theorem consecutiveDays_adds (hassign : m.family "assign" = .ok assign)
    (h : consecutiveDays m s args = .ok m') : m.Adds m' (consecutiveConstraints assign (indexesOf s)
      (wholeOr args "max_consecutive" Settings.consecutiveDays).toNat) := by
  unfold consecutiveDays at h
  obtain ⟨most, hmost, h⟩ := bind_eq_ok.mp h
  rw [hasFamily_of_family hassign] at h
  obtain ⟨f, hf, h⟩ := bind_eq_ok.mp h
  obtain ⟨ix, hix, h⟩ := bind_eq_ok.mp h
  rw [asFault_eq_ok, hassign] at hf
  cases hf
  rw [pure_eq_ok, countArgument_eq_ok hmost, Indexes.ofSpecification_eq_ok hix] at h
  rw [← h]
  exact ⟨rfl, rfl, rfl⟩

/-- A rule for days of rest adds the constraints of all pairs of days. -/
theorem restDays_adds (hassign : m.family "assign" = .ok assign)
    (h : restDays m s args = .ok m') : m.Adds m' (restConstraints assign (indexesOf s)
      (wholeOr args "min_rest" Settings.restDays).toNat) := by
  unfold restDays at h
  obtain ⟨rest, hrest, h⟩ := bind_eq_ok.mp h
  rw [hasFamily_of_family hassign] at h
  obtain ⟨f, hf, h⟩ := bind_eq_ok.mp h
  obtain ⟨ix, hix, h⟩ := bind_eq_ok.mp h
  rw [asFault_eq_ok, hassign] at hf
  cases hf
  rw [pure_eq_ok, countArgument_eq_ok hrest, Indexes.ofSpecification_eq_ok hix] at h
  rw [← h]
  exact ⟨rfl, rfl, rfl⟩

end

/-! ## What it means -/

/-- The schedule that the values of variables stand for. -/
def scheduleOf (assign : Family) (v : Valuation) (candidate day skill : Value) : Int :=
  v (assign.number [candidate, day, skill])

section

variable (assign : Family) (v : Valuation) (ix : Indexes)

theorem eval_workOn (skills : List Value) (candidate day : Value) :
    (workOn assign skills candidate day).eval v
      = load (scheduleOf assign v) skills candidate day := by
  unfold workOn load
  rw [Terms.eval_ofVariables, List.map_map]
  rfl

theorem eval_workOver (skills : List Value) (candidate : Value) (days : List Value) :
    (workOver assign skills candidate days).eval v
      = (days.map (load (scheduleOf assign v) skills candidate)).sum := by
  unfold workOver
  rw [Terms.eval_flatMap]
  simp only [eval_workOn]

theorem holds_single (n : Nat) (k : Int) :
    (Constraint.exactly (.ofVariables [n]) k).Holds v ↔ v n = k := by
  rw [Constraint.holds_exactly, Terms.eval_ofVariables]
  simp

theorem isWithin_eq_false {first last : Int} {day : Value} :
    (!isWithin first last day) = true
      ↔ Int.ofNat (hourOf day) < first ∨ last < Int.ofNat (hourOf day) := by
  unfold isWithin
  simp

/-- The constraints of a window hold when nothing is done outside of it. -/
theorem holds_windowConstraints (candidate : Value) (first last : Int) :
    (∀ c ∈ windowConstraints assign ix candidate first last, c.Holds v) ↔
      ∀ d ∈ ix.days, (Int.ofNat (hourOf d) < first ∨ last < Int.ofNat (hourOf d)) →
        ∀ k ∈ ix.skills, scheduleOf assign v candidate d k = 0 := by
  unfold windowConstraints
  simp only [List.forall_mem_flatMap, List.forall_mem_filter, List.forall_mem_map, holds_single,
    isWithin_eq_false]
  rfl

/-- The constraints on days in a row hold when every window does. -/
theorem holds_consecutiveConstraints (most : Nat) :
    (∀ c ∈ consecutiveConstraints assign ix most, c.Holds v) ↔
      ∀ c ∈ ix.candidates, ∀ i, i + most < ix.days.length →
        (((ix.days.drop i).take (most + 1)).map (load (scheduleOf assign v) ix.skills c)).sum
          ≤ most := by
  unfold consecutiveConstraints
  simp only [List.forall_mem_flatMap, List.forall_mem_map, List.mem_range, Constraint.holds_atMost,
    eval_workOver, Nat.lt_sub_iff_add_lt]
  rfl

theorem eval_workAt {candidate day : Value} {i : Nat} (hday : ix.days[i]? = some day) :
    (workAt assign ix candidate i).eval v
      = load (scheduleOf assign v) ix.skills candidate day := by
  unfold workAt
  rw [hday, Option.getD_some, eval_workOn]

/-- The constraints on days of rest hold when each of the days between two carries little enough
work with them. -/
theorem holds_restConstraints (rest : Nat) :
    (∀ c ∈ restConstraints assign ix rest, c.Holds v) ↔
      ∀ c ∈ ix.candidates, ∀ i r first between last, i < r → r ≤ i + rest →
        ix.days[i]? = some first → ix.days[r]? = some between →
        ix.days[i + rest + 1]? = some last →
        load (scheduleOf assign v) ix.skills c first + load (scheduleOf assign v) ix.skills c last
          + load (scheduleOf assign v) ix.skills c between ≤ 1 := by
  unfold restConstraints
  simp only [List.forall_mem_flatMap, List.forall_mem_map, List.mem_range, Constraint.holds_atMost,
    Terms.eval_append]
  -- the rule counts the days between from the first day on, the specification from the start
  refine forall₂_congr fun c _ => ⟨?_, ?_⟩
  · intro h i r first between last hlow hhigh hfirst hbetween hlast
    have hi : i < ix.days.length - rest - 1 := by
      have hbound := (List.getElem?_eq_some_iff.mp hlast).1
      omega
    have hr : r - i - 1 < rest := by omega
    have hsum := h i hi (r - i - 1) hr
    rw [show i + 1 + (r - i - 1) = r by omega, eval_workAt assign v ix hfirst,
      eval_workAt assign v ix hlast, eval_workAt assign v ix hbetween] at hsum
    exact hsum
  · intro h i hi r hr
    have hfirst : ix.days[i]? = some ix.days[i] := List.getElem?_eq_getElem (by omega)
    have hlast : ix.days[i + rest + 1]? = some ix.days[i + rest + 1] :=
      List.getElem?_eq_getElem (by omega)
    have hbetween : ix.days[i + 1 + r]? = some ix.days[i + 1 + r] :=
      List.getElem?_eq_getElem (by omega)
    rw [eval_workAt assign v ix hfirst, eval_workAt assign v ix hlast,
      eval_workAt assign v ix hbetween]
    exact h i (i + 1 + r) _ _ _ (by omega) (by omega) hfirst hbetween hlast

end

end Staffing

end Rostering
