import Rostering.Proofs.Plan

/-!
# The largest workload

The goal of a balanced workload gives every candidate a variable for the load, and one more to the
largest of the loads. This module says what the rule makes of a model, and what the constraints that
it adds ask of the new variables.

## The architecture

* **`workload`**, **`largestWorkload`** — what a candidate does over all days and skills as they are
  listed, and the most that one of them does. Among schedules of zeros and ones neither can leave the
  bounds that the new variables have (`IsZeroOne.workload_le`, `IsZeroOne.largestWorkload_le`).
* **`balanced`** — the model after the rule (`balanceWorkload_eq_ok`).
* **`holds_loadConstraints`** — the new constraints hold exactly when the variables carry the loads,
  and a number that is as large as each of them.
* **`withLoads`** — the values of a schedule, extended to the new variables.
-/

namespace Rostering.Staffing

/-! ## Workloads -/

section

variable (x : Value → Value → Value → Int) (ix : Indexes)

/-- All that a candidate does, over all days and skills as they are listed. -/
def workload (candidate : Value) : Int := (ix.days.map (load x ix.skills candidate)).sum

/-- The most that one of the candidates does; zero if there are none. -/
def largestWorkload : Int := (ix.candidates.map (workload x ix)).foldr max 0

/-- A number is as large as the largest workload if it is as large as each of them, and not
negative. -/
theorem largestWorkload_le_iff (n : Int) :
    largestWorkload x ix ≤ n ↔ 0 ≤ n ∧ ∀ c ∈ ix.candidates, workload x ix c ≤ n := by
  unfold largestWorkload
  induction ix.candidates with
  | nil => simp
  | cons c l ih =>
      rw [List.map_cons, List.foldr_cons, max_le_iff, ih, List.forall_mem_cons]
      exact and_left_comm

theorem largestWorkload_nonneg : 0 ≤ largestWorkload x ix :=
  ((largestWorkload_le_iff x ix _).mp le_rfl).1

theorem workload_le_largestWorkload {c : Value} (hc : c ∈ ix.candidates) :
    workload x ix c ≤ largestWorkload x ix :=
  ((largestWorkload_le_iff x ix _).mp le_rfl).2 c hc

variable {x ix}

theorem IsZeroOne.workload_nonneg (hx : IsZeroOne x ix) {c : Value} (hc : c ∈ ix.candidates) :
    0 ≤ workload x ix c := by
  refine List.sum_nonneg fun n hn => ?_
  obtain ⟨d, hd, rfl⟩ := List.mem_map.mp hn
  exact hx.load_nonneg hc hd

/-- Nobody does more than one work on each day with each skill. -/
theorem IsZeroOne.workload_le (hx : IsZeroOne x ix) {c : Value} (hc : c ∈ ix.candidates) :
    workload x ix c ≤ ix.days.length * ix.skills.length := by
  have hsum := List.sum_le_card_nsmul (ix.days.map (load x ix.skills c)) (ix.skills.length : Int)
    fun n hn => by
      obtain ⟨d, hd, rfl⟩ := List.mem_map.mp hn
      exact hx.load_le hc hd
  rw [List.length_map, nsmul_eq_mul] at hsum
  exact hsum

theorem IsZeroOne.largestWorkload_le (hx : IsZeroOne x ix) :
    largestWorkload x ix ≤ ix.days.length * ix.skills.length :=
  (largestWorkload_le_iff x ix _).mpr ⟨by positivity, fun _ hc => hx.workload_le hc⟩

end

/-- Candidates that are the same have one workload. -/
theorem workload_congr {ix : Indexes} (hix : ix.OfMembers) {assign : Family} {v : Valuation}
    {c c' : Value} (hc : c ∈ ix.candidates) (h : c.same c' = true) :
    workload (scheduleOf assign v) ix c = workload (scheduleOf assign v) ix c' := by
  unfold workload
  refine congrArg List.sum (List.map_congr_left fun d hd => ?_)
  exact congrArg List.sum (List.map_congr_left fun k hk => scheduleOf_congr hix hc hd hk h)

/-! ## The model after the rule -/

/-- The variables for the loads of the candidates, behind those that a model has already. -/
def loadsOf (m : Model) (ix : Indexes) : Family :=
  Family.ofPairs ((ix.candidates.map fun c => [c]).zipIdx m.vars.length)

/-- The variable for the largest load. -/
def largestOf (m : Model) (ix : Indexes) : Nat := m.vars.length + ix.candidates.length

/-- A model of two families, after the goal of a balanced workload has been set for it. -/
def balanced (m : Model) (assign hire : Family) (ix : Indexes) : Model :=
  let most := Int.ofNat (ix.days.length * ix.skills.length)
  { m with
    vars := m.vars ++ (ix.candidates.map fun c => [c]).map (Variable.ofKey "workload" 0 most)
      ++ [⟨"max_workload", 0, most⟩]
    families := Named.ofList [("assign", assign), ("hire", hire), ("workload", loadsOf m ix),
      ("max_workload", [([], largestOf m ix)])]
    constraints := m.constraints ++ loadConstraints assign (loadsOf m ix) (largestOf m ix) ix
    objective := some ⟨.minimize, "balance_workload", [(largestOf m ix, .whole 1)]⟩ }

/-- The rule always succeeds on a model of two families. -/
theorem balanceWorkload_eq_ok {m : Model} {s : Specification} {args : Arguments}
    {assign hire : Family} {ix : Indexes}
    (hfamilies : m.families = Named.ofList [("assign", assign), ("hire", hire)])
    (hix : Indexes.ofSpecification s = .ok ix) :
    balanceWorkload m s args = .ok (balanced m assign hire ix) := by
  obtain ⟨vars, families, constraints, objective, members, notices⟩ := m
  subst hfamilies
  unfold balanceWorkload
  rw [hasFamily_of_family (f := assign) rfl]
  -- step by step: the family, the indexes, the names of the new family and variable
  refine bind_eq_ok.mpr ⟨assign, rfl, ?_⟩
  refine bind_eq_ok.mpr ⟨ix, hix, ?_⟩
  refine bind_eq_ok.mpr ⟨_, rfl, ?_⟩
  refine bind_eq_ok.mpr ⟨_, rfl, ?_⟩
  refine bind_eq_ok.mpr ⟨_, rfl, ?_⟩
  simp only [balanced, largestOf, loadsOf, Model.pursue, Model.require, Model.create,
    Model.createFamily, Model.nextFamily, List.length_append, List.length_map]
  rfl

/-! ## What it means -/

section

variable (m : Model) (assign hire : Family) (ix : Indexes)

/-- The variables for the loads are new, and different from each other and from the largest. -/
theorem numbers_loadsOf : (loadsOf m ix).numbers.Nodup
    ∧ ∀ n ∈ (loadsOf m ix).numbers, m.vars.length ≤ n ∧ n < largestOf m ix := by
  have hnumbers := Problem.numbers_ofPairs_zipIdx (ix.candidates.map fun c => [c]) m.vars.length
  rw [List.length_map] at hnumbers
  exact hnumbers

/-- They are different from all that were created before. -/
theorem distinct_loadsOf {numbers : List Nat} (hnumbers : numbers.Nodup)
    (hcreated : ∀ n ∈ numbers, n < m.vars.length) :
    (numbers ++ ((loadsOf m ix).numbers ++ [largestOf m ix])).Nodup := by
  obtain ⟨hdistinct, hrange⟩ := numbers_loadsOf m ix
  refine List.nodup_append.mpr ⟨hnumbers, List.nodup_append.mpr ⟨hdistinct, by simp, ?_⟩, ?_⟩
  -- the loads come before the largest of them
  · intro n hn k hk
    have hn := hrange n hn
    rw [List.mem_singleton.mp hk]
    omega
  · intro n hn k hk
    have hn := hcreated n hn
    cases List.mem_append.mp hk with
    | inl hload =>
        have hk := hrange k hload
        omega
    | inr hlargest =>
        rw [List.mem_singleton.mp hlargest]
        unfold largestOf
        omega

variable {ix}

theorem isSome_find?_loadsOf {c : Value} (hc : c ∈ ix.candidates) (hmember : c.IsMember) :
    ((loadsOf m ix).find? [c]).isSome = true := by
  refine Family.isSome_find?_ofPairs (by simpa using hmember) ?_
  rw [List.zipIdx_map_fst]
  exact List.mem_map_of_mem hc

variable (ix)

/-- The new constraints hold when the variables carry the loads, and one more is as large as each. -/
theorem holds_loadConstraints (loads : Family) (largest : Nat) (v : Valuation) :
    (∀ c ∈ loadConstraints assign loads largest ix, c.Holds v) ↔ ∀ c ∈ ix.candidates,
      v (loads.number [c]) = workload (scheduleOf assign v) ix c
        ∧ v (loads.number [c]) ≤ v largest := by
  unfold loadConstraints
  simp only [List.forall_mem_flatMap, List.forall_mem_cons, List.not_mem_nil, false_implies,
    implies_true, and_true, Constraint.holds_exactly, Constraint.holds_atLeast, Terms.eval_cons,
    Terms.eval_nil, Terms.eval_negated, eval_workOver]
  refine forall₂_congr fun c _ => ?_
  show _ + -workload (scheduleOf assign v) ix c = 0 ∧ _ ↔ _
  omega

/-- A valuation of the new model is one of the old model, with loads that are within bounds and what
the new constraints ask for. -/
theorem isFeasible_balanced_iff (v : Valuation) :
    (balanced m assign hire ix).IsFeasible v ↔ m.IsFeasible v
      ∧ (∀ n, m.vars.length ≤ n → n ≤ largestOf m ix →
        0 ≤ v n ∧ v n ≤ ix.days.length * ix.skills.length)
      ∧ ∀ c ∈ ix.candidates,
        v ((loadsOf m ix).number [c]) = workload (scheduleOf assign v) ix c
          ∧ v ((loadsOf m ix).number [c]) ≤ v (largestOf m ix) := by
  let most := Int.ofNat (ix.days.length * ix.skills.length)
  let fresh := (ix.candidates.map fun c => [c]).map (Variable.ofKey "workload" 0 most)
    ++ [⟨"max_workload", 0, most⟩]
  -- the variables for the loads and the largest of them are put behind the others, with the same
  -- bounds
  have hvars : (balanced m assign hire ix).vars = m.vars ++ fresh := List.append_assoc _ _ _
  have hlength : fresh.length = ix.candidates.length + 1 := by simp [fresh]
  have hfresh : ∀ x ∈ fresh, x.lower = 0 ∧ x.upper = most := by
    intro x hx
    cases List.mem_append.mp hx with
    | inl hload =>
        obtain ⟨key, -, rfl⟩ := List.mem_map.mp hload
        exact ⟨rfl, rfl⟩
    | inr hlargest =>
        cases List.mem_singleton.mp hlargest
        exact ⟨rfl, rfl⟩
  rw [Model.isFeasible_extended_iff hvars rfl, ← holds_loadConstraints]
  refine and_congr_right fun _ => and_congr_left fun _ => ⟨fun h n hlow hhigh => ?_,
    fun h i x hx => ?_⟩
  -- numbers of new variables are places among the new variables
  · have hn : n - m.vars.length < fresh.length := by
      unfold largestOf at hhigh
      omega
    have hbounds := h _ _ (List.getElem?_eq_getElem hn)
    obtain ⟨hlower, hupper⟩ := hfresh _ (List.getElem_mem hn)
    rw [hlower, hupper, show m.vars.length + (n - m.vars.length) = n by omega] at hbounds
    exact ⟨hbounds.1, by exact_mod_cast hbounds.2⟩
  · obtain ⟨hi, rfl⟩ := List.getElem?_eq_some_iff.mp hx
    obtain ⟨hlower, hupper⟩ := hfresh _ (List.getElem_mem hi)
    have hbounds := h (m.vars.length + i) (Nat.le_add_right _ _) (by unfold largestOf; omega)
    rw [hlower, hupper]
    exact ⟨hbounds.1, by exact_mod_cast hbounds.2⟩

variable {m assign hire ix}

/-- The variable for the largest load is at least the largest workload. -/
theorem largestWorkload_le_of_isFeasible {v : Valuation}
    (hv : (balanced m assign hire ix).IsFeasible v) :
    largestWorkload (scheduleOf assign v) ix ≤ v (largestOf m ix) := by
  obtain ⟨-, hbounds, hloads⟩ := (isFeasible_balanced_iff _ _ _ _ _).mp hv
  refine (largestWorkload_le_iff _ _ _).mpr ⟨?_, fun c hc => ?_⟩
  · exact (hbounds _ (Nat.le_add_right _ _) le_rfl).1
  · obtain ⟨hload, hle⟩ := hloads c hc
    rw [← hload]
    exact hle

end

/-! ## Values for the new variables -/

section

variable (m : Model) (ix : Indexes) (x : Value → Value → Value → Int) (v : Valuation)

/-- The values of a model, with the workloads of a schedule and the largest of them as the values of
the new variables. -/
def withLoads : Valuation := fun n =>
  if n < m.vars.length then v n
  else if n = largestOf m ix then largestWorkload x ix
  else ((ix.candidates.find? fun c => (loadsOf m ix).number [c] = n).map (workload x ix)).getD 0

variable {m}

theorem withLoads_of_lt {n : Nat} (hn : n < m.vars.length) : withLoads m ix x v n = v n :=
  if_pos hn

variable (m)

theorem withLoads_largest : withLoads m ix x v (largestOf m ix) = largestWorkload x ix := by
  have hn : ¬ largestOf m ix < m.vars.length := by
    unfold largestOf
    omega
  unfold withLoads
  rw [if_neg hn, if_pos rfl]

variable {ix}

/-- The variable for the load of a candidate has the workload as its value, also if the candidate is
listed in several spellings. -/
theorem withLoads_load {assign : Family} (hix : ix.OfMembers) {c : Value} (hc : c ∈ ix.candidates) :
    withLoads m ix (scheduleOf assign v) v ((loadsOf m ix).number [c])
      = workload (scheduleOf assign v) ix c := by
  obtain ⟨hdistinct, hrange⟩ := numbers_loadsOf m ix
  have hfound := isSome_find?_loadsOf m hc (hix.candidates c hc)
  obtain ⟨hlow, hhigh⟩ := hrange _ (Family.number_mem hfound)
  unfold withLoads
  rw [if_neg (by omega), if_neg (by omega)]
  -- some candidate has this variable, and whoever has it is the same
  have hsome : (ix.candidates.find? fun c' =>
      (loadsOf m ix).number [c'] = (loadsOf m ix).number [c]).isSome = true := by
    rw [List.find?_isSome]
    exact ⟨c, hc, decide_eq_true rfl⟩
  obtain ⟨c', hc'⟩ := Option.isSome_iff_exists.mp hsome
  rw [hc', Option.map_some, Option.getD_some]
  have hlisted := List.mem_of_find?_eq_some hc'
  have hnumber := List.find?_some hc'
  have hsame := Family.same_of_number_eq hdistinct (by simpa using hix.candidates c' hlisted)
    (isSome_find?_loadsOf m hlisted (hix.candidates c' hlisted)) hfound
    (of_decide_eq_true hnumber)
  rw [Value.sameItems, Bool.and_eq_true] at hsame
  exact workload_congr hix hlisted hsame.1

/-- Workloads of a schedule of zeros and ones are within the bounds of the new variables. -/
theorem withLoads_within {x : Value → Value → Value → Int} (hx : IsZeroOne x ix) {n : Nat}
    (hn : m.vars.length ≤ n) : 0 ≤ withLoads m ix x v n
      ∧ withLoads m ix x v n ≤ ix.days.length * ix.skills.length := by
  unfold withLoads
  rw [if_neg (by omega)]
  split
  · exact ⟨largestWorkload_nonneg x ix, hx.largestWorkload_le⟩
  · cases hfound : ix.candidates.find? fun c => (loadsOf m ix).number [c] = n with
    | none => exact ⟨le_rfl, by positivity⟩
    | some c =>
        have hc := List.mem_of_find?_eq_some hfound
        exact ⟨hx.workload_nonneg hc, hx.workload_le hc⟩

end

end Rostering.Staffing
