import Rostering.Proofs.Pipeline
import Rostering.Proofs.Staffing.Cost

/-!
# Who is hired at least cost

Hiring enters the constraints of a model only where whoever works has to be hired. So the variables
for hiring can be exchanged: hiring exactly those who are used, or letting go somebody who is not,
leaves a valuation feasible. If the goal is the cost of hiring, an optimal valuation therefore hires
those who cost something exactly if they are used, and its value is the least cost of a schedule.

## The architecture

* **`Build.Plans.isFeasible_of_rehired`** — the exchange: other zeros and ones for hiring keep a
  valuation feasible, as long as whoever is used is hired.
* **`Build.Plans.isUsed_of_optimal`** — letting go somebody who is not used would be cheaper.
* **`Build.Plans.cost_least`** — the least cost of hiring is the least cost of those who are used.
* **`Build.hired_of_run`** — both for whole builds, with any constraint overrides.
-/

namespace Rostering

namespace Build

open Staffing (Agree IsUsed Works costIn usedCost hireTerms eval_hireTerms indexesOf scheduleOf
  HasWholeCosts)

/-! ## Exchanging the variables for hiring -/

/-- The values for hiring of a schedule: whoever is used is hired, and nobody else. -/
def hiringUsed (hire : Family) (assign : Family) (s : Specification) (v : Valuation) : Valuation :=
  fun n =>
    if n ∈ hire.numbers then
      if ∃ c ∈ (indexesOf s).candidates, hire.number [c] = n
          ∧ IsUsed (scheduleOf assign v) (indexesOf s) c then 1 else 0
    else v n

namespace Plans

variable {s : Specification} {m : Model} {assign hire : Family}

/-- Variables for hiring are no variables for assignments. -/
theorem number_assign_notMem (h : Plans s m assign hire) {n : Nat} (hn : n ∈ assign.numbers) :
    n ∉ hire.numbers :=
  fun hhire => (List.nodup_append.mp h.distinct).2.2 n hn n hhire rfl

/-- Candidates with one variable for hiring are the same. -/
theorem same_of_number_hire (h : Plans s m assign hire) (hix : (indexesOf s).OfMembers)
    {c c' : Value} (hc : c ∈ (indexesOf s).candidates) (hc' : c' ∈ (indexesOf s).candidates)
    (hnumber : hire.number [c] = hire.number [c']) : c.same c' = true := by
  have hdistinct := (List.nodup_append.mp h.distinct).2.1
  have hsame := Family.same_of_number_eq hdistinct (by simpa using hix.candidates c hc)
    (h.hires c hc) (h.hires c' hc') hnumber
  rw [Value.sameItems, Bool.and_eq_true] at hsame
  exact hsame.1

/-- Whoever is used in a feasible valuation is hired. -/
theorem hire_of_isUsed (h : Plans s m assign hire) {v : Valuation} (hv : m.IsFeasible v) {c : Value}
    (hc : c ∈ (indexesOf s).candidates) (hused : IsUsed (scheduleOf assign v) (indexesOf s) c) :
    v (hire.number [c]) = 1 := by
  obtain ⟨hzeroOne, hschedule⟩ := (h.isFeasible_iff v).mp hv
  obtain ⟨d, hd, k, hk, hone⟩ := hused
  have hemployed := hschedule.employed c hc d hd k hk
  have hvalue := hzeroOne _ (h.created _ (List.mem_append_right _ (h.number_hire_mem hc)))
  omega

/-- Other zeros and ones for hiring keep a valuation feasible, as long as whoever is used is hired.
The schedule stays as it is, and only the constraints on hiring look at these variables. -/
theorem isFeasible_of_rehired (h : Plans s m assign hire) {v w : Valuation} (hv : m.IsFeasible v)
    (hsame : ∀ n, n ∉ hire.numbers → w n = v n) (hzeroOne : ∀ n ∈ hire.numbers, w n = 0 ∨ w n = 1)
    (hused : ∀ c ∈ (indexesOf s).candidates, IsUsed (scheduleOf assign v) (indexesOf s) c →
      w (hire.number [c]) = 1) : m.IsFeasible w := by
  obtain ⟨hbefore, -⟩ := (h.isFeasible_iff v).mp hv
  have hassign : ∀ n ∈ assign.numbers, w n = v n := fun n hn =>
    hsame n (h.number_assign_notMem hn)
  refine (h.isFeasible_iff w).mpr ⟨fun n hn => ?_, (h.holds_iff w).mp ?_⟩
  · by_cases hhire : n ∈ hire.numbers
    · exact hzeroOne n hhire
    · rw [hsame n hhire]
      exact hbefore n hn
  · refine h.holds_of_agree hassign (fun c hc d hd k hk => ?_) hv.holds
    rw [hassign _ (h.number_assign_mem hc hd hk)]
    have hhired := hzeroOne _ (h.number_hire_mem hc)
    -- an assignment is a zero, or it makes the candidate one who is used
    cases hbefore _ (h.created _ (List.mem_append_left _ (h.number_assign_mem hc hd hk))) with
    | inl hzero => omega
    | inr hone =>
        have hvalue := hused c hc ⟨d, hd, k, hk, hone⟩
        omega

/-! ## An optimum hires nobody in vain -/

/-- In a valuation of least cost, whoever costs something and is hired is used: otherwise letting go
the candidate would be cheaper. -/
theorem isUsed_of_optimal (h : Plans s m assign hire) (hix : (indexesOf s).OfMembers) {es : Entries}
    {factor : Int} (hfactor : 0 < factor) {v : Valuation} (hv : m.IsFeasible v)
    (hoptimal : ∀ u, m.IsFeasible u → (hireTerms hire (indexesOf s).candidates es factor).eval v
      ≤ (hireTerms hire (indexesOf s).candidates es factor).eval u)
    {c : Value} (hc : c ∈ (indexesOf s).candidates) (hcost : 0 < costIn es c)
    (hhired : v (hire.number [c]) = 1) : IsUsed (scheduleOf assign v) (indexesOf s) c := by
  by_contra hunused
  let w : Valuation := fun n => if n = hire.number [c] then 0 else v n
  have hgone : w (hire.number [c]) = 0 := if_pos rfl
  have hother : ∀ {n}, n ≠ hire.number [c] → w n = v n := fun hn => if_neg hn
  have hw : m.IsFeasible w := by
    refine h.isFeasible_of_rehired hv (fun n hn => ?_) (fun n hn => ?_) fun c' hc' hused => ?_
    · refine hother fun heq => hn ?_
      rw [heq]
      exact h.number_hire_mem hc
    · by_cases heq : n = hire.number [c]
      · exact Or.inl (heq ▸ hgone)
      · rw [hother heq]
        exact ((h.isFeasible_iff v).mp hv).1 n (h.created n (List.mem_append_right _ hn))
    · have hne : hire.number [c'] ≠ hire.number [c] := fun heq =>
        hunused (hused.congr hix hc' (h.same_of_number_hire hix hc' hc heq))
      rw [hother hne]
      exact h.hire_of_isUsed hv hc' hused
  -- all terms stay as they are, except for those of the candidate, which become cheaper
  have hless : (hireTerms hire (indexesOf s).candidates es factor).eval w
      < (hireTerms hire (indexesOf s).candidates es factor).eval v := by
    rw [eval_hireTerms, eval_hireTerms]
    refine List.sum_lt_sum _ _ (fun c' hc' => ?_) ⟨c, hc, ?_⟩
    · by_cases heq : hire.number [c'] = hire.number [c]
      · have hsame := h.same_of_number_hire hix hc' hc heq
        rw [Staffing.costIn_congr es (hix.candidates c' hc') hsame, heq, hgone, hhired, Int.mul_zero,
          Int.mul_zero]
        positivity
      · rw [hother heq]
    · rw [hgone, hhired]
      have hpositive : 0 < factor * (costIn es c * 1) := by positivity
      omega
  exact absurd (hoptimal w hw) (not_le.mpr hless)

/-! ## The least cost -/

theorem hiringUsed_hire (h : Plans s m assign hire) (hix : (indexesOf s).OfMembers) (v : Valuation)
    {c : Value} (hc : c ∈ (indexesOf s).candidates) :
    hiringUsed hire assign s v (hire.number [c])
      = if IsUsed (scheduleOf assign v) (indexesOf s) c then 1 else 0 := by
  unfold hiringUsed
  rw [if_pos (h.number_hire_mem hc)]
  refine if_congr ⟨?_, fun hused => ⟨c, hc, rfl, hused⟩⟩ rfl rfl
  rintro ⟨c', hc', hnumber, hused⟩
  exact hused.congr hix hc' (h.same_of_number_hire hix hc' hc hnumber)

/-- Hiring exactly those who are used keeps a valuation feasible. -/
theorem isFeasible_hiringUsed (h : Plans s m assign hire) (hix : (indexesOf s).OfMembers)
    {v : Valuation} (hv : m.IsFeasible v) : m.IsFeasible (hiringUsed hire assign s v) := by
  refine h.isFeasible_of_rehired hv (fun n hn => if_neg hn) (fun n hn => ?_) fun c hc hused => ?_
  · unfold hiringUsed
    rw [if_pos hn]
    split
    · exact Or.inr rfl
    · exact Or.inl rfl
  · rw [h.hiringUsed_hire hix v hc, if_pos hused]

/-- Its cost is that of those who are used. -/
theorem eval_hiringUsed (h : Plans s m assign hire) (hix : (indexesOf s).OfMembers) (es : Entries)
    (factor : Int) (v : Valuation) :
    (hireTerms hire (indexesOf s).candidates es factor).eval (hiringUsed hire assign s v)
      = factor * usedCost (scheduleOf assign v) (indexesOf s) es := by
  rw [eval_hireTerms, usedCost, ← List.sum_map_mul_left]
  refine congrArg List.sum (List.map_congr_left fun c hc => ?_)
  rw [h.hiringUsed_hire hix v hc]
  split <;> simp

/-- Nobody is cheaper to hire than those who are used. -/
theorem usedCost_le (h : Plans s m assign hire) {es : Entries}
    (hcosts : ∀ c ∈ (indexesOf s).candidates, 0 ≤ costIn es c) {factor : Int} (hfactor : 0 < factor)
    {v : Valuation} (hv : m.IsFeasible v) :
    factor * usedCost (scheduleOf assign v) (indexesOf s) es
      ≤ (hireTerms hire (indexesOf s).candidates es factor).eval v := by
  rw [eval_hireTerms, usedCost, ← List.sum_map_mul_left]
  refine List.sum_le_sum fun c hc => mul_le_mul_of_nonneg_left ?_ hfactor.le
  split
  · next hused => rw [h.hire_of_isUsed hv hc hused, Int.mul_one]
  · have hzeroOne := ((h.isFeasible_iff v).mp hv).1 _
      (h.created _ (List.mem_append_right _ (h.number_hire_mem hc)))
    exact mul_nonneg (hcosts c hc) (by omega)

/-- If there is a feasible valuation and no cost is negative, then the least cost of hiring is the
least cost of those who are used. -/
theorem cost_least (h : Plans s m assign hire) (hix : (indexesOf s).OfMembers) {es : Entries}
    (hcosts : ∀ c ∈ (indexesOf s).candidates, 0 ≤ costIn es c) {factor : Int} (hfactor : 0 < factor)
    (hfeasible : ∃ v, m.IsFeasible v) :
    ∃ n, IsLeast {n | ∃ v, m.IsFeasible v
          ∧ (hireTerms hire (indexesOf s).candidates es factor).eval v = n} (factor * n)
      ∧ IsLeast {n | ∃ v, m.IsFeasible v
          ∧ usedCost (scheduleOf assign v) (indexesOf s) es = n} n := by
  -- no cost is negative, so neither is a sum of costs, and among them there is a least one
  have hnonneg : ∀ v, 0 ≤ usedCost (scheduleOf assign v) (indexesOf s) es := by
    refine fun v => List.sum_nonneg fun n hn => ?_
    obtain ⟨c, hc, rfl⟩ := List.mem_map.mp hn
    split
    · exact hcosts c hc
    · exact le_rfl
  obtain ⟨v, hv⟩ := hfeasible
  obtain ⟨n, ⟨u, hu, hn⟩, hleast⟩ := Int.exists_least_of_bdd
    (P := fun n => ∃ v, m.IsFeasible v ∧ usedCost (scheduleOf assign v) (indexesOf s) es = n)
    ⟨0, fun n ⟨v, _, hn⟩ => hn ▸ hnonneg v⟩ ⟨_, v, hv, rfl⟩
  refine ⟨n, ⟨⟨_, h.isFeasible_hiringUsed hix hu, ?_⟩, ?_⟩, ⟨⟨u, hu, hn⟩, hleast⟩⟩
  · rw [h.eval_hiringUsed hix, hn]
  · -- any feasible valuation pays for those who are used at least
    rintro _ ⟨w, hw, rfl⟩
    have hbound := mul_le_mul_of_nonneg_left (hleast _ ⟨w, hw, rfl⟩) hfactor.le
    exact hbound.trans (h.usedCost_le hcosts hfactor hw)

end Plans

/-! ## Whole builds -/

/-- In a model whose goal is the cost of hiring, so many times, with costs in whole numbers and any
constraint overrides, an optimal valuation hires whoever costs something exactly if there is something
for the candidate to do. If there is a feasible valuation at all and no cost is negative, then the
least value of the goal is so many times the least that a feasible schedule costs: what those cost
who have anything to do in it, at each place in the list of candidates. -/
theorem hired_of_run {σ : Type} {l : Loader σ} {w : World σ} {s t : Specification}
    {b : Built Model} {es : Entries} {factor : Int} (hmembers : (indexesOf s).OfMembers)
    (htemplate : s.template = "work_scheduling") (hloads : (l.materializeAll w s).1 = .ok t)
    (hcost : t.loadedData "cost_month" = .ok (.map es)) (hcosts : HasWholeCosts es)
    (hgoal : PaysForHiring s factor) (hbuild : (run builtins l w s).1 = .ok b) :
    ∃ assign hire source goal,
      b.handle.families = Named.ofList [("assign", assign), ("hire", hire)]
      ∧ b.handle.objective = some ⟨.minimize, source, goal.map fun e => (e.1, .whole e.2)⟩
      ∧ (∀ c ∈ (indexesOf s).candidates, (hire.find? [c]).isSome
        ∧ ∀ d ∈ (indexesOf s).days, ∀ k ∈ (indexesOf s).skills, (assign.find? [c, d, k]).isSome)
      ∧ (∀ v, b.handle.IsFeasible v →
        (∀ u, b.handle.IsFeasible u → Terms.eval goal v ≤ Terms.eval goal u) →
        ∀ c ∈ (indexesOf s).candidates, 0 < costIn es c →
          (v (hire.number [c]) = 1 ↔ ∃ d ∈ (indexesOf s).days, ∃ k ∈ (indexesOf s).skills,
            v (assign.number [c, d, k]) = 1))
      ∧ ((∀ c ∈ (indexesOf s).candidates, 0 ≤ costIn es c) → (∃ v, b.handle.IsFeasible v) →
        ∃ n, IsLeast {n | ∃ v, b.handle.IsFeasible v ∧ Terms.eval goal v = n} (factor * n)
          ∧ IsLeast {n | ∃ v, b.handle.IsFeasible v
            ∧ usedCost (fun c d k => v (assign.number [c, d, k])) (indexesOf s) es = n} n) := by
  obtain ⟨hkept, hindexes, hoverrides⟩ := Loader.kept_of_materializeAll hloads
  -- indexes, template and overrides are those of the specification before loading
  have hix : indexesOf t = indexesOf s := by
    unfold indexesOf Staffing.membersOf
    rw [hindexes]
  have hassemble : assemble builtins t = .ok b := by
    rw [← run_of_loads builtins hloads]
    exact hbuild
  have hgoal : PaysForHiring t factor := hgoal.congr hoverrides
  rw [← hix] at hmembers ⊢
  -- the model plans the loaded specification, and its goal is the sum over its candidates
  obtain ⟨p, m, hp, -, hreads, hplans⟩ :=
    assemble_plans hmembers (hkept.trans htemplate) hgoal.target_ne hassemble
  obtain ⟨source, hobjective⟩ :=
    objective_of_assemble (hkept.trans htemplate) hcost hcosts hgoal hp hassemble
  have hcandidates : (indexesOf t).candidates = p.candidates := by rw [hreads.indexes]
  rw [← hcandidates] at hobjective
  -- whoever costs something is hired only if used, by optimality, and if used in any case
  refine ⟨p.assign, p.hire, source, _, hplans.families, hobjective,
    fun c hc => ⟨hplans.hires c hc, hplans.assigns c hc⟩, fun v hv hoptimal c hc hpositive => ?_,
    fun hnonneg => hplans.cost_least hmembers hnonneg hgoal.pos⟩
  exact ⟨hplans.isUsed_of_optimal hmembers hgoal.pos hv hoptimal hc hpositive,
    hplans.hire_of_isUsed hv hc⟩

/-! ### A desk for one of two -/

/-- One day, one desk that needs a worker, and two candidates of different costs who may work there.
The goal is twice the cost of hiring. -/
def paidDesk : Specification :=
  let day := Day.date ⟨738945, by decide⟩
  ⟨"work_scheduling",
    .ofList [("days", .range day day), ("candidates", .listed [.str "Ann", .str "Bob"]),
      ("skills", .listed [.str "desk"])],
    .ofList [("demand", .table ["day", "skill", "value"] (.literal .null)
        (some ⟨[.str "day", .str "skill", .str "value"],
          [[.str day.label, .str "desk", .int 1]]⟩)),
      ("candidate_skills", .table ["candidate", "skill"] (.literal .null)
        (some ⟨[.str "candidate", .str "skill"],
          [[.str "Ann", .str "desk"], [.str "Bob", .str "desk"]]⟩)),
      ("cost_month", .mapping "candidate" (.literal .null)
        (some [(.str "Ann", .int 30), (.str "Bob", .int 20)]))],
    .empty,
    .ofList [("objective", [⟨"", "minimize_cost", .ofList [("multiplier", .int 2)]⟩])]⟩

/-- Ann and Bob at the desk: an optimal valuation hires them if they work, and its value is twice the
least cost of a feasible schedule. -/
theorem hired_of_run_at_desk :
    ∃ b assign hire source goal, (run builtins literalLoader literalWorld paidDesk).1 = .ok b
      ∧ b.handle.families = Named.ofList [("assign", assign), ("hire", hire)]
      ∧ b.handle.objective = some ⟨.minimize, source, goal.map fun e => (e.1, .whole e.2)⟩
      ∧ (∀ v, b.handle.IsFeasible v →
        (∀ u, b.handle.IsFeasible u → Terms.eval goal v ≤ Terms.eval goal u) →
        ∀ c ∈ (indexesOf paidDesk).candidates,
          (v (hire.number [c]) = 1 ↔ ∃ d ∈ (indexesOf paidDesk).days,
            ∃ k ∈ (indexesOf paidDesk).skills, v (assign.number [c, d, k]) = 1))
      ∧ ∃ n, IsLeast {n | ∃ v, b.handle.IsFeasible v ∧ Terms.eval goal v = n} (2 * n)
        ∧ IsLeast {n | ∃ v, b.handle.IsFeasible v
          ∧ usedCost (fun c d k => v (assign.number [c, d, k])) (indexesOf paidDesk)
            [(.str "Ann", .int 30), (.str "Bob", .int 20)] = n} n := by
  let costs : Entries := [(.str "Ann", .int 30), (.str "Bob", .int 20)]
  have hloaded : paidDesk.IsLoaded := by
    show ∀ e ∈ paidDesk.parameters.entries, Loader.isPending e.2 = false
    decide +kernel
  have hloads : (literalLoader.materializeAll literalWorld paidDesk).1 = .ok paidDesk := by
    rw [Loader.materializeAll_of_isLoaded _ _ hloaded]
  -- the model is built once; that everybody works and is hired satisfies it
  have hcheck : (run builtins literalLoader literalWorld paidDesk).1.toOption.any (fun b =>
      b.handle.vars.all (fun x => decide (x.lower ≤ 1 ∧ 1 ≤ x.upper))
        && b.handle.constraints.all fun c => decide (c.Holds fun _ => 1)) = true := by
    decide +kernel
  simp only [Option.any_eq_true, Bool.and_eq_true, List.all_eq_true, decide_eq_true_eq] at hcheck
  obtain ⟨b, hb, hvars, hholds⟩ := hcheck
  have hbuild := eq_ok_of_toOption hb
  have hcandidates : (indexesOf paidDesk).candidates = [.str "Ann", .str "Bob"] := rfl
  have hpaid : ∀ c ∈ (indexesOf paidDesk).candidates, 0 < costIn costs c := by
    rw [hcandidates]
    decide +kernel
  -- the members are texts and days, as they are in any configuration
  have hmembers : (indexesOf paidDesk).OfMembers := by
    refine ⟨fun c hc => ?_, fun d hd => ?_, fun k hk => ?_⟩
    · rw [hcandidates] at hc
      rcases List.mem_cons.mp hc with rfl | hc
      · trivial
      · rw [List.mem_singleton.mp hc]
        trivial
    · obtain ⟨day, -, rfl⟩ := List.mem_map.mp hd
      trivial
    · rw [List.mem_singleton.mp hk]
      trivial
  have hcost : paidDesk.loadedData "cost_month" = .ok (.map costs) := rfl
  have hwhole : HasWholeCosts costs := by
    simp [HasWholeCosts, costs]
  obtain ⟨assign, hire, source, goal, hfamilies, hobjective, -, hoptimal, hleast⟩ :=
    hired_of_run hmembers rfl hloads hcost hwhole
      (.times (k := 2) rfl rfl rfl (by decide)) hbuild
  exact ⟨b, assign, hire, source, goal, hbuild, hfamilies, hobjective,
    fun v hv hbest c hc => hoptimal v hv hbest c hc (hpaid c hc),
    hleast (fun c hc => (hpaid c hc).le) ⟨_, Model.isFeasible_of_constant hvars hholds⟩⟩

end Build

end Rostering
