import Rostering.Proofs.Pipeline
import Rostering.Proofs.Staffing.Workload

/-!
# A balanced workload

The goal of a balanced workload brings variables and constraints of its own to a model that was built
with any constraint overrides. They take nothing away: the schedules that the model allows are the
same as before. And they mean what they say, so that the least value of the goal is the smallest
possible workload of whoever has the most to do.

## The architecture

* **`Build.ignoresOverrides_builtins`**, **`Build.assemble_withGoal`** — building with a goal is
  building without one, and then applying the goal.
* **`Build.Plans.balanced_extends`** — the step of the extension: a valuation extends to the new
  variables exactly if it satisfies the model before.
* **`Build.Plans.balanced_least`** — the least value of the goal.
* **`Build.balanced_of_run`** — both for a whole build, with any constraint overrides.
-/

namespace Rostering

namespace Build

open Staffing (Indexes Problem indexesOf scheduleOf workload largestWorkload balanced loadsOf
  largestOf withLoads)

/-! ## Building with a goal -/

/-- No built-in capability looks at the overrides of the specification that it is given: the
template reads indexes and data, and a rule reads its own arguments. -/
theorem ignoresOverrides_builtins : builtins.IgnoresOverrides := by
  refine ⟨?_, ?_, ?_⟩
  · intro e he s overrides
    cases List.mem_singleton.mp he
    rfl
  · intro e he h s overrides args
    -- the tables are small, so their entries are gone through one by one
    have hentries : builtins.constraints.entries = [("time_window", Staffing.timeWindow),
      ("max_consecutive_days", Staffing.consecutiveDays),
      ("min_rest_days", Staffing.restDays)] := rfl
    rw [hentries] at he
    simp only [List.mem_cons, List.not_mem_nil, or_false] at he
    rcases he with rfl | rfl | rfl <;> rfl
  · intro e he h s overrides args
    have hentries : builtins.objectives.entries = [("minimize_cost", Staffing.minimizeCost),
      ("maximize_coverage", Staffing.maximizeCoverage),
      ("balance_workload", Staffing.balanceWorkload)] := rfl
    rw [hentries] at he
    simp only [List.mem_cons, List.not_mem_nil, or_false] at he
    rcases he with rfl | rfl | rfl <;> rfl

theorem Transforms.concat {η : Type} {r : Capabilities η} {s : Specification} {h h' h'' : η}
    {xs : List Stage} {x : Stage} (hxs : Transforms r s h xs h') (hx : x.Applies r s h' h'') :
    Transforms r s h (xs ++ [x]) h'' := by
  induction hxs with
  | nil => exact .cons hx (.nil _)
  | cons hfirst _ ih => exact .cons hfirst (ih hx)

/-- Building with a goal is building without one, and then applying the first goal. This is what
lets a statement about the goal start from the model that was there before it. -/
theorem assemble_withGoal {s : Specification} {before : Built Model} {o : Override}
    {os : List Override} {rule : Rule Model} {handle : Model}
    (hgoal : s.overridesFor "objective" = o :: os)
    (hbefore : assemble builtins (s.withOverrides "objective" []) = .ok before)
    (hrule : builtins.objective o.target = .ok rule)
    (happlies : rule before.handle s o.args = .ok handle) :
    assemble builtins s = .ok ⟨handle, before.applied ++ [o.label]⟩ := by
  obtain ⟨h, hmade, hrun, hlabels⟩ := assemble_succeeds_iff.mp hbefore
  -- to put the goals back is to add one stage at the end, however many goals there are
  have hstages : stages s = stages (s.withOverrides "objective" []) ++ [.objective o] := by
    unfold stages
    rw [hgoal]
    simp [Specification.overridesFor, Specification.withOverrides, Named.find?_insert]
  -- the stages before see other overrides than those with which they ran, and do not look at them
  refine assemble_succeeds_iff.mpr ⟨h, ?_, ?_, ?_⟩
  · exact hmade.withOverrides ignoresOverrides_builtins s.overrides rfl
  · rw [hstages]
    exact (hrun.withOverrides ignoresOverrides_builtins s.overrides fun _ _ => rfl).concat
      ⟨rule, hrule, happlies⟩
  · rw [hstages, hlabels, List.map_append]
    rfl

/-! ## Extending valuations -/

namespace Plans

variable {s : Specification} {m : Model} {assign hire : Family}

theorem isZeroOne (h : Plans s m assign hire) {v : Valuation}
    (hv : ∀ n ∈ assign.numbers, v n = 0 ∨ v n = 1) :
    Staffing.IsZeroOne (scheduleOf assign v) (indexesOf s) :=
  fun _ hc _ hd _ hk => hv _ (h.number_assign_mem hc hd hk)

/-- A feasible valuation stays feasible when it is given the workloads of its schedule. This is the
half of the extension that has to give values: the load of each candidate, and the largest of them.
-/
theorem isFeasible_withLoads (h : Plans s m assign hire) (hix : (indexesOf s).OfMembers)
    {v : Valuation} (hv : m.IsFeasible v) : (balanced m assign hire (indexesOf s)).IsFeasible
      (withLoads m (indexesOf s) (scheduleOf assign v) v) := by
  -- the extended valuation differs from the old one in new variables only
  let w := withLoads m (indexesOf s) (scheduleOf assign v) v
  have hold : ∀ n < m.vars.length, w n = v n := fun n hn =>
    Staffing.withLoads_of_lt _ _ _ hn
  have hnumbers : ∀ n ∈ assign.numbers ++ hire.numbers, w n = v n := fun n hn =>
    hold n (h.created n hn)
  have hzeroOne := ((h.isFeasible_iff v).mp hv).1
  have hschedule : Staffing.IsZeroOne (scheduleOf assign v) (indexesOf s) :=
    h.isZeroOne fun n hn => hzeroOne n (h.created n (List.mem_append_left _ hn))
  -- hence every workload is what it was, and the new variables state it
  have hworkload : ∀ c ∈ (indexesOf s).candidates,
      workload (scheduleOf assign w) (indexesOf s) c
        = workload (scheduleOf assign v) (indexesOf s) c := by
    intro c hc
    have hagree : Staffing.Agree (scheduleOf assign w) (scheduleOf assign v) (indexesOf s) :=
      fun c hc d hd k hk =>
        hnumbers _ (List.mem_append_left _ (h.number_assign_mem hc hd hk))
    exact hagree.sum_load_eq hc (List.Subset.refl _)
  have hbefore : m.IsFeasible w := by
    refine (h.isFeasible_iff w).mpr
      ⟨fun n hn => ?_, (h.holds_iff w).mp (h.holds_congr hnumbers hv.holds)⟩
    rw [hold n hn]
    exact hzeroOne n hn
  -- what the goal adds: bounds of the new variables, loads that are right, and a largest one above
  -- them
  refine (Staffing.isFeasible_balanced_iff _ _ _ _ _).mpr ⟨hbefore, ?_, ?_⟩
  · exact fun n hn _ => Staffing.withLoads_within m v hschedule hn
  · intro c hc
    rw [hworkload c hc, Staffing.withLoads_largest, Staffing.withLoads_load m v hix hc]
    exact ⟨rfl, Staffing.workload_le_largestWorkload _ _ hc⟩

/-- Values of the two families extend to the new variables exactly if they are zeros and ones that
satisfy the model before. -/
theorem balanced_extends (h : Plans s m assign hire) (hix : (indexesOf s).OfMembers)
    (v : Valuation) :
    (∃ w, (∀ n ∈ assign.numbers ++ hire.numbers, w n = v n)
        ∧ (balanced m assign hire (indexesOf s)).IsFeasible w)
      ↔ (∀ n ∈ assign.numbers ++ hire.numbers, v n = 0 ∨ v n = 1)
        ∧ ∀ c ∈ m.constraints, c.Holds v := by
  constructor
  · rintro ⟨w, hsame, hw⟩
    have hbefore := ((Staffing.isFeasible_balanced_iff _ _ _ _ _).mp hw).1
    obtain ⟨hzeroOne, -⟩ := (h.isFeasible_iff w).mp hbefore
    refine ⟨fun n hn => ?_, h.holds_congr (fun n hn => (hsame n hn).symm) hbefore.holds⟩
    rw [← hsame n hn]
    exact hzeroOne n (h.created n hn)
  · rintro ⟨hzeroOne, hholds⟩
    -- variables that no key finds have to be zero or one as well
    let u : Valuation := fun n => if n ∈ assign.numbers ++ hire.numbers then v n else 0
    have hsame : ∀ n ∈ assign.numbers ++ hire.numbers, u n = v n := fun n hn => if_pos hn
    have hu : m.IsFeasible u := by
      refine (h.isFeasible_iff u).mpr
        ⟨fun n _ => ?_, (h.holds_iff u).mp (h.holds_congr hsame hholds)⟩
      by_cases hn : n ∈ assign.numbers ++ hire.numbers
      · rw [hsame n hn]
        exact hzeroOne n hn
      · exact Or.inl (if_neg hn)
    refine ⟨_, fun n hn => ?_, h.isFeasible_withLoads hix hu⟩
    rw [Staffing.withLoads_of_lt _ _ _ (h.created n hn), hsame n hn]

/-! ## The least value -/

/-- If there is a feasible valuation, then the largest variable and the largest workload have one
least value. The values of the one come from the other: a schedule can be given its own loads, and
whatever the largest variable is, it is at least the largest workload. -/
theorem balanced_least (h : Plans s m assign hire) (hix : (indexesOf s).OfMembers)
    (hfeasible : ∃ v, m.IsFeasible v) :
    ∃ n, IsLeast {n | ∃ v, (balanced m assign hire (indexesOf s)).IsFeasible v
          ∧ v (largestOf m (indexesOf s)) = n} n
      ∧ IsLeast {n | ∃ v, m.IsFeasible v
          ∧ largestWorkload (scheduleOf assign v) (indexesOf s) = n} n := by
  obtain ⟨v, hv⟩ := hfeasible
  -- a workload is never negative, so among those of all schedules there is a least one
  obtain ⟨n, ⟨u, hu, hn⟩, hleast⟩ := Int.exists_least_of_bdd
    (P := fun n => ∃ v, m.IsFeasible v ∧ largestWorkload (scheduleOf assign v) (indexesOf s) = n)
    ⟨0, fun n ⟨v, _, hn⟩ => hn ▸ Staffing.largestWorkload_nonneg _ _⟩ ⟨_, v, hv, rfl⟩
  refine ⟨n, ⟨⟨_, h.isFeasible_withLoads hix hu, ?_⟩, ?_⟩, ⟨⟨u, hu, hn⟩, hleast⟩⟩
  · rw [Staffing.withLoads_largest, hn]
  · -- a feasible valuation of the balanced model gives one of the model before
    rintro _ ⟨w, hw, rfl⟩
    have hbefore := ((Staffing.isFeasible_balanced_iff _ _ _ _ _).mp hw).1
    exact (hleast _ ⟨w, hbefore, rfl⟩).trans (Staffing.largestWorkload_le_of_isFeasible hw)

end Plans

/-! ## Whole builds -/

/-- A specification that builds without goals loads its data, and is assembled without goals.
Loading does not look at overrides, so they can be put back when the data are there. -/
theorem loads_of_run_withoutGoals {σ : Type} {l : Loader σ} {w : World σ} {s : Specification}
    {before : Built Model}
    (hbefore : (run builtins l w (s.withOverrides "objective" [])).1 = .ok before) :
    ∃ t, (l.materializeAll w s).1 = .ok t ∧ t.template = s.template ∧ t.indexes = s.indexes
      ∧ t.overrides = s.overrides
      ∧ assemble builtins (t.withOverrides "objective" []) = .ok before := by
  unfold Specification.withOverrides at hbefore
  rw [run_eq_assemble, Loader.materializeAll_withOverrides] at hbefore
  cases ht : (l.materializeAll w s).1 with
  | error e =>
      rw [ht] at hbefore
      cases hbefore
  | ok t =>
      obtain ⟨htemplate, hindexes, hoverrides⟩ := Loader.kept_of_materializeAll ht
      rw [ht, ← hoverrides] at hbefore
      exact ⟨t, rfl, htemplate, hindexes, hoverrides, hbefore⟩

/-- The goal of a balanced workload can be set for every model that was built, with any constraint
overrides. The finished model has new variables, one for the load of each candidate and one for the
largest load. Values of the other variables extend to them exactly if they are zeros and ones that
satisfy the model before; the loads are then what each candidate does over all days and skills as
they are listed, and none is larger than the largest. If there is a feasible valuation at all, then
the least value of the goal is the least that whoever has the most to do has to do. -/
theorem balanced_of_run {σ : Type} {l : Loader σ} {w : World σ} {s : Specification}
    {before : Built Model} {o : Override} {os : List Override}
    (hmembers : (indexesOf s).OfMembers) (htemplate : s.template = "work_scheduling")
    (hgoal : s.overridesFor "objective" = o :: os) (htarget : o.target = "balance_workload")
    (hbefore : (run builtins l w (s.withOverrides "objective" [])).1 = .ok before) :
    ∃ after assign hire loads largest, (run builtins l w s).1 = .ok after
      ∧ before.handle.families = Named.ofList [("assign", assign), ("hire", hire)]
      ∧ after.handle.families = Named.ofList [("assign", assign), ("hire", hire),
        ("workload", loads), ("max_workload", [([], largest)])]
      ∧ (assign.numbers ++ hire.numbers ++ (loads.numbers ++ [largest])).Nodup
      ∧ (∀ c ∈ (indexesOf s).candidates, (loads.find? [c]).isSome)
      ∧ after.handle.objective = some ⟨.minimize, "balance_workload", [(largest, .whole 1)]⟩
      ∧ (∀ v : Valuation,
        (∃ w, (∀ n ∈ assign.numbers ++ hire.numbers, w n = v n) ∧ after.handle.IsFeasible w) ↔
          (∀ n ∈ assign.numbers ++ hire.numbers, v n = 0 ∨ v n = 1)
            ∧ ∀ c ∈ before.handle.constraints, c.Holds v)
      ∧ (∀ v, after.handle.IsFeasible v → ∀ c ∈ (indexesOf s).candidates,
        v (loads.number [c]) = workload (fun c d k => v (assign.number [c, d, k])) (indexesOf s) c
          ∧ v (loads.number [c]) ≤ v largest)
      ∧ ((∃ v, before.handle.IsFeasible v) →
        ∃ n, IsLeast {n | ∃ v, after.handle.IsFeasible v ∧ v largest = n} n
          ∧ IsLeast {n | ∃ v, before.handle.IsFeasible v
            ∧ largestWorkload (fun c d k => v (assign.number [c, d, k])) (indexesOf s) = n} n) := by
  obtain ⟨t, hloads, hkept, hindexes, hoverrides, hassemble⟩ := loads_of_run_withoutGoals hbefore
  -- loading fills in data and keeps indexes, template and overrides
  have hix : indexesOf t = indexesOf s := by
    unfold indexesOf Staffing.membersOf
    rw [hindexes]
  have hnone : (t.withOverrides "objective" []).overridesFor "objective" = [] := by
    simp [Specification.overridesFor, Specification.withOverrides, Named.find?_insert]
  have hmembers : (indexesOf (t.withOverrides "objective" [])).OfMembers := by
    rw [← hix] at hmembers
    exact hmembers
  -- the model before the goal is one that plans the specification, so all about it is known
  obtain ⟨p, m, hp, -, -, hplans⟩ := assemble_plans hmembers (hkept.trans htemplate)
    (by simp [hnone]) hassemble
  have hread : Indexes.ofSpecification t = .ok (indexesOf s) := by
    have hread := Staffing.indexes_of_ofSpecification hp
    rw [← (Staffing.Problem.reads_of_ofSpecification hp).indexes] at hread
    rw [← hix]
    exact hread
  have hrule : builtins.objective o.target = .ok Staffing.balanceWorkload := by
    rw [htarget]
    rfl
  -- the goal can be set: it finds the two families and the indexes that it asks for
  have hafter := assemble_withGoal (by rw [← hgoal]; unfold Specification.overridesFor; rw [hoverrides])
    hassemble hrule (Staffing.balanceWorkload_eq_ok hplans.families hread)
  have hsame : indexesOf (t.withOverrides "objective" []) = indexesOf s := hix
  rw [← hsame] at hafter ⊢
  refine ⟨_, p.assign, p.hire, _, _, (run_of_loads builtins hloads).trans hafter, hplans.families,
    rfl, Staffing.distinct_loadsOf _ _ hplans.distinct hplans.created, fun c hc => ?_, rfl,
    hplans.balanced_extends hmembers, ?_, hplans.balanced_least hmembers⟩
  · exact Staffing.isSome_find?_loadsOf _ hc (hmembers.candidates c hc)
  · exact fun v hv => ((Staffing.isFeasible_balanced_iff _ _ _ _ _).mp hv).2.2

/-! ### A desk with a balanced workload -/

/-- A desk that needs two workers, whose goal is a balanced workload. -/
def balancedDesk : Entries :=
  deskFor ["Ann", "Bob"] ++ Entries.ofFields [("overrides", .ofFields
    [("objective", .list [.ofFields [("function", .str "balance_workload")]])])]

/-- Reads the desk, builds it without its goal, and tries the model on the value one. -/
def checkBalancedDesk : Bool :=
  (Config.decode balancedDesk).toOption.any fun s =>
  (run builtins literalLoader literalWorld (s.withOverrides "objective" [])).1.toOption.any fun b =>
  s.template == "work_scheduling"
    && (s.overridesFor "objective").map Override.target == ["balance_workload"]
    && b.handle.vars.all (fun x => decide (x.lower ≤ 1 ∧ 1 ≤ x.upper))
    && b.handle.constraints.all (fun c => decide (c.Holds fun _ => 1))

/-- Ann and Bob at the desk: the goal has a least value, and it is the smallest largest workload. -/
theorem balanced_of_run_at_desk :
    ∃ s before after assign largest n, Config.decode balancedDesk = .ok s
      ∧ (run builtins literalLoader literalWorld (s.withOverrides "objective" [])).1 = .ok before
      ∧ (run builtins literalLoader literalWorld s).1 = .ok after
      ∧ after.handle.family "max_workload" = .ok [([], largest)]
      ∧ before.handle.family "assign" = .ok assign
      ∧ IsLeast {n | ∃ v, after.handle.IsFeasible v ∧ v largest = n} n
      ∧ IsLeast {n | ∃ v, before.handle.IsFeasible v
        ∧ largestWorkload (fun c d k => v (assign.number [c, d, k])) (indexesOf s) = n} n := by
  -- the stages are run once; the rest is read off what they gave
  have hcheck : checkBalancedDesk = true := by decide +kernel
  unfold checkBalancedDesk at hcheck
  simp only [Option.any_eq_true, Bool.and_eq_true, beq_iff_eq, List.all_eq_true,
    decide_eq_true_eq] at hcheck
  obtain ⟨s, hs, before, hbefore, ⟨⟨htemplate, htargets⟩, hvars⟩, hholds⟩ := hcheck
  have hdecoded := eq_ok_of_toOption hs
  have hrun := eq_ok_of_toOption hbefore
  obtain ⟨o, os, hgoal⟩ : ∃ o os, s.overridesFor "objective" = o :: os := by
    cases hgoals : s.overridesFor "objective" with
    | nil => simp [hgoals] at htargets
    | cons o os => exact ⟨o, os, rfl⟩
  have htarget : o.target = "balance_workload" := by
    rw [hgoal, List.map_cons] at htargets
    exact List.head_eq_of_cons_eq htargets
  obtain ⟨after, assign, hire, loads, largest, hafter, hfamilies, hfamilies', -, -, -, -, -, hleast⟩ :=
    balanced_of_run (ofMembers_of_wellFormed (Config.decode_wellFormed hdecoded)) htemplate hgoal
      htarget hrun
  -- everybody works: this satisfies the model, so there is a least value
  obtain ⟨n, hn, hn'⟩ := hleast ⟨_, Model.isFeasible_of_constant hvars hholds⟩
  refine ⟨s, before, after, assign, largest, n, hdecoded, hrun, hafter, ?_, ?_, hn, hn'⟩
  · rw [Model.family_eq_ok, hfamilies']
    rfl
  · rw [Model.family_eq_ok, hfamilies]
    rfl

end Build

end Rostering
