import Rostering.Proofs.Pipeline
import Rostering.Proofs.Staffing.Workload

/-!
# The size of a model

How many constraints and variables a finished model has, told by its specification
(`Build.size_of_run`). Every member of an index counts as often as it is listed, because variables and
constraints are made for positions in the lists; a position needs a constraint of its own if it has a
demand, or if its skill is not granted.

## The architecture

* **`Staffing.demandedPositions`**, **`Staffing.ungrantedPositions`**, **`Staffing.constraintCount`** —
  the numbers that depend on the data and on the overrides.
* **`Staffing.length_windowConstraints`** and the lemmas beside it — one for each list of constraints.
* **`Staffing.Problem.size_model`** — the model of the problem, before any override.
* **`Build.Stage.Applies.constraint_size`**, **`Build.Stage.Applies.objective_size`** — the step: what
  one override adds.
* **`Build.Transforms.size`** — the run over all of them.
-/

namespace Rostering

namespace Staffing

/-! ## What a specification says about the size -/

open Classical in
/-- The positions of a member of each of three lists at which something holds. -/
noncomputable def positions (a b c : List Value) (P : Value → Value → Value → Prop) : Nat :=
  (a ×ˢ b ×ˢ c).countP fun e => P e.1 e.2.1 e.2.2

/-- The demand table has an entry for the scenario, day and skill. -/
def HasDemand (s : Specification) (scenario day skill : Value) : Prop :=
  ∃ σ k n, scenario = .str σ ∧ skill = .str k ∧ Demands s σ day k n

noncomputable def demandedPositions (s : Specification) : Nat :=
  positions (scenariosOf s) (indexesOf s).days (indexesOf s).skills (HasDemand s)

/-- The positions of a candidate, a day and a skill that the candidate is not granted. -/
noncomputable def ungrantedPositions (s : Specification) : Nat :=
  positions (indexesOf s).candidates (indexesOf s).days (indexesOf s).skills
    fun candidate _ skill => ¬GrantsSkill s candidate skill

/-- The days that are outside of the window of an override. -/
def daysOutside (ix : Indexes) (args : Arguments) : Nat :=
  ix.days.countP fun d => Int.ofNat (hourOf d) < wholeOr args "start_time" Settings.windowStart
    ∨ wholeOr args "end_time" Settings.windowEnd < Int.ofNat (hourOf d)

/-- The number of constraints that an override stands for. -/
def constraintCount (ix : Indexes) (o : Override) : Nat :=
  match o.target with
  | "time_window" => ix.skills.length * daysOutside ix o.args
  | "max_consecutive_days" =>
    let most := (wholeOr o.args "max_consecutive" Settings.consecutiveDays).toNat
    ix.candidates.length * (ix.days.length - most)
  | "min_rest_days" =>
    let rest := (wholeOr o.args "min_rest" Settings.restDays).toNat
    ix.candidates.length * rest * (ix.days.length - rest - 1)
  | _ => 0

/-- The goal that is applied is that of a balanced workload. -/
def balancesWorkload (s : Specification) : Bool :=
  (s.overridesFor "objective").head?.any fun o => o.target = "balance_workload"

/-! ## The lists of constraints -/

theorem length_flatMap_const {α β : Type} {l : List α} {f : α → List β} {n : Nat}
    (hf : ∀ a ∈ l, (f a).length = n) : (l.flatMap f).length = l.length * n := by
  rw [List.length_flatMap, List.map_congr_left hf, List.map_const', List.sum_replicate, smul_eq_mul]

/-- Positions are counted in the order of the lists, for a test that is passed where `P` holds. -/
theorem positions_eq {a b c : List Value} {P : Value → Value → Value → Prop}
    {p : Value → Value → Value → Bool} (hp : ∀ x y z, p x y z = true ↔ P x y z) :
    positions a b c P = (a.map fun x => (b.map fun y => c.countP (p x y)).sum).sum := by
  classical
  -- positions are the elements of a product, and a product is listed row by row
  have htest : positions a b c P = (a ×ˢ b ×ˢ c).countP fun e => p e.1 e.2.1 e.2.2 :=
    List.countP_congr fun e _ => by rw [decide_eq_true_eq, hp]
  have hpairs : ∀ x, (b ×ˢ c).countP (fun e => p x e.1 e.2)
      = (b.map fun y => c.countP (p x y)).sum := by
    intro x
    show (b.flatMap fun y => c.map (Prod.mk y)).countP _ = _
    rw [List.countP_flatMap]
    refine congrArg List.sum (List.map_congr_left fun y _ => ?_)
    rw [Function.comp_apply, List.countP_map]
    rfl
  rw [htest]
  show (a.flatMap fun x => (b ×ˢ c).map (Prod.mk x)).countP _ = _
  rw [List.countP_flatMap]
  refine congrArg List.sum (List.map_congr_left fun x _ => ?_)
  rw [Function.comp_apply, List.countP_map, ← hpairs]
  rfl

section

variable (assign : Family) (ix : Indexes)

theorem length_windowConstraints (candidate : Value) (args : Arguments) :
    (windowConstraints assign ix candidate (wholeOr args "start_time" Settings.windowStart)
      (wholeOr args "end_time" Settings.windowEnd)).length
      = ix.skills.length * daysOutside ix args := by
  unfold windowConstraints daysOutside
  rw [length_flatMap_const fun d _ => List.length_map _, ← List.countP_eq_length_filter,
    Nat.mul_comm]
  refine congrArg _ (List.countP_congr fun d _ => ?_)
  rw [isWithin_eq_false, decide_eq_true_eq]

theorem length_consecutiveConstraints (most : Nat) :
    (consecutiveConstraints assign ix most).length
      = ix.candidates.length * (ix.days.length - most) := by
  unfold consecutiveConstraints
  exact length_flatMap_const fun c _ => by rw [List.length_map, List.length_range]

theorem length_restConstraints (rest : Nat) :
    (restConstraints assign ix rest).length
      = ix.candidates.length * rest * (ix.days.length - rest - 1) := by
  unfold restConstraints
  rw [length_flatMap_const fun c _ => length_flatMap_const fun i _ => List.length_map _]
  simp only [List.length_range]
  rw [Nat.mul_comm _ rest, Nat.mul_assoc]

theorem length_loadConstraints (loads : Family) (largest : Nat) :
    (loadConstraints assign loads largest ix).length = 2 * ix.candidates.length := by
  unfold loadConstraints
  rw [Nat.mul_comm]
  exact length_flatMap_const fun c _ => rfl

end

namespace Problem

variable {p : Problem} {s : Specification}

theorem length_assignKeys (p : Problem) :
    p.assignKeys.length = p.candidates.length * p.days.length * p.skills.length := by
  unfold assignKeys
  rw [length_flatMap_const fun c _ => length_flatMap_const fun d _ => List.length_map _,
    Nat.mul_assoc]

/-- There is one constraint of coverage for each position that has a demand. -/
theorem length_coverage (hp : p.Reads s) : p.coverage.length = demandedPositions s := by
  -- a number that is required is one of the table
  have hrequired : ∀ scenario d k, (p.required? scenario d k).isSome = true
      ↔ HasDemand s scenario d k := by
    intro scenario d k
    simp only [Option.isSome_iff_exists, required?_iff hp]
    exact ⟨fun ⟨n, σ, sk, hσ, hk, hn⟩ => ⟨σ, sk, n, hσ, hk, hn⟩,
      fun ⟨σ, sk, n, hσ, hk, hn⟩ => ⟨n, σ, sk, hσ, hk, hn⟩⟩
  unfold demandedPositions
  rw [positions_eq hrequired, hp.scenarios, hp.indexes]
  unfold coverage slots
  simp only [List.length_filterMap_eq_countP, List.countP_flatMap, List.countP_map,
    Function.comp_def, Option.isSome_map]

theorem length_eligibility (hp : p.Reads s) : p.eligibility.length = ungrantedPositions s := by
  have hgranted : ∀ c (_ : Value) k, (!p.isGranted c k) = true ↔ ¬GrantsSkill s c k := by
    intro c _ k
    rw [← isGranted_iff hp, Bool.not_eq_true', Bool.not_eq_true]
  unfold ungrantedPositions
  rw [@positions_eq _ _ _ _ (fun c _ k => !p.isGranted c k) hgranted, hp.indexes]
  unfold eligibility
  simp only [List.length_flatMap, List.length_map, ← List.countP_eq_length_filter]

/-- The model of a problem, counted. -/
theorem size_model {m : Model} (hp : p.Reads s) (hm : p.model = .ok m) :
    let candidates := (indexesOf s).candidates.length
    let days := (indexesOf s).days.length
    let skills := (indexesOf s).skills.length
    m.size = (demandedPositions s + ungrantedPositions s + candidates * days * skills
      + candidates * days, candidates * days * skills + candidates) := by
  obtain ⟨hvars, -, hconstraints⟩ := model_eq_ok hm
  have hlimits : p.dailyLimits.length = p.candidates.length * p.days.length :=
    length_flatMap_const fun c _ => List.length_map _
  intro candidates days skills
  unfold Model.size
  rw [hvars, hconstraints]
  simp only [List.length_append, List.length_map, length_coverage hp, length_eligibility hp,
    hlimits, hiring, hireKeys, length_assignKeys, candidates, days, skills, hp.indexes]

end Problem

end Staffing

/-! ## What the stages add -/

namespace Build

open Staffing (Indexes Problem indexesOf constraintCount balancesWorkload demandedPositions
  ungrantedPositions)

variable {s : Specification} {assign hire : Family}

/-- A constraint adds what it stands for, and leaves the families as they are. The numbers are those
of the three lists of constraints, and none of them needs variables. -/
theorem Stage.Applies.constraint_size {h h' : Model} {o : Override}
    (happlies : (Stage.constraint o).Applies builtins s h h')
    (hfamilies : h.families = .ofList [("assign", assign), ("hire", hire)]) :
    h'.families = h.families
      ∧ h'.size = (h.size.1 + constraintCount (indexesOf s) o, h.size.2) := by
  have hassign : h.family "assign" = .ok assign := by
    unfold Model.family
    rw [hfamilies]
    rfl
  have hsize : ∀ l, h.Adds h' l → l.length = constraintCount (indexesOf s) o →
      h'.families = h.families
        ∧ h'.size = (h.size.1 + constraintCount (indexesOf s) o, h.size.2) := by
    intro l hadds hl
    refine ⟨hadds.families, ?_⟩
    unfold Model.size
    rw [hadds.vars, hadds.constraints, List.length_append, hl]
  obtain ⟨rule, hrule, hstep⟩ := happlies
  unfold constraintCount at hsize ⊢
  -- one case for each rule
  rcases constraint_builtins hrule with ⟨htarget, rfl⟩ | ⟨htarget, rfl⟩ | ⟨htarget, rfl⟩
  · have htarget : o.target = "time_window" := htarget
    obtain ⟨candidate, -, hadds⟩ := Staffing.timeWindow_adds hassign hstep
    rw [htarget] at hsize ⊢
    exact hsize _ hadds (Staffing.length_windowConstraints _ _ _ _)
  · have htarget : o.target = "max_consecutive_days" := htarget
    rw [htarget] at hsize ⊢
    exact hsize _ (Staffing.consecutiveDays_adds hassign hstep)
      (Staffing.length_consecutiveConstraints _ _ _)
  · have htarget : o.target = "min_rest_days" := htarget
    rw [htarget] at hsize ⊢
    exact hsize _ (Staffing.restDays_adds hassign hstep) (Staffing.length_restConstraints _ _ _)

/-- A goal adds nothing, unless it is that of a balanced workload. -/
theorem Stage.Applies.objective_size {h h' : Model} {o : Override}
    (happlies : (Stage.objective o).Applies builtins s h h')
    (hfamilies : h.families = .ofList [("assign", assign), ("hire", hire)])
    (hix : Indexes.ofSpecification s = .ok (indexesOf s)) :
    h'.size = if o.target = "balance_workload"
      then (h.size.1 + 2 * (indexesOf s).candidates.length,
        h.size.2 + ((indexesOf s).candidates.length + 1))
      else h.size := by
  -- the first two goals only say what is to be optimized
  have hsame : h.Adds h' [] → h'.size = h.size := by
    intro hadds
    unfold Model.size
    rw [hadds.vars, hadds.constraints, List.append_nil]
  obtain ⟨rule, hrule, hstep⟩ := happlies
  rcases objective_builtins hrule with ⟨htarget, rfl⟩ | ⟨htarget, rfl⟩ | ⟨htarget, rfl⟩
  · have htarget : o.target = "minimize_cost" := htarget
    rw [htarget, if_neg (by decide)]
    exact hsame (minimizeCost_adds hstep)
  · have htarget : o.target = "maximize_coverage" := htarget
    rw [htarget, if_neg (by decide)]
    exact hsame (maximizeCoverage_adds hstep)
  · have htarget : o.target = "balance_workload" := htarget
    rw [if_pos htarget]
    rw [Staffing.balanceWorkload_eq_ok hfamilies hix] at hstep
    rw [← Except.ok.inj hstep]
    show ((h.constraints ++ Staffing.loadConstraints _ _ _ _).length,
      (h.vars ++ List.map _ _ ++ [_]).length) = _
    simp only [List.length_append, List.length_map, List.length_singleton,
      Staffing.length_loadConstraints]
    rfl

/-- A run over constraints, and then over one goal at most. Induction on the constraints that are left;
what carries it is that they leave the families as they are. -/
theorem Transforms.size {goals : List Override} (hone : goals.length ≤ 1)
    (hix : Indexes.ofSpecification s = .ok (indexesOf s)) {os : List Override} {h h' : Model}
    (hfamilies : h.families = .ofList [("assign", assign), ("hire", hire)])
    (hrun : Transforms builtins s h (os.map .constraint ++ goals.map .objective) h') :
    let balances := goals.any fun o => o.target = "balance_workload"
    let candidates := (indexesOf s).candidates.length
    h'.size = (h.size.1 + (os.map (constraintCount (indexesOf s))).sum
        + (if balances then 2 * candidates else 0),
      h.size.2 + if balances then candidates + 1 else 0) := by
  induction os generalizing h with
  | nil =>
      -- the constraints are done, and there is one goal or none
      match goals, hone with
      | [], _ =>
          cases hrun
          rfl
      | [o], _ =>
          cases hrun with
          | cons hgoal hdone =>
              cases hdone
              rw [hgoal.objective_size hfamilies hix]
              by_cases htarget : o.target = "balance_workload" <;> simp [htarget]
  | cons o os ih =>
      cases hrun with
      | cons hfirst hrest =>
          obtain ⟨hsame, hsize⟩ := hfirst.constraint_size hfamilies
          rw [ih (hsame.trans hfamilies) hrest, hsize, List.map_cons, List.sum_cons]
          simp only [Nat.add_assoc]

/-! ## The size of a finished model -/

/-- The size of a model that was built of a loaded specification, with any overrides: its constraints
and its variables. Members of indexes count as often as they are listed. -/
theorem size_of_run {σ : Type} {l : Loader σ} {w : World σ} {s : Specification} {b : Built Model}
    (hloaded : s.IsLoaded) (hbuild : (run builtins l w s).1 = .ok b) :
    let candidates := (indexesOf s).candidates.length
    let days := (indexesOf s).days.length
    let skills := (indexesOf s).skills.length
    b.handle.size =
      (demandedPositions s + ungrantedPositions s + candidates * days * skills + candidates * days
          + ((s.overridesFor "constraints").map (constraintCount (indexesOf s))).sum
          + (if balancesWorkload s then 2 * candidates else 0),
        candidates * days * skills + candidates
          + if balancesWorkload s then candidates + 1 else 0) := by
  intro candidates days skills
  have hassemble : assemble builtins s = .ok b := by
    unfold run at hbuild
    rw [Loader.materializeAll_of_isLoaded l w hloaded] at hbuild
    exact hbuild
  obtain ⟨m, ⟨template, hfound, hmade⟩, hrun, -⟩ := assemble_succeeds_iff.mp hassemble
  rw [(template_builtins hfound).2] at hmade
  obtain ⟨p, hp, hmodel⟩ := workScheduling_eq_ok hmade
  have hreads := Problem.reads_of_ofSpecification hp
  have hix : Indexes.ofSpecification s = .ok (indexesOf s) := by
    rw [hreads.indexes]
    exact Staffing.indexes_of_ofSpecification hp
  -- only the first goal is applied
  have hgoals : ((s.overridesFor "objective").take 1).any (fun o => o.target = "balance_workload")
      = balancesWorkload s := by
    unfold balancesWorkload
    cases s.overridesFor "objective" <;> simp
  -- the model of the problem, the constraints and the goal, one after the other
  have hsize := hrun.size (List.length_take_le 1 _) hix (Problem.model_eq_ok hmodel).2.1
  rw [hgoals, Problem.size_model hreads hmodel] at hsize
  exact hsize

/-- Three days and two works for Ann, who is listed twice, and Bob, with every constraint once and the
goal of a balanced workload. Thirteen positions have a demand or lack a skill. -/
theorem size_of_run_of_repeated_candidate :
    let days := Index.range (.date ⟨738945, by decide⟩) (.date ⟨738947, by decide⟩)
    let demand := Parameter.table ["day", "skill", "value"] (.literal .null)
      (some ⟨[.str "day", .str "skill", .str "value"],
        [[.str "2024-03-01", .str "cook", .int 2]]⟩)
    let skills := Parameter.table ["candidate", "skill"] (.literal .null)
      (some ⟨[.str "candidate", .str "skill"], [[.str "ann", .str "cook"]]⟩)
    let s : Specification := ⟨"work_scheduling",
      .ofList [("days", days), ("candidates", .listed [.str "ann", .str "bob", .str "ann"]),
        ("skills", .listed [.str "cook", .str "wait"])],
      .ofList [("demand", demand), ("candidate_skills", skills)], .empty,
      .ofList [("constraints",
          [⟨"", "time_window", .ofList [("candidate", .str "bob"), ("start_time", .int 8)]⟩,
            ⟨"", "max_consecutive_days", .ofList [("max_consecutive", .int 1)]⟩,
            ⟨"", "min_rest_days", .empty⟩]),
        ("objective", [⟨"", "balance_workload", .empty⟩])]⟩
    let l : Loader Unit := ⟨.empty, .ofText "data", .null, false, .empty⟩
    let w : World Unit := .bare ()
    s.IsLoaded ∧ ∃ b, (run builtins l w s).1 = .ok b ∧ b.handle.size = (61, 25)
      ∧ demandedPositions s + ungrantedPositions s = 13 := by
  intro days demand skills s l w
  have hsize : (run builtins l w s).1.toOption.map (fun b => b.handle.size) = some (61, 25) := by
    subst w l s skills demand days
    decide +kernel
  obtain ⟨b, hb, hsize⟩ := Option.map_eq_some_iff.mp hsize
  have hbuild : (run builtins l w s).1 = .ok b := eq_ok_of_toOption hb
  have hloaded : s.IsLoaded := by
    show ∀ e ∈ s.parameters.entries, Loader.isPending e.2 = false
    subst s skills demand days
    decide +kernel
  refine ⟨hloaded, b, hbuild, hsize, ?_⟩
  have hcounts : ((s.overridesFor "constraints").map (constraintCount (indexesOf s))).sum = 15 := by
    subst s skills demand days
    decide +kernel
  have hbalances : balancesWorkload s = true := by
    subst s
    rfl
  have hlengths : (indexesOf s).candidates.length = 3 ∧ (indexesOf s).days.length = 3
      ∧ (indexesOf s).skills.length = 2 := by
    subst s days
    decide +kernel
  have hlaw := congrArg Prod.fst (hsize.symm.trans (size_of_run hloaded hbuild))
  rw [hcounts, hbalances, if_pos rfl, hlengths.1, hlengths.2.1, hlengths.2.2] at hlaw
  -- eighteen assignments, nine daily limits, fifteen by overrides and six for the loads
  have hlaw : 61 = demandedPositions s + ungrantedPositions s + 3 * 3 * 2 + 3 * 3 + 15 + 2 * 3 := hlaw
  omega

end Build

end Rostering
