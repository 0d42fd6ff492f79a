import Rostering.Build
import Rostering.Proofs.Named
import Rostering.Proofs.Staffing.Problem

/-!
# The built model means the declared schedule

Building loads data, makes a model of the specification and applies the overrides one after the
other. This module follows the built-in capabilities through all of it and ends with what the
finished model says.

## The architecture

* **`Loader.materializeAll_of_isLoaded`** — a specification with all its data passes through loading
  unchanged.
* **`Build.applyOverride_eq_ok`** — all that applying an override can do.
* **`Build.assemble_congr`** — specifications that are the same to template and rules lead to the same
  model.
* **`Build.applyConstraint_adds`** — the step: a built-in constraint adds constraints that hold
  exactly when the schedule keeps to the override.
* **`Build.applyConstraints_adds`** — the run: by induction over the overrides, so do all of them
  together.
* **`Build.applyObjective_adds`** — a goal that brings no variables of its own changes no constraint.
* **`Build.holds_iff_isSchedule`** — the constraints of the finished model hold exactly when the
  schedule does what the specification declares.
-/

namespace Rostering

/-! ## Loaded specifications -/

/-- Every table and every mapping has its data. -/
def Specification.IsLoaded (s : Specification) : Prop :=
  ∀ e ∈ s.parameters.entries, Loader.isPending e.2 = false

namespace Loader

variable {σ : Type}

theorem materializeEntries_of_isLoaded (l : Loader σ) (w : World σ)
    {es : List (String × Parameter)} (hes : ∀ e ∈ es, isPending e.2 = false) :
    l.materializeEntries w es = (.ok es, l, w) := by
  induction es with
  | nil => rfl
  | cons e es ih =>
      have hfirst := hes e List.mem_cons_self
      have hrest := ih fun e' he' => hes e' (List.mem_cons_of_mem e he')
      rw [materializeEntries]
      simp only [hfirst, Bool.false_eq_true, if_false, hrest]
      rfl

/-- Nothing is loaded for a specification that has its data. -/
theorem materializeAll_of_isLoaded (l : Loader σ) (w : World σ) {s : Specification}
    (hs : s.IsLoaded) : l.materializeAll w s = (.ok s, l, w) := by
  unfold materializeAll
  rw [materializeEntries_of_isLoaded l w hs]
  simp only [Except.map, Named.ofList_entries]

end Loader

/-! ## Models that grow -/

namespace Model

theorem Adds.refl (m : Model) : m.Adds m [] := ⟨rfl, rfl, (List.append_nil _).symm⟩

theorem Adds.trans {m m' m'' : Model} {l l' : List Constraint} (h : m.Adds m' l)
    (h' : m'.Adds m'' l') : m.Adds m'' (l ++ l') :=
  ⟨h'.vars.trans h.vars, h'.families.trans h.families,
    by rw [h'.constraints, h.constraints, List.append_assoc]⟩

theorem Adds.family {m m' : Model} {l : List Constraint} (h : m.Adds m' l) (name : String) :
    m'.family name = m.family name := by
  unfold Model.family
  rw [h.families]

end Model

namespace Build

/-! ## Single steps -/

/-- Applying an override looks its target up and runs what was found on the handle. -/
theorem applyOverride_eq_ok {η : Type} {lookup : String → Except MissingCapability (Rule η)}
    {s : Specification} {b b' : Built η} {o : Override} (h : applyOverride lookup s b o = .ok b') :
    ∃ rule, lookup o.target = .ok rule ∧ rule b.handle s o.args = .ok b'.handle
      ∧ b'.applied = b.applied ++ [o.label] := by
  unfold applyOverride at h
  obtain ⟨rule, hrule, h⟩ := bind_eq_ok.mp h
  obtain ⟨handle, hhandle, h⟩ := bind_eq_ok.mp h
  rw [pure_eq_ok] at h
  rw [← h]
  exact ⟨rule, mapError_eq_ok.mp hrule, mapError_eq_ok.mp hhandle, rfl⟩

/-- Applying an override is the same for specifications that are the same to all rules. -/
theorem applyOverride_congr {η : Type} {lookup : String → Except MissingCapability (Rule η)}
    {s t : Specification} (h : ∀ {name rule}, lookup name = .ok rule →
      ∀ handle args, rule handle t args = rule handle s args) :
    applyOverride lookup t = applyOverride lookup s := by
  funext b o
  unfold applyOverride
  cases hrule : lookup o.target with
  | error m => rfl
  | ok rule =>
      show (rule b.handle t o.args).mapError _ >>= _ = _
      rw [h hrule]
      rfl

/-- So is assembling, if they are the same to the template as well. Nothing else of a specification
is looked at once the data are loaded. -/
theorem assemble_congr {η : Type} {r : Capabilities η} {s t : Specification}
    (hname : t.template = s.template) (hoverrides : t.overrides = s.overrides)
    (htemplate : ∀ {template}, r.template s.template = .ok template → template t = template s)
    (hconstraint : ∀ {name rule}, r.constraint name = .ok rule →
      ∀ handle args, rule handle t args = rule handle s args)
    (hobjective : ∀ {name rule}, r.objective name = .ok rule →
      ∀ handle args, rule handle t args = rule handle s args) : assemble r t = assemble r s := by
  -- only the phases of the overrides are looked at, so that they may belong to another
  -- specification
  have hphases : t.overridesFor = s.overridesFor := by
    funext phase
    unfold Specification.overridesFor
    rw [hoverrides]
  unfold assemble
  rw [applyOverride_congr hconstraint, applyOverride_congr hobjective, hname, hphases]
  cases hfound : r.template s.template with
  | error m => rfl
  -- the one template that was found is run on both
  | ok template =>
      show (template t).mapError _ >>= _ = _
      rw [htemplate hfound]
      rfl

theorem lookup_eq_ok {α : Type} {space : Space} {table : Named α} {name : String} {a : α}
    (h : Registry.lookup space table name = .ok a) : (name, a) ∈ table.entries := by
  unfold Registry.lookup at h
  split at h
  · next hfind =>
      cases h
      exact (table.mem_entries_iff name a).mpr hfind
  · exact absurd h throw_ne_ok

/-- A constraint that is found from the start is one of three. -/
theorem constraint_builtins {name : String} {rule : Rule Model}
    (h : builtins.constraint name = .ok rule) :
    (name = "time_window" ∧ rule = Staffing.timeWindow)
      ∨ (name = "max_consecutive_days" ∧ rule = Staffing.consecutiveDays)
      ∨ (name = "min_rest_days" ∧ rule = Staffing.restDays) := by
  have hentries : builtins.constraints.entries = [("time_window", Staffing.timeWindow),
      ("max_consecutive_days", Staffing.consecutiveDays),
      ("min_rest_days", Staffing.restDays)] := rfl
  have hmem := lookup_eq_ok h
  rw [hentries] at hmem
  simpa using hmem

/-- A goal that is found from the start is one of three. -/
theorem objective_builtins {name : String} {rule : Rule Model}
    (h : builtins.objective name = .ok rule) :
    (name = "minimize_cost" ∧ rule = Staffing.minimizeCost)
      ∨ (name = "maximize_coverage" ∧ rule = Staffing.maximizeCoverage)
      ∨ (name = "balance_workload" ∧ rule = Staffing.balanceWorkload) := by
  have hentries : builtins.objectives.entries = [("minimize_cost", Staffing.minimizeCost),
      ("maximize_coverage", Staffing.maximizeCoverage),
      ("balance_workload", Staffing.balanceWorkload)] := rfl
  have hmem := lookup_eq_ok h
  rw [hentries] at hmem
  simpa using hmem

/-- There is one template from the start. -/
theorem template_builtins {name : String} {template : Template Model}
    (h : builtins.template name = .ok template) :
    name = "work_scheduling" ∧ template = workScheduling := by
  have hentries : builtins.templates.entries = [("work_scheduling", workScheduling)] := rfl
  have hmem := lookup_eq_ok h
  rw [hentries] at hmem
  exact Prod.mk.inj (List.mem_singleton.mp hmem)

/-- So only specifications for this template can be assembled. -/
theorem template_of_assemble {s : Specification} {b : Built Model}
    (h : assemble builtins s = .ok b) : s.template = "work_scheduling" := by
  unfold assemble at h
  obtain ⟨template, hfound, -⟩ := bind_eq_ok.mp h
  exact (template_builtins (mapError_eq_ok.mp hfound)).1

theorem workScheduling_eq_ok {s : Specification} {m : Model} (h : workScheduling s = .ok m) :
    ∃ p, Staffing.Problem.ofSpecification s = .ok p ∧ p.model = .ok m := by
  unfold workScheduling at h
  exact bind_eq_ok.mp (mapError_eq_ok.mp h)

/-! ## Constraint overrides -/

section

variable {s : Specification} {assign : Family}

/-- One constraint override adds constraints that hold exactly when the schedule keeps to it. It is
the step of the run over all of them; the families stay, so the next override finds the same
variables. -/
theorem applyConstraint_adds {b b' : Built Model} {o : Override}
    (hassign : b.handle.family "assign" = .ok assign)
    (h : applyOverride builtins.constraint s b o = .ok b') :
    ∃ l, b.handle.Adds b'.handle l ∧ ∀ v, (∀ c ∈ l, c.Holds v) ↔
      Staffing.Keeps (Staffing.scheduleOf assign v) (Staffing.indexesOf s) o := by
  obtain ⟨rule, hrule, hhandle, -⟩ := applyOverride_eq_ok h
  -- one case for each rule that is built in; `Keeps` asks for the target first, so it is rewritten
  -- with it
  rcases constraint_builtins hrule with ⟨htarget, rfl⟩ | ⟨htarget, rfl⟩ | ⟨htarget, rfl⟩
  · -- a window of time is for the one candidate that the arguments name
    obtain ⟨candidate, hcandidate, hadds⟩ := Staffing.timeWindow_adds hassign hhandle
    refine ⟨_, hadds, fun v => ?_⟩
    rw [Staffing.holds_windowConstraints]
    unfold Staffing.Keeps
    rw [htarget]
    constructor
    · intro h candidate' hcandidate'
      rw [hcandidate] at hcandidate'
      cases hcandidate'
      exact h
    · exact fun h => h candidate hcandidate
  · refine ⟨_, Staffing.consecutiveDays_adds hassign hhandle, fun v => ?_⟩
    rw [Staffing.holds_consecutiveConstraints]
    unfold Staffing.Keeps
    rw [htarget]
    rfl
  · refine ⟨_, Staffing.restDays_adds hassign hhandle, fun v => ?_⟩
    rw [Staffing.holds_restConstraints]
    unfold Staffing.Keeps
    rw [htarget]
    rfl

/-- So do all constraint overrides together. Induction on the overrides that are left; what carries
it is that the family of assignments stays the same. -/
theorem applyConstraints_adds (os : List Override) :
    ∀ {b b' : Built Model}, b.handle.family "assign" = .ok assign →
      os.foldlM (applyOverride builtins.constraint s) b = .ok b' →
      ∃ l, b.handle.Adds b'.handle l ∧ ∀ v, (∀ c ∈ l, c.Holds v) ↔
        ∀ o ∈ os, Staffing.Keeps (Staffing.scheduleOf assign v) (Staffing.indexesOf s) o := by
  induction os with
  | nil =>
      intro b b' hassign h
      rw [List.foldlM_nil, pure_eq_ok] at h
      rw [← h]
      exact ⟨[], Model.Adds.refl _, fun v => by simp⟩
  | cons o os ih =>
      intro b b' hassign h
      rw [List.foldlM_cons] at h
      obtain ⟨mid, hmid, h⟩ := bind_eq_ok.mp h
      obtain ⟨l, hadds, hl⟩ := applyConstraint_adds hassign hmid
      -- the constraints that have been added leave the families alone, so the next rule finds the
      -- same one
      have hassign' : mid.handle.family "assign" = .ok assign := by
        rw [hadds.family, hassign]
      obtain ⟨l', hadds', hl'⟩ := ih hassign' h
      refine ⟨l ++ l', hadds.trans hadds', fun v => ?_⟩
      rw [List.forall_mem_append, hl, hl', List.forall_mem_cons]

end

/-! ## The goal -/

theorem pursue_adds (m : Model) (sense : Sense) (source : String)
    (terms : List (Nat × Coefficient)) : m.Adds (m.pursue sense source terms) [] :=
  ⟨rfl, rfl, (List.append_nil _).symm⟩

/-- The goal of cost sets what is pursued, or nothing if there are no costs; it adds no constraint.
-/
theorem minimizeCost_adds {m m' : Model} {s : Specification} {args : Arguments}
    (h : Staffing.minimizeCost m s args = .ok m') : m.Adds m' [] := by
  unfold Staffing.minimizeCost at h
  obtain ⟨factor, -, h⟩ := bind_eq_ok.mp h
  split at h
  · rw [pure_eq_ok] at h
    exact h ▸ Model.Adds.refl m
  · obtain ⟨cost, -, h⟩ := bind_eq_ok.mp h
    obtain ⟨hire, -, h⟩ := bind_eq_ok.mp h
    obtain ⟨candidates, -, h⟩ := bind_eq_ok.mp h
    obtain ⟨terms, -, h⟩ := bind_eq_ok.mp h
    rw [pure_eq_ok] at h
    exact h ▸ pursue_adds m _ _ _

/-- The goal of coverage sets what is pursued, or nothing if its weight is nothing; it adds no
constraint. -/
theorem maximizeCoverage_adds {m m' : Model} {s : Specification} {args : Arguments}
    (h : Staffing.maximizeCoverage m s args = .ok m') : m.Adds m' [] := by
  unfold Staffing.maximizeCoverage at h
  obtain ⟨weight, -, h⟩ := bind_eq_ok.mp h
  -- without a weight there is no goal, and the model stays as it is
  split at h
  · rw [pure_eq_ok] at h
    exact h ▸ Model.Adds.refl m
  · obtain ⟨assign, -, h⟩ := bind_eq_ok.mp h
    obtain ⟨coefficient, -, h⟩ := bind_eq_ok.mp h
    have h := Staffing.asFault_eq_ok.mp h
    -- the library may refuse the coefficients, but then there is no model
    unfold Model.maximize at h
    split at h
    · rw [pure_eq_ok] at h
      exact h ▸ pursue_adds m _ _ _
    · exact absurd h throw_ne_ok

/-- A goal that brings no variables of its own changes neither variables nor constraints. -/
theorem applyObjective_adds {s : Specification} {b b' : Built Model} {o : Override}
    (htarget : o.target ≠ "balance_workload")
    (h : applyOverride builtins.objective s b o = .ok b') : b.handle.Adds b'.handle [] := by
  obtain ⟨rule, hrule, hhandle, -⟩ := applyOverride_eq_ok h
  rcases objective_builtins hrule with ⟨-, rfl⟩ | ⟨-, rfl⟩ | ⟨hbalance, -⟩
  · exact minimizeCost_adds hhandle
  · exact maximizeCoverage_adds hhandle
  · exact absurd hbalance htarget

/-! ## The finished model -/

/-- Building with the built-in capabilities reads a problem, makes its model, adds what the
constraint overrides ask for and applies the first goal, if there is one. Between the two stages
stands the model that has all constraints, `mid`: a goal is applied to it, and if there are several
goals the first one only. -/
theorem assemble_eq_ok {s : Specification} {b : Built Model}
    (htemplate : s.template = "work_scheduling") (h : assemble builtins s = .ok b) :
    ∃ p m mid l, Staffing.Problem.ofSpecification s = .ok p ∧ p.model = .ok m
      ∧ m.Adds (Built.handle mid) l
      ∧ (∀ v, (∀ c ∈ l, c.Holds v) ↔ ∀ o ∈ s.overridesFor "constraints",
        Staffing.Keeps (Staffing.scheduleOf p.assign v) (Staffing.indexesOf s) o)
      ∧ (b = mid ∨ ∃ o ∈ (s.overridesFor "objective").head?,
        applyOverride builtins.objective s mid o = .ok b) := by
  unfold assemble at h
  obtain ⟨template, hfound, h⟩ := bind_eq_ok.mp h
  obtain ⟨m, hm, h⟩ := bind_eq_ok.mp h
  obtain ⟨mid, hmid, h⟩ := bind_eq_ok.mp h
  -- under the name of the specification only the built-in template can be found
  have hfound := mapError_eq_ok.mp hfound
  rw [htemplate] at hfound
  rw [(template_builtins hfound).2] at hm
  obtain ⟨p, hp, hmodel⟩ := workScheduling_eq_ok (mapError_eq_ok.mp hm)
  -- from here on every rule works on the family of assignments that the template has made
  have hassign := (Staffing.Problem.family_model hmodel).1
  obtain ⟨l, hadds, hl⟩ := applyConstraints_adds _ hassign hmid
  refine ⟨p, m, mid, l, hp, hmodel, hadds, hl, ?_⟩
  -- what is left is the goal, of which there may be none
  split at h
  · rw [pure_eq_ok] at h
    exact Or.inl h.symm
  · next o os hobjective => exact Or.inr ⟨o, by rw [hobjective]; rfl, h⟩

/-- With a goal that brings no variables of its own nothing else is added. -/
theorem assemble_adds {s : Specification} {b : Built Model}
    (htemplate : s.template = "work_scheduling")
    (hgoal : ∀ o ∈ (s.overridesFor "objective").head?, o.target ≠ "balance_workload")
    (h : assemble builtins s = .ok b) :
    ∃ p m l, Staffing.Problem.ofSpecification s = .ok p ∧ p.model = .ok m ∧ m.Adds b.handle l
      ∧ ∀ v, (∀ c ∈ l, c.Holds v) ↔ ∀ o ∈ s.overridesFor "constraints",
        Staffing.Keeps (Staffing.scheduleOf p.assign v) (Staffing.indexesOf s) o := by
  obtain ⟨p, m, mid, l, hp, hmodel, hadds, hl, hlast⟩ := assemble_eq_ok htemplate h
  refine ⟨p, m, l, hp, hmodel, ?_, hl⟩
  rcases hlast with rfl | ⟨o, ho, happly⟩
  · exact hadds
  · have hall := hadds.trans (applyObjective_adds (hgoal o ho) happly)
    rw [List.append_nil] at hall
    exact hall

/-- The constraints of a model that was built of a loaded specification hold exactly when the
schedule that the values stand for does what the specification declares. The values are those of two
families: every candidate, day and skill that is a text or a day has a variable in them, no variable
stands for two keys, and each is zero or one. No schedule is lost, and none is allowed that the
specification forbids: overrides can be repeated, and candidates be listed twice. A goal of balance
is set aside here because it brings variables of its own. -/
theorem holds_iff_isSchedule {σ : Type} {l : Loader σ} {w : World σ} {s : Specification}
    {b : Built Model} (hloaded : s.IsLoaded) (htemplate : s.template = "work_scheduling")
    (hgoal : ∀ o ∈ (s.overridesFor "objective").head?, o.target ≠ "balance_workload")
    (hbuild : (run builtins l w s).1 = .ok b) :
    ∃ assign hire, b.handle.family "assign" = .ok assign ∧ b.handle.family "hire" = .ok hire
      ∧ (assign.numbers ++ hire.numbers).Nodup
      ∧ (∀ n ∈ assign.numbers ++ hire.numbers, ∃ name, b.handle.vars[n]? = some ⟨name, 0, 1⟩)
      ∧ (∀ c ∈ (Staffing.indexesOf s).candidates, ∀ d ∈ (Staffing.indexesOf s).days,
        ∀ k ∈ (Staffing.indexesOf s).skills, c.IsMember ∧ d.IsMember ∧ k.IsMember →
          (assign.find? [c, d, k]).isSome ∧ (hire.find? [c]).isSome)
      ∧ ∀ v, (∀ c ∈ b.handle.constraints, c.Holds v) ↔
        Staffing.IsSchedule (fun c d k => v (assign.number [c, d, k])) s
          (fun c => v (hire.number [c])) := by
  -- nothing is pending, so building is assembling
  have hassemble : assemble builtins s = .ok b := by
    unfold run at hbuild
    rw [Loader.materializeAll_of_isLoaded l w hloaded] at hbuild
    exact hbuild
  obtain ⟨p, m, added, hp, hmodel, hadds, hadded⟩ := assemble_adds htemplate hgoal hassemble
  have hreads := Staffing.Problem.reads_of_ofSpecification hp
  obtain ⟨hassign, hhire⟩ := Staffing.Problem.family_model hmodel
  -- the families are those of the template: whatever is added later keeps variables and families
  refine ⟨p.assign, p.hire, ?_, ?_, p.nodup_numbers, ?_, ?_, ?_⟩
  · rw [hadds.family, hassign]
  · rw [hadds.family, hhire]
  · rw [hadds.vars]
    exact fun n hn => Staffing.Problem.vars_of_mem_numbers hmodel hn
  · rw [hreads.indexes]
    exact fun c hc d hd k hk hmember => ⟨Staffing.Problem.isSome_find?_assign hc hd hk hmember,
      Staffing.Problem.isSome_find?_hire hc hmember.1⟩
  · -- the constraints of the template say that demand is covered by those who may work, and the
    -- added ones say that the overrides are kept to
    intro v
    rw [hadds.constraints, List.forall_mem_append, Staffing.Problem.holds_model hreads hmodel,
      hadded]
    constructor
    · rintro ⟨hcovering, hkept⟩
      exact ⟨hcovering, hkept⟩
    · exact fun h => ⟨h.toIsCovering, h.kept⟩

/-- Two candidates, one of whom may cook, three days, a demand for one cook on the second of them,
and an override of each kind. The model has one constraint for the demand and twenty-four others. -/
theorem holds_iff_isSchedule_of_two_candidates :
    let days := Index.range (.date ⟨738945, by decide⟩) (.date ⟨738947, by decide⟩)
    let demand := Parameter.table ["day", "skill", "value"] (.literal .null)
      (some ⟨[.str "day", .str "skill", .str "value"],
        [[.str "2024-03-02", .str "cook", .int 1]]⟩)
    let skills := Parameter.table ["candidate", "skill"] (.literal .null)
      (some ⟨[.str "candidate", .str "skill"], [[.str "ann", .str "cook"]]⟩)
    let s : Specification := ⟨"work_scheduling",
      .ofList [("days", days), ("candidates", .listed [.str "ann", .str "bob"]),
        ("skills", .listed [.str "cook"])],
      .ofList [("demand", demand), ("candidate_skills", skills)], .empty,
      .ofList [("constraints",
          [⟨"", "time_window", .ofList [("candidate", .str "bob"), ("start_time", .int 8)]⟩,
            ⟨"", "max_consecutive_days", .ofList [("max_consecutive", .int 1)]⟩,
            ⟨"", "min_rest_days", .empty⟩]),
        ("objective", [⟨"", "minimize_cost", .empty⟩])]⟩
    let l : Loader Unit := ⟨.empty, .ofText "data", .null, false, .empty⟩
    let w : World Unit := .bare ()
    ∃ b, (run builtins l w s).1 = .ok b ∧ b.handle.size = (25, 8)
      ∧ ∃ assign hire, b.handle.family "assign" = .ok assign ∧ b.handle.family "hire" = .ok hire
        ∧ ∀ v, (∀ c ∈ b.handle.constraints, c.Holds v) ↔
          Staffing.IsSchedule (fun c d k => v (assign.number [c, d, k])) s
            (fun c => v (hire.number [c])) := by
  intro days demand skills s l w
  -- the model is computed once, for its size only; that there is one follows from it
  have hsize : (run builtins l w s).1.toOption.map (fun b => b.handle.size) = some (25, 8) := by
    subst w l s skills demand days
    decide +kernel
  obtain ⟨b, hb, hsize⟩ := Option.map_eq_some_iff.mp hsize
  have hbuild : (run builtins l w s).1 = .ok b := eq_ok_of_toOption hb
  have hloaded : s.IsLoaded := by
    show ∀ e ∈ s.parameters.entries, Loader.isPending e.2 = false
    subst s skills demand days
    decide +kernel
  have hgoal : ∀ o ∈ (s.overridesFor "objective").head?, o.target ≠ "balance_workload" := by
    intro o ho
    have hfirst : (s.overridesFor "objective").head?
        = some ⟨"", "minimize_cost", .empty⟩ := by subst s; rfl
    rw [hfirst] at ho
    cases ho
    decide
  obtain ⟨assign, hire, hassign, hhire, -, -, -, hmeans⟩ :=
    holds_iff_isSchedule hloaded (by subst s; rfl) hgoal hbuild
  exact ⟨b, hbuild, hsize, assign, hire, hassign, hhire, hmeans⟩

end Build

end Rostering
