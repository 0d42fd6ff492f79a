import Rostering.Proofs.Coverage
import Rostering.Proofs.Staffing.Padding

/-!
# Rows that make no difference leave the model as it is

A specification whose tables hold more rows than another one, all of them of no use, leads to the very
same model: the same variables, the same constraints in the same order, the same goal. Of no use is
demand for days that are not planned, wherever it stands and whatever its number is; demand behind all
others for what has a number already or for scenarios and skills that are not planned; skills of or for
nobody in the indexes, skills that are granted already or that a flag denies; and the cost of whoever
is no candidate.

What a row of demand is about is what it says in its table (`Staffing.PadsDemand`). This depends on all
cells of the column if they are moments: one that is not at midnight makes all of them show their
times, so that a scenario that was called by its date is not found any more
(`Build.demand_lost_to_moment`). Where they are not all moments, the cells of the row say it
(`Staffing.padsDemand_of_isMixed`).

## The architecture

* **`Specification.Pads`** — nothing but the rows of the three tables differs, and only by such rows.
* **`Staffing.Problem.Alike`** — two problems that need the same workers for the same slots, with the
  same skills and the same goal, have one model (`Staffing.Problem.Alike.model_eq`).
* **`Staffing.ofSpecification_pads`** — such are the problems of two such specifications, by one lemma
  for each table.
* **`Staffing.minimizeCost_pads`** — the only override that looks at data does not see a difference.
* **`Build.run_pads`** — so all of building gives the same.
-/

namespace Rostering

namespace Staffing

/-! ## Specifications with more rows -/

section

variable (s s' : Specification)

/-- The demand is the same, or there are rows for other days among it, and rows behind it that bring
no number for any slot. A day, a skill and a scenario in any row have to have texts, since these are
taken of whole columns. -/
def PadsDemand : Prop :=
  s'.loadedData "demand" = s.loadedData "demand"
    ∨ ∃ t t' : Table, s.loadedData "demand" = .ok t.toValue
      ∧ s'.loadedData "demand" = .ok t'.toValue ∧ IsDemandTable t ∧ IsDemandTable t'
      ∧ IsLegible t' ∧ ∃ mid behind, Pads (fun w => ¬ w.IsMatched (indexesOf s).days) (writtenRows t) mid
        ∧ writtenRows t' = mid ++ behind
        ∧ ∀ w ∈ behind, w.IsMatched (indexesOf s).days →
          w.IsSpare (indexesOf s).days (scenariosOf s) (indexesOf s).skills
            fun scenario day skill => ∃ n, Demands s scenario day skill n

/-- There are rows among the skills that grant nothing: by their flag, or because candidate or skill are
not listed, or because the pair is granted already. -/
def PadsSkills : Prop :=
  ∃ columns rows rows', s.loadedData "candidate_skills" = .ok (.table columns rows)
    ∧ s'.loadedData "candidate_skills" = .ok (.table columns rows')
    ∧ Pads (fun row => ∃ found, granted? ⟨columns, rows⟩ row = .ok found
      ∧ ∀ c k, found = some (c, k) → .str c ∈ (indexesOf s).candidates →
        .str k ∈ (indexesOf s).skills → GrantsSkill s (.str c) (.str k)) rows rows'

/-- The costs are the same, or there are costs of others than the candidates among them. -/
def PadsCost : Prop :=
  s'.loadedData "cost_month" = s.loadedData "cost_month"
    ∨ ∃ es es', s.loadedData "cost_month" = .ok (.map es)
      ∧ s'.loadedData "cost_month" = .ok (.map es')
      ∧ Pads (fun e => ∀ c ∈ (indexesOf s).candidates, c.same e.1 = false) es es'

end

end Staffing

/-- Nothing but the data differs, and these only by rows that make no difference. -/
structure Specification.Pads (s s' : Specification) : Prop where
  declared : s' = { s with parameters := s'.parameters }
  demand : Staffing.PadsDemand s s'
  skills : Staffing.PadsSkills s s'
  cost : Staffing.PadsCost s s'

namespace Staffing

/-- In columns for scenarios and skills that hold anything but moments, rows of cells can be put in
anywhere. -/
theorem padsDemand_of_isMixed {s s' : Specification} {columns : List Value}
    {rows mid behind : List (List Value)}
    (hdemand : s.loadedData "demand" = .ok (.table columns rows))
    (hdemand' : s'.loadedData "demand" = .ok (.table columns (mid ++ behind)))
    (ht : IsDemandTable ⟨columns, rows⟩)
    (hlength : ∀ row ∈ mid ++ behind, row.length = columns.length)
    (hlegible : IsLegible ⟨columns, mid ++ behind⟩)
    (hmixed : ∀ name ∈ ["skill", "scenario"], IsMixed ⟨columns, rows⟩ name
      ∧ IsMixed ⟨columns, mid ++ behind⟩ name)
    (hmid : Pads (fun row => ¬ (ownRow columns row).IsMatched (indexesOf s).days) rows mid)
    (hbehind : ∀ row ∈ behind, (ownRow columns row).IsMatched (indexesOf s).days →
      (ownRow columns row).IsSpare (indexesOf s).days (scenariosOf s) (indexesOf s).skills
        fun scenario day skill => ∃ n, Demands s scenario day skill n) : PadsDemand s s' := by
  have ht' : IsDemandTable ⟨columns, mid ++ behind⟩ := { ht with rows := hlength }
  have hskill := hmixed "skill" (by simp)
  have hscenario := hmixed "scenario" (by simp)
  refine Or.inr ⟨⟨columns, rows⟩, ⟨columns, mid ++ behind⟩, hdemand, hdemand', ht, ht', hlegible,
    mid.map (ownRow columns), behind.map (ownRow columns), ?_, ?_,
    List.forall_mem_map.mpr hbehind⟩
  -- a column with anything else than moments shows each cell by itself, before and after
  · rw [writtenRows_eq_map ht hskill.1 fun _ => hscenario.1]
    exact hmid.map fun _ hrow => hrow
  · rw [writtenRows_eq_map ht' hskill.2 fun _ => hscenario.2, List.map_append]

/-! ## Problems that are alike -/

namespace Problem

/-- The second problem needs the same workers for the same slots, with the same skills and the same
goal. -/
structure Alike (p p' : Problem) : Prop where
  days : p'.days = p.days
  candidates : p'.candidates = p.candidates
  skills : p'.skills = p.skills
  scenarios : p'.scenarios = p.scenarios
  required : ∀ s ∈ p.scenarios, ∀ d, ∀ k ∈ p.skills, p'.required? s d k = p.required? s d k
  granted : ∀ c ∈ p.candidates, ∀ k ∈ p.skills, p'.isGranted c k = p.isGranted c k
  goal : p'.goal = p.goal
  dailyLimit : p'.dailyLimit = p.dailyLimit

namespace Alike

variable {p p' : Problem} (h : p.Alike p')
include h

theorem slots_eq : p'.slots = p.slots := by
  unfold slots
  rw [h.scenarios, h.days, h.skills]

/-- The slots need the same workers. -/
theorem required_slot {s d k : Value} (hslot : (s, d, k) ∈ p.slots) :
    p'.required? s d k = p.required? s d k := by
  unfold slots at hslot
  obtain ⟨_, hs, hslot⟩ := List.mem_flatMap.mp hslot
  obtain ⟨_, -, hslot⟩ := List.mem_flatMap.mp hslot
  obtain ⟨_, hk, hslot⟩ := List.mem_map.mp hslot
  cases hslot
  exact h.required s hs d k hk

theorem counts_eq : p'.counts = p.counts := by
  unfold counts
  rw [h.slots_eq]
  exact List.filterMap_congr fun (s, d, k) hslot => h.required_slot hslot

theorem assignKeys_eq : p'.assignKeys = p.assignKeys := by
  unfold assignKeys
  rw [h.candidates, h.days, h.skills]

theorem hireKeys_eq : p'.hireKeys = p.hireKeys := by
  unfold hireKeys
  rw [h.candidates]

theorem assign_eq : p'.assign = p.assign := by
  unfold assign
  rw [h.assignKeys_eq]

theorem hire_eq : p'.hire = p.hire := by
  unfold hire
  rw [h.assignKeys_eq, h.hireKeys_eq]

theorem coverage_eq : p'.coverage = p.coverage := by
  unfold coverage
  rw [h.slots_eq, h.candidates, h.assign_eq]
  exact List.filterMap_congr fun (s, d, k) hslot => congrArg (Option.map _) (h.required_slot hslot)

theorem eligibility_eq : p'.eligibility = p.eligibility := by
  unfold eligibility
  rw [h.candidates, h.days, h.skills, h.assign_eq]
  refine List.flatMap_congr fun c hc => List.flatMap_congr fun d _ => ?_
  rw [List.filter_congr fun k hk => by rw [h.granted c hc k hk]]

/-- Problems that are alike have one model. -/
theorem model_eq : p'.model = p.model := by
  have hhiring : p'.hiring = p.hiring := by
    unfold hiring
    rw [h.assignKeys_eq, h.assign_eq, h.hire_eq]
  have hlimits : p'.dailyLimits = p.dailyLimits := by
    unfold dailyLimits
    rw [h.candidates, h.days, h.skills, h.assign_eq, h.dailyLimit]
  unfold model
  rw [h.goal, h.assignKeys_eq, h.hireKeys_eq, h.assign_eq, h.hire_eq, h.coverage_eq,
    h.eligibility_eq, hhiring, hlimits, h.days, h.candidates, h.skills, h.scenarios]

end Alike

end Problem

/-! ## Reading the specifications -/

section

variable {s s' : Specification} {p : Problem}

/-- The padded demand has the same number for all slots. -/
theorem demand_pads (hdays : ∀ d ∈ (indexesOf s).days, d.IsMember) (hp : p.IsReadFrom s)
    (h : PadsDemand s s') : ∃ table es', s'.loadedData "demand" = .ok table
      ∧ demandFrom table p.days (p.scenarios.map Value.shown) = .ok es'
      ∧ ∀ scenario day skill, .str scenario ∈ p.scenarios → .str skill ∈ p.skills →
        countFor? es' scenario day skill = countFor? p.demand scenario day skill := by
  have hreads := Problem.reads_of_ofSpecification (Problem.ofSpecification_eq_ok_iff.mpr hp)
  obtain ⟨table, htable, hdemand⟩ := hp.demand
  rcases h with hsame | ⟨t, t', ht, ht', hdemanded, hdemanded', hlegible, mid, behind, hmid, hrows, hbehind⟩
  · exact ⟨table, p.demand, hsame.trans htable, hdemand, fun _ _ _ _ _ => rfl⟩
  · rw [ht] at htable
    cases htable
    rw [hreads.indexes, hreads.scenarios] at hbehind
    rw [hreads.indexes] at hdays hmid
    -- what the specification demands is among the entries that were read
    have hsettled : ∀ scenario day skill, (∃ n, Demands s scenario day skill n) →
        (countFor? p.demand scenario day skill).isSome = true := by
      rintro scenario day skill ⟨n, hn⟩
      exact Option.isSome_iff_exists.mpr ⟨n, (Problem.required?_iff hreads (.str scenario) day
        (.str skill) n).mpr ⟨scenario, skill, rfl, rfl, hn⟩⟩
    obtain ⟨es', hes', hcounts⟩ := demandOf_pads hdays hdemanded hdemanded' hlegible hmid hrows hdemand
      fun w hw hmatched => (hbehind w hw hmatched).mono hsettled
    exact ⟨t'.toValue, es', ht', hes', hcounts⟩

/-- The padded table of skills grants candidates the same skills. -/
theorem skills_pads (hp : p.IsReadFrom s) (h : PadsSkills s s') :
    ∃ table granted', s'.loadedData "candidate_skills" = .ok table
      ∧ skillsFrom table = .ok granted'
      ∧ ∀ c k, .str c ∈ p.candidates → .str k ∈ p.skills →
        ((c, k) ∈ granted' ↔ (c, k) ∈ p.granted) := by
  have hreads := Problem.reads_of_ofSpecification (Problem.ofSpecification_eq_ok_iff.mpr hp)
  obtain ⟨columns, rows, rows', hrows, hrows', hpads⟩ := h
  obtain ⟨table, htable, hgranted⟩ := hp.granted
  rw [hrows] at htable
  cases htable
  rw [hreads.indexes] at hpads
  -- whatever else is granted is nobody's, or is granted already
  obtain ⟨granted', hgranted', hmem⟩ := grantedSkills_pads (P := fun pair =>
    .str pair.1 ∈ p.candidates → .str pair.2 ∈ p.skills → GrantsSkill s (.str pair.1) (.str pair.2))
    (hpads.mono fun row ⟨found, hfound, hpair⟩ =>
      ⟨found, hfound, fun pair hpair' => hpair pair.1 pair.2 hpair'⟩) hgranted
  refine ⟨_, granted', hrows', hgranted', fun c k hc hk => ⟨fun hnew => ?_, (hmem (c, k)).2⟩⟩
  rcases (hmem (c, k)).1 hnew with hold | hkind
  · exact hold
  · exact List.contains_iff_mem.mp ((Problem.isGranted_iff hreads _ _).mpr (hkind hc hk))

/-- A parameter is missing exactly if reading its data says so. -/
theorem contains_iff_loadedData {name : String} : s.parameters.contains name = true ↔
    s.loadedData name ≠ .error (.noParameter name) := by
  unfold Specification.loadedData Named.contains
  cases s.parameters.find? name with
  | none => simp [throw, throwThe, MonadExceptOf.throw]
  | some p =>
      dsimp only
      cases p.data? with
      | none => simp [throw, throwThe, MonadExceptOf.throw]
      | some v => simp [pure, Except.pure]

theorem PadsCost.contains_eq (h : PadsCost s s') :
    s'.parameters.contains "cost_month" = s.parameters.contains "cost_month" := by
  rcases h with hsame | ⟨es, es', hes, hes', -⟩
  · rw [Bool.eq_iff_iff, contains_iff_loadedData, contains_iff_loadedData, hsame]
  · rw [contains_of_loadedData hes, contains_of_loadedData hes']

/-- The padded costs are the same for all candidates. -/
theorem cost_pads (hp : p.IsReadFrom s) (h : PadsCost s s') :
    ∃ cost', declaredCost s' = .ok cost' ∧ (cost' = p.cost ∨ ∃ es es', p.cost = some (.map es)
      ∧ cost' = some (.map es') ∧ ∀ c ∈ p.candidates, costOf (.map es') c = costOf (.map es) c) := by
  have hreads := Problem.reads_of_ofSpecification (Problem.ofSpecification_eq_ok_iff.mpr hp)
  have hcontains := h.contains_eq
  -- either the costs are the same data, or entries were put in for others than candidates
  rcases h with hsame | ⟨es, es', hes, hes', hpads⟩
  · refine ⟨p.cost, ?_, Or.inl rfl⟩
    rw [← hp.cost]
    unfold declaredCost
    rw [hcontains, hsame]
  · rw [hreads.indexes] at hpads
    have hcost := hp.cost
    rw [declaredCost_of_loadedData hes] at hcost
    exact ⟨_, declaredCost_of_loadedData hes', Or.inr ⟨es, es', (Except.ok.inj hcost).symm, rfl,
      costOf_pads hpads⟩⟩

/-- A specification with rows that make no difference declares a problem that is alike. The three
tables are padded independently of each other, and each has its own lemma. -/
theorem ofSpecification_pads (hdays : ∀ d ∈ (indexesOf s).days, d.IsMember)
    (hp : Problem.ofSpecification s = .ok p) (h : s.Pads s') :
    ∃ p', Problem.ofSpecification s' = .ok p' ∧ p.Alike p' := by
  have hread := Problem.ofSpecification_eq_ok_iff.mp hp
  obtain ⟨table, es', htable, hes', hcounts⟩ := demand_pads hdays hread h.demand
  obtain ⟨skillTable, granted', hskillTable, hgranted', hmem⟩ := skills_pads hread h.skills
  obtain ⟨cost', hcost', hcosts⟩ := cost_pads hread h.cost
  have halike : p.Alike { p with demand := es', granted := granted', cost := cost' } :=
    { days := rfl
      candidates := rfl
      skills := rfl
      scenarios := rfl
      dailyLimit := rfl
      required := by
        intro scenario hscenario d k hk
        unfold Problem.required?
        split
        · next sc sk hsc hsk =>
            exact hcounts sc d sk (textOf?_eq_some hsc ▸ hscenario) (textOf?_eq_some hsk ▸ hk)
        · rfl
      granted := by
        intro c hc k hk
        unfold Problem.isGranted
        split
        · next cc ck hcc hck =>
            rw [Bool.eq_iff_iff, List.contains_iff_mem, List.contains_iff_mem]
            exact hmem cc ck (textOf?_eq_some hcc ▸ hc) (textOf?_eq_some hck ▸ hk)
        · rfl
      goal := by
        unfold Problem.goal
        rcases hcosts with rfl | ⟨es, es', hes, rfl, hsame⟩
        · rfl
        · rw [hes]
          exact costTerms_congr hsame pure }
  refine ⟨_, Problem.ofSpecification_eq_ok_iff.mpr ?_, halike⟩
  -- indexes and options are those of the first specification, so only the data are read anew
  obtain ⟨hdeclared⟩ := h
  rw [hdeclared] at htable hskillTable hcost' ⊢
  exact { hread with
    demand := ⟨table, htable, hes'⟩
    granted := ⟨skillTable, hskillTable, hgranted'⟩
    cost := hcost'
    counts := by rw [halike.counts_eq]; exact hread.counts }

/-- The override for costs does not see a difference. It reads the costs again from the data, but
asks only for those of candidates. -/
theorem minimizeCost_pads (h : s.Pads s') (m : Model) (args : Arguments) :
    minimizeCost m s' args = minimizeCost m s args := by
  have hindexes : ∀ name, s'.indexValues name = s.indexValues name := by
    intro name
    rw [h.declared]
    rfl
  unfold minimizeCost
  rw [h.cost.contains_eq, hindexes]
  refine bind_congr fun factor => ?_
  rcases h.cost with hsame | ⟨es, es', hes, hes', hpads⟩
  · rw [hsame]
  · rw [hes, hes']
    split
    · rfl
    · -- the costs are read without fail in both cases, and differ for nobody who is asked for
      refine bind_congr (x := asFault (m.family "hire")) fun hire => ?_
      cases hcandidates : s.indexValues "candidates" with
      | error e => rfl
      | ok candidates =>
          have hall := costOf_pads hpads
          have hread : (indexesOf s).candidates = candidates := indexValues_eq_ok hcandidates []
          rw [hread] at hall
          show (asFault (costTerms hire candidates (.map es') (product factor)) >>= fun terms =>
            pure (m.pursue .minimize "minimize_cost" terms)) = _
          rw [costTerms_congr hall]
          rfl

end

end Staffing

namespace Build

/-! ## Building -/

section

variable {s s' : Specification}

/-- The built-in constraints look at nothing but the indexes. -/
theorem constraint_pads (h : s.Pads s') {name : String} {rule : Rule Model}
    (hrule : builtins.constraint name = .ok rule) (m : Model) (args : Arguments) :
    rule m s' args = rule m s args := by
  rw [h.declared]
  rcases constraint_builtins hrule with ⟨-, rfl⟩ | ⟨-, rfl⟩ | ⟨-, rfl⟩ <;> rfl

theorem objective_pads (h : s.Pads s') {name : String} {rule : Rule Model}
    (hrule : builtins.objective name = .ok rule) (m : Model) (args : Arguments) :
    rule m s' args = rule m s args := by
  rcases objective_builtins hrule with ⟨-, rfl⟩ | ⟨-, rfl⟩ | ⟨-, rfl⟩
  · exact Staffing.minimizeCost_pads h m args
  · rfl
  · rw [h.declared]
    rfl

/-- The template makes the same model. -/
theorem workScheduling_pads (hdays : ∀ d ∈ (Staffing.indexesOf s).days, d.IsMember)
    (h : s.Pads s') {m : Model} (hm : workScheduling s = .ok m) : workScheduling s' = .ok m := by
  obtain ⟨p, hp, hmodel⟩ := workScheduling_eq_ok hm
  obtain ⟨p', hp', halike⟩ := Staffing.ofSpecification_pads hdays hp h
  unfold workScheduling
  rw [hp']
  exact mapError_eq_ok.mpr (halike.model_eq.trans hmodel)

/-- After the loading, building does the same in every stage: the template by the problems, the
rules because they look at no more than those. -/
theorem assemble_pads (hdays : ∀ d ∈ (Staffing.indexesOf s).days, d.IsMember) (h : s.Pads s')
    {b : Built Model} (hb : assemble builtins s = .ok b) : assemble builtins s' = .ok b := by
  have htemplate : ∀ {template}, builtins.template s.template = .ok template →
      template s' = template s := by
    intro template hfound
    obtain ⟨-, rfl⟩ := template_builtins hfound
    -- the template has made a model of the first specification
    obtain ⟨_, hfound', hb⟩ := bind_eq_ok.mp hb
    rw [mapError_eq_ok.mp hfound'] at hfound
    cases hfound
    obtain ⟨m, hm, -⟩ := bind_eq_ok.mp hb
    have hm := mapError_eq_ok.mp hm
    rw [hm, workScheduling_pads hdays h hm]
  rw [assemble_congr (by rw [h.declared]) (by rw [h.declared]) htemplate (constraint_pads h)
    (objective_pads h), hb]

end

/-! ### A desk with more rows -/

/-- The columns of a table of demand. -/
def demandColumns : List Value := [.str "scenario", .str "day", .str "skill", .str "value"]

/-- A desk on Mondays, for which Ann and Bob can be hired. -/
def staffedDesk (demand skills : List (List Value)) (costs : Entries) : Specification :=
  ⟨"work_scheduling",
    .ofList [("days", .listed [.str "Monday"]), ("candidates", .listed [.str "Ann", .str "Bob"]),
      ("skills", .listed [.str "desk"]), ("scenarios", .listed [.str "2025-01-01"])],
    .ofList [
      ("demand", .table ["scenario", "day", "skill", "value"] (.literal .null)
        (some ⟨demandColumns, demand⟩)),
      ("candidate_skills", .table ["candidate", "skill", "has_skill"] (.literal .null)
        (some ⟨[.str "candidate", .str "skill", .str "has_skill"], skills⟩)),
      ("cost_month", .mapping "candidate" (.literal .null) (some costs))],
    .empty, .ofList [("objective", [⟨"", "minimize_cost", .empty⟩])]⟩

theorem isLoaded_staffedDesk (demand skills : List (List Value)) (costs : Entries) :
    (staffedDesk demand skills costs).IsLoaded := by
  intro e he
  have hall : (staffedDesk demand skills costs).parameters.entries.all
      (fun e => !Loader.isPending e.2) = true := rfl
  simpa using List.all_eq_true.mp hall e he

/-- One worker is needed at the desk on Monday. -/
def neededRow : List Value := [.str "2025-01-01", .str "Monday", .str "desk", .int 1]

/-- Ann can work at the desk. -/
def ableRow : List Value := [.str "Ann", .str "desk", .bool true]

/-- More are needed for what has a number already. -/
def moreRow : List Value := [.str "2025-01-01", .str "Monday", .str "desk", .int 7]

/-- Two are needed for a skill that nobody asks for. -/
def tillRow : List Value := [.str "2025-01-01", .str "Monday", .str "till", .int 2]

/-- A desk with one row in each of its tables. -/
def leanDesk : Specification := staffedDesk [neededRow] [ableRow] [(.str "Ann", .int 5)]

/-- The same desk with demand on a Sunday that is no number, more demand for the desk, and demand for a
till; with skills of somebody else, a skill that is granted twice, and one that is denied; and with the
cost of somebody else. -/
def paddedDesk : Specification :=
  staffedDesk
    ([[.str "2025-01-01", .str "Sunday", .str "desk", .str "many"], neededRow]
      ++ [moreRow, tillRow])
    [[.str "Eve", .str "desk", .bool true], ableRow, ableRow, [.str "Bob", .str "desk", .str "no"]]
    [(.str "Eve", .int 3), (.str "Ann", .int 5)]

theorem indexesOf_leanDesk :
    Staffing.indexesOf leanDesk = ⟨[.str "Ann", .str "Bob"], [.str "Monday"], [.str "desk"]⟩ := rfl

theorem demands_leanDesk : Staffing.Demands leanDesk "2025-01-01" (.str "Monday") "desk" 1 := by
  have hread : (Staffing.demandFrom (.table demandColumns [neededRow]) [.str "Monday"]
      ["2025-01-01"]).toOption.any
      (fun es => Staffing.countFor? es "2025-01-01" (.str "Monday") "desk" == some 1) = true := by
    decide +kernel
  simp only [Option.any_eq_true, beq_iff_eq] at hread
  obtain ⟨es, hes, hcount⟩ := hread
  exact ⟨_, es, rfl, eq_ok_of_toOption hes, hcount⟩

/-- The rows of the padded desk are of no use for the demand: one is for a Sunday, one comes too
late, and one is for a skill that is not planned. -/
theorem padsDemand_paddedDesk : Staffing.PadsDemand leanDesk paddedDesk := by
  have htable : Staffing.IsDemandTable ⟨demandColumns, [neededRow]⟩ :=
    { day := ⟨1, by decide +kernel⟩
      skill := ⟨2, by decide +kernel⟩
      value := ⟨3, by decide +kernel⟩
      scenario := Or.inr ⟨0, by decide +kernel⟩
      rows := by decide +kernel }
  have hlegible : Staffing.IsLegible ⟨demandColumns,
      [[.str "2025-01-01", .str "Sunday", .str "desk", .str "many"], neededRow]
        ++ [moreRow, tillRow]⟩ :=
    { day := by decide +kernel
      skill := by decide +kernel
      scenario := by decide +kernel }
  refine Staffing.padsDemand_of_isMixed rfl rfl htable (by decide) hlegible ?_ ?_ ?_
  · unfold Staffing.IsMixed
    decide +kernel
  · refine .add ?_ (.keep neededRow .nil)
    rw [indexesOf_leanDesk]
    unfold Staffing.WrittenRow.IsMatched
    decide +kernel
  · rw [indexesOf_leanDesk, List.forall_mem_cons, List.forall_mem_singleton]
    refine ⟨fun _ => ⟨by decide +kernel, ?_⟩, fun _ => ⟨by decide +kernel, ?_⟩⟩
    · -- the desk has its number already
      intro scenario k d hscenario hk hd _ _
      have hnamed : (Staffing.ownRow demandColumns moreRow).scenario = some (some "2025-01-01")
          ∧ (Staffing.ownRow demandColumns moreRow).skill = some "desk" := by decide +kernel
      cases hnamed.1.symm.trans (hscenario.resolve_left (by decide +kernel))
      cases hnamed.2.symm.trans hk
      rw [List.mem_singleton.mp (Staffing.matchMember?_eq_some hd).1]
      exact ⟨1, demands_leanDesk⟩
    · -- nobody plans for a till
      intro scenario k d _ hk _ _ hlisted
      have hnamed : (Staffing.ownRow demandColumns tillRow).skill = some "till" := by decide +kernel
      cases hnamed.symm.trans hk
      simp at hlisted

/-- The skills of the padded desk say nothing new of anybody who is a candidate. -/
theorem padsSkills_paddedDesk : Staffing.PadsSkills leanDesk paddedDesk := by
  have hable : Staffing.GrantsSkill leanDesk (.str "Ann") (.str "desk") :=
    ⟨_, _, rfl, ableRow, List.mem_singleton_self _, "Ann", "desk",
      eq_ok_of_toOption (by decide +kernel), rfl, rfl⟩
  refine ⟨_, [ableRow], _, rfl, rfl, .add ?_ (.keep ableRow (.add ?_ (.add ?_ .nil)))⟩
  · refine ⟨some ("Eve", "desk"), eq_ok_of_toOption (by decide +kernel), ?_⟩
    rintro _ _ ⟨⟩ hmem
    rw [indexesOf_leanDesk] at hmem
    simp at hmem
  · refine ⟨some ("Ann", "desk"), eq_ok_of_toOption (by decide +kernel), ?_⟩
    rintro _ _ ⟨⟩ - -
    exact hable
  · exact ⟨none, eq_ok_of_toOption (by decide +kernel), by simp⟩

end Build

end Rostering
