import Rostering.Proofs.Staffing.Rules

/-!
# What the model of a problem says

The template reads a specification into a problem and turns the problem into a model. This module
follows both steps.

## The architecture

* **`Problem.IsReadFrom`** — what `Problem.ofSpecification` takes from where, and when it does
  (`Problem.ofSpecification_eq_ok_iff`); **`Problem.Reads`** says so in terms of the declared data
  (`Problem.reads_of_ofSpecification`).
* **`Problem.isGranted_iff`** — the pairs that were collected are those that some row grants.
* **`Problem.family_model`**, **`Problem.nodup_numbers`** — the model knows the two families, and no
  variable belongs to two keys.
* **`Problem.holds_model`** — the constraints of the model hold exactly when the four intrinsic
  demands on a schedule are met, one lemma for each of the four lists.
-/

namespace Rostering.Staffing

/-! ## Reading a specification -/

/-- The parts of a problem are those that its specification declares. -/
structure Problem.Reads (p : Problem) (s : Specification) : Prop where
  indexes : indexesOf s = ⟨p.candidates, p.days, p.skills⟩
  scenarios : scenariosOf s = p.scenarios
  demand : ∃ table, s.loadedData "demand" = .ok table
    ∧ demandFrom table p.days (p.scenarios.map Value.shown) = .ok p.demand
  granted : ∃ table, s.loadedData "candidate_skills" = .ok table ∧ skillsFrom table = .ok p.granted
  dailyLimit : mostPerDay s = p.dailyLimit

theorem indexOrDefault_eq_ok {s : Specification} {name : String} {others l : List Value}
    (h : s.indexOrDefault name others = .ok l) : membersOf s name others = l := by
  unfold Specification.indexOrDefault at h
  split at h
  · exact indexValues_eq_ok h others
  · next hnone =>
      rw [pure_eq_ok] at h
      unfold Specification.hasIndex Named.contains at hnone
      unfold membersOf
      rw [Option.not_isSome_iff_eq_none.mp hnone, ← h]
      rfl

/-- A limit that was read is the declared one. -/
theorem dailyLimitOf_eq_ok {s : Specification} {n : Nat} (h : dailyLimitOf s.options = .ok n) :
    mostPerDay s = n := by
  unfold dailyLimitOf at h
  unfold mostPerDay
  -- no limit was declared, a whole one, or one that is refused
  split at h
  · next hnone =>
      rw [pure_eq_ok] at h
      rw [hnone, ← h]
  · next k hk =>
      split at h
      · next hpos =>
          rw [pure_eq_ok] at h
          rw [hk, ← h]
          exact (Int.toNat_of_nonneg hpos).symm
      · exact absurd h throw_ne_ok
  · exact absurd h throw_ne_ok

/-- The cost of hiring, if the specification declares any. -/
def declaredCost (s : Specification) : Except Fault (Option Value) :=
  if s.parameters.contains "cost_month" then (s.loadedData "cost_month").map some else pure none

theorem contains_of_loadedData {s : Specification} {name : String} {v : Value}
    (h : s.loadedData name = .ok v) : s.parameters.contains name = true := by
  unfold Specification.loadedData at h
  unfold Named.contains
  cases hfind : s.parameters.find? name with
  | none =>
      rw [hfind] at h
      exact absurd h throw_ne_ok
  | some p => rfl

theorem declaredCost_of_loadedData {s : Specification} {v : Value}
    (h : s.loadedData "cost_month" = .ok v) : declaredCost s = .ok (some v) := by
  unfold declaredCost
  rw [contains_of_loadedData h, if_pos rfl, h]
  rfl

/-- Each part of the problem is what is read from the specification, and its numbers are not too
large. -/
structure Problem.IsReadFrom (p : Problem) (s : Specification) : Prop where
  days : s.indexValues "days" = .ok p.days
  candidates : s.indexValues "candidates" = .ok p.candidates
  skills : s.indexValues "skills" = .ok p.skills
  scenarios : s.indexOrDefault "scenarios" [.str Settings.scenario] = .ok p.scenarios
  demand : ∃ table, s.loadedData "demand" = .ok table
    ∧ demandFrom table p.days (p.scenarios.map Value.shown) = .ok p.demand
  granted : ∃ table, s.loadedData "candidate_skills" = .ok table ∧ skillsFrom table = .ok p.granted
  cost : declaredCost s = .ok p.cost
  counts : p.counts.forM checkedBound = .ok ()
  dailyLimit : dailyLimitOf s.options = .ok p.dailyLimit
  bound : checkedBound p.dailyLimit = .ok ()

/-- A problem can be read exactly if each of its parts can. The parts are read one after the other,
and each is kept as it was read. -/
theorem Problem.ofSpecification_eq_ok_iff {s : Specification} {p : Problem} :
    Problem.ofSpecification s = .ok p ↔ p.IsReadFrom s := by
  -- the costs are read in one go
  have hread : Problem.ofSpecification s = (do
      let days ← s.indexValues "days"
      let candidates ← s.indexValues "candidates"
      let skills ← s.indexValues "skills"
      let scenarios ← s.indexOrDefault "scenarios" [.str Settings.scenario]
      let demand ← demandFrom (← s.loadedData "demand") days (scenarios.map Value.shown)
      let granted ← skillsFrom (← s.loadedData "candidate_skills")
      let cost ← declaredCost s
      let p : Problem := ⟨days, candidates, skills, scenarios, demand, granted, cost, 0⟩
      p.counts.forM checkedBound
      let limit ← dailyLimitOf s.options
      checkedBound limit
      pure { p with dailyLimit := limit }) := by
    unfold Problem.ofSpecification declaredCost
    split <;> rfl
  rw [hread]
  constructor
  · intro h
    obtain ⟨days, hdays, h⟩ := bind_eq_ok.mp h
    obtain ⟨candidates, hcandidates, h⟩ := bind_eq_ok.mp h
    obtain ⟨skills, hskills, h⟩ := bind_eq_ok.mp h
    obtain ⟨scenarios, hscenarios, h⟩ := bind_eq_ok.mp h
    obtain ⟨table, htable, h⟩ := bind_eq_ok.mp h
    obtain ⟨demand, hdemand, h⟩ := bind_eq_ok.mp h
    obtain ⟨skillTable, hskillTable, h⟩ := bind_eq_ok.mp h
    obtain ⟨granted, hgranted, h⟩ := bind_eq_ok.mp h
    obtain ⟨cost, hcost, h⟩ := bind_eq_ok.mp h
    obtain ⟨⟨⟩, hcounts, h⟩ := bind_eq_ok.mp h
    obtain ⟨limit, hlimit, h⟩ := bind_eq_ok.mp h
    obtain ⟨⟨⟩, hbound, h⟩ := bind_eq_ok.mp h
    rw [← pure_eq_ok.mp h]
    exact ⟨hdays, hcandidates, hskills, hscenarios, ⟨table, htable, hdemand⟩,
      ⟨skillTable, hskillTable, hgranted⟩, hcost, hcounts, hlimit, hbound⟩
  · rintro ⟨hdays, hcandidates, hskills, hscenarios, ⟨table, htable, hdemand⟩,
      ⟨skillTable, hskillTable, hgranted⟩, hcost, hcounts, hlimit, hbound⟩
    exact bind_eq_ok.mpr ⟨_, hdays, bind_eq_ok.mpr ⟨_, hcandidates, bind_eq_ok.mpr ⟨_, hskills,
      bind_eq_ok.mpr ⟨_, hscenarios, bind_eq_ok.mpr ⟨_, htable, bind_eq_ok.mpr ⟨_, hdemand,
        bind_eq_ok.mpr ⟨_, hskillTable, bind_eq_ok.mpr ⟨_, hgranted, bind_eq_ok.mpr ⟨_, hcost,
          bind_eq_ok.mpr ⟨_, hcounts, bind_eq_ok.mpr ⟨_, hlimit,
            bind_eq_ok.mpr ⟨_, hbound, rfl⟩⟩⟩⟩⟩⟩⟩⟩⟩⟩⟩⟩

/-- A problem that was read says what its specification declares. -/
theorem Problem.reads_of_ofSpecification {s : Specification} {p : Problem}
    (h : Problem.ofSpecification s = .ok p) : p.Reads s := by
  have hp := Problem.ofSpecification_eq_ok_iff.mp h
  refine ⟨?_, indexOrDefault_eq_ok hp.scenarios, hp.demand, hp.granted,
    dailyLimitOf_eq_ok hp.dailyLimit⟩
  unfold indexesOf
  rw [indexValues_eq_ok hp.days, indexValues_eq_ok hp.candidates, indexValues_eq_ok hp.skills]

/-! ## Granted skills -/

theorem textOf?_eq_some {v : Value} {s : String} (h : textOf? v = some s) : v = .str s := by
  cases v with
  | str t =>
      cases h
      rfl
  | _ => cases h

/-- The pairs are collected row by row. -/
theorem mem_grantedSkills {t : Table} {granted : List (String × String)}
    (h : grantedSkills t = .ok granted) (pair : String × String) :
    pair ∈ granted ↔ ∃ row ∈ t.rows, granted? t row = .ok (some pair) := by
  unfold grantedSkills at h
  obtain ⟨pairs, hpairs, h⟩ := bind_eq_ok.mp h
  rw [pure_eq_ok] at h
  rw [← h, List.mem_eraseDups, List.mem_filterMap]
  constructor
  · rintro ⟨found, hfound, rfl⟩
    exact exists_of_mem_mapM hpairs hfound
  · rintro ⟨row, hrow, hpair⟩
    exact ⟨some pair, mem_of_mapM hpairs hrow hpair, rfl⟩

/-- The pairs that were collected are those that some row grants. -/
theorem Problem.isGranted_iff {p : Problem} {s : Specification} (hp : p.Reads s)
    (candidate skill : Value) :
    p.isGranted candidate skill = true ↔ GrantsSkill s candidate skill := by
  obtain ⟨table, htable, hskills⟩ := hp.granted
  unfold skillsFrom at hskills
  split at hskills
  · next columns rows =>
      have hmem := mem_grantedSkills hskills
      unfold Problem.isGranted
      constructor
      · intro hgranted
        -- pairs are of texts, so nobody else has a skill
        split at hgranted
        · next c k hc hk =>
            obtain ⟨row, hrow, hpair⟩ := (hmem (c, k)).mp (List.contains_iff_mem.mp hgranted)
            exact ⟨columns, rows, htable, row, hrow, c, k, hpair, textOf?_eq_some hc,
              textOf?_eq_some hk⟩
        · cases hgranted
      · rintro ⟨columns', rows', htable', row, hrow, c, k, hpair, rfl, rfl⟩
        rw [htable] at htable'
        cases htable'
        exact List.contains_iff_mem.mpr ((hmem (c, k)).mpr ⟨row, hrow, hpair⟩)
  · exact absurd hskills throw_ne_ok

/-! ## Families -/

namespace Problem

theorem model_eq_ok {p : Problem} {m : Model} (h : p.model = .ok m) :
    m.vars = p.assignKeys.map (Variable.ofKey "assign" 0 1)
        ++ p.hireKeys.map (Variable.ofKey "hire" 0 1)
      ∧ m.families = Named.ofList [("assign", p.assign), ("hire", p.hire)]
      ∧ m.constraints = p.coverage ++ p.eligibility ++ p.hiring ++ p.dailyLimits := by
  unfold model at h
  obtain ⟨goal, -, h⟩ := bind_eq_ok.mp h
  rw [pure_eq_ok] at h
  rw [← h]
  exact ⟨rfl, rfl, rfl⟩

theorem mem_assignKeys {p : Problem} {key : Key} :
    key ∈ p.assignKeys ↔ ∃ c ∈ p.candidates, ∃ d ∈ p.days, ∃ k ∈ p.skills, key = [c, d, k] := by
  unfold assignKeys
  simp only [List.mem_flatMap, List.mem_map, eq_comm]

theorem family_model {p : Problem} {m : Model} (h : p.model = .ok m) :
    m.family "assign" = .ok p.assign ∧ m.family "hire" = .ok p.hire := by
  have hfamilies := (model_eq_ok h).2.1
  unfold Model.family
  rw [hfamilies]
  exact ⟨rfl, rfl⟩

/-- The variables of a family that was created in one go are different ones from its stretch. -/
theorem numbers_ofPairs_zipIdx (keys : List Key) (n : Nat) :
    (Family.ofPairs (keys.zipIdx n)).numbers.Nodup
      ∧ ∀ i ∈ (Family.ofPairs (keys.zipIdx n)).numbers, n ≤ i ∧ i < n + keys.length := by
  have hstretch : (keys.zipIdx n).map Prod.snd = List.range' n keys.length :=
    List.zipIdx_map_snd n keys
  have hnew : ((keys.zipIdx n).map Prod.snd).Nodup := by
    rw [hstretch]
    exact List.nodup_range'
  obtain ⟨hnodup, hfrom⟩ := Family.numbers_ofPairs hnew
  rw [hstretch] at hfrom
  exact ⟨hnodup, fun i hi => List.mem_range'_1.mp (hfrom hi)⟩

/-- No variable is found under two keys. -/
theorem nodup_numbers (p : Problem) : (p.assign.numbers ++ p.hire.numbers).Nodup := by
  obtain ⟨hassign, hbelow⟩ := numbers_ofPairs_zipIdx p.assignKeys 0
  obtain ⟨hhire, habove⟩ := numbers_ofPairs_zipIdx p.hireKeys p.assignKeys.length
  refine List.nodup_append.mpr ⟨hassign, hhire, ?_⟩
  -- the variables for hiring come behind all those for assignments
  rintro i hi j hj rfl
  have hi := (hbelow i hi).2
  have hj := (habove i hj).1
  omega

/-- Every variable of the two families is zero or one. The numbers of the families are places in the
list of variables. -/
theorem vars_of_mem_numbers {p : Problem} {m : Model} (h : p.model = .ok m) {n : Nat}
    (hn : n ∈ p.assign.numbers ++ p.hire.numbers) :
    ∃ name, m.vars[n]? = some ⟨name, 0, 1⟩ := by
  have hbound : n < p.assignKeys.length + p.hireKeys.length := by
    cases List.mem_append.mp hn with
    | inl hassign =>
        have hbelow := ((numbers_ofPairs_zipIdx p.assignKeys 0).2 n hassign).2
        omega
    | inr hhire => exact ((numbers_ofPairs_zipIdx p.hireKeys p.assignKeys.length).2 n hhire).2
  -- all variables are of this kind, so it does not matter which one it is
  have hall : ∀ x ∈ m.vars, ∃ name, x = ⟨name, 0, 1⟩ := by
    rw [(model_eq_ok h).1]
    intro x hx
    cases List.mem_append.mp hx with
    | inl hassign =>
        obtain ⟨key, -, rfl⟩ := List.mem_map.mp hassign
        exact ⟨_, rfl⟩
    | inr hhire =>
        obtain ⟨key, -, rfl⟩ := List.mem_map.mp hhire
        exact ⟨_, rfl⟩
  have hlength : n < m.vars.length := by
    rw [(model_eq_ok h).1, List.length_append, List.length_map, List.length_map]
    exact hbound
  obtain ⟨name, hname⟩ := hall m.vars[n] (List.getElem_mem hlength)
  exact ⟨name, by rw [List.getElem?_eq_getElem hlength, hname]⟩

/-- Every candidate, day and skill has an assignment, and every candidate can be hired. -/
theorem isSome_find?_assign {p : Problem} {c d k : Value} (hc : c ∈ p.candidates)
    (hd : d ∈ p.days) (hk : k ∈ p.skills) (hmember : c.IsMember ∧ d.IsMember ∧ k.IsMember) :
    (p.assign.find? [c, d, k]).isSome = true := by
  refine Family.isSome_find?_ofPairs ?_ ?_
  · simpa using hmember
  · rw [List.zipIdx_map_fst]
    exact mem_assignKeys.mpr ⟨c, hc, d, hd, k, hk, rfl⟩

theorem isSome_find?_hire {p : Problem} {c : Value} (hc : c ∈ p.candidates)
    (hmember : c.IsMember) : (p.hire.find? [c]).isSome = true := by
  refine Family.isSome_find?_ofPairs ?_ ?_
  · simpa using hmember
  · rw [List.zipIdx_map_fst]
    exact List.mem_map_of_mem hc

/-! ## Constraints -/

section

variable (p : Problem) (v : Valuation)

/-- The counts of the slots are met when every demanded slot has enough workers. -/
theorem holds_coverage :
    (∀ c ∈ p.coverage, c.Holds v) ↔
      ∀ scenario ∈ p.scenarios, ∀ d ∈ p.days, ∀ k ∈ p.skills, ∀ n,
        p.required? scenario d k = some n →
          (n : Int) ≤ (p.candidates.map fun c => scheduleOf p.assign v c d k).sum := by
  -- the terms of a slot are the variables of its candidates
  have hsum : ∀ d k, (Terms.ofVariables (p.candidates.map fun c => p.assign.number [c, d, k])).eval v
      = (p.candidates.map fun c => scheduleOf p.assign v c d k).sum := by
    intro d k
    rw [Terms.eval_ofVariables, List.map_map]
    rfl
  unfold coverage slots
  simp only [List.forall_mem_filterMap, List.forall_mem_flatMap, List.forall_mem_map,
    Option.map_eq_some_iff]
  constructor
  · intro h scenario hscenario d hd k hk n hn
    have hholds := h scenario hscenario d hd k hk _ ⟨n, hn, rfl⟩
    rw [Constraint.holds_atLeast, hsum] at hholds
    exact hholds
  · rintro h scenario hscenario d hd k hk _ ⟨n, hn, rfl⟩
    rw [Constraint.holds_atLeast, hsum]
    exact h scenario hscenario d hd k hk n hn

/-- Work without the skill for it is excluded. -/
theorem holds_eligibility :
    (∀ c ∈ p.eligibility, c.Holds v) ↔
      ∀ c ∈ p.candidates, ∀ d ∈ p.days, ∀ k ∈ p.skills, p.isGranted c k = false →
        scheduleOf p.assign v c d k = 0 := by
  unfold eligibility
  simp only [List.forall_mem_flatMap, List.forall_mem_filter, List.forall_mem_map, holds_single,
    Bool.not_eq_true']
  rfl

/-- Work without being hired is excluded. -/
theorem holds_hiring :
    (∀ c ∈ p.hiring, c.Holds v) ↔
      ∀ c ∈ p.candidates, ∀ d ∈ p.days, ∀ k ∈ p.skills,
        scheduleOf p.assign v c d k ≤ v (p.hire.number [c]) := by
  have hpair : ∀ a h : Nat,
      (Constraint.atMost [(a, 1), (h, -1)] 0).Holds v ↔ v a ≤ v h := by
    intro a h
    rw [Constraint.holds_atMost]
    simp only [Terms.eval_cons, Terms.eval_nil]
    omega
  unfold hiring
  simp only [List.forall_mem_map, hpair]
  constructor
  · intro h c hc d hd k hk
    exact h [c, d, k] (mem_assignKeys.mpr ⟨c, hc, d, hd, k, hk, rfl⟩)
  · intro h key hkey
    obtain ⟨c, hc, d, hd, k, hk, rfl⟩ := mem_assignKeys.mp hkey
    exact h c hc d hd k hk

/-- The work of a day is limited. -/
theorem holds_dailyLimits :
    (∀ c ∈ p.dailyLimits, c.Holds v) ↔
      ∀ c ∈ p.candidates, ∀ d ∈ p.days,
        load (scheduleOf p.assign v) p.skills c d ≤ p.dailyLimit := by
  unfold dailyLimits
  simp only [List.forall_mem_flatMap, List.forall_mem_map, Constraint.holds_atMost]
  refine forall₂_congr fun c _ => forall₂_congr fun d _ => ?_
  rw [← eval_workOn]
  rfl

end

/-- A slot is demanded when its scenario and its skill are texts for which the table has a
number. -/
theorem required?_iff {p : Problem} {s : Specification} (hp : p.Reads s) (scenario day skill : Value)
    (n : Nat) : p.required? scenario day skill = some n
      ↔ ∃ sc k, scenario = .str sc ∧ skill = .str k ∧ Demands s sc day k n := by
  obtain ⟨table, htable, hdemand⟩ := hp.demand
  have hdays : (indexesOf s).days = p.days := by rw [hp.indexes]
  unfold required?
  constructor
  · intro hrequired
    -- a slot without texts has no number, since tables have texts for names
    split at hrequired
    · next sc k hsc hk =>
        refine ⟨sc, k, textOf?_eq_some hsc, textOf?_eq_some hk, table, p.demand, htable, ?_,
          hrequired⟩
        rw [hdays, hp.scenarios]
        exact hdemand
    · cases hrequired
  · rintro ⟨sc, k, rfl, rfl, table', entries, htable', hentries, hcount⟩
    rw [htable] at htable'
    cases htable'
    rw [hdays, hp.scenarios, hdemand] at hentries
    cases hentries
    exact hcount

/-- The constraints of the model hold exactly when the schedule does what the template asks for. The
four lists have been treated one by one; here they are put together and the members of the problem
are those of the specification. -/
theorem holds_model {p : Problem} {s : Specification} {m : Model} (hp : p.Reads s)
    (hm : p.model = .ok m) (v : Valuation) :
    (∀ c ∈ m.constraints, c.Holds v) ↔
      IsCovering (scheduleOf p.assign v) s (fun c => v (p.hire.number [c])) := by
  rw [(model_eq_ok hm).2.2]
  simp only [List.forall_mem_append, holds_coverage, holds_eligibility, holds_hiring,
    holds_dailyLimits, and_assoc]
  have hcandidates : (indexesOf s).candidates = p.candidates := by rw [hp.indexes]
  have hdays : (indexesOf s).days = p.days := by rw [hp.indexes]
  have hskills : (indexesOf s).skills = p.skills := by rw [hp.indexes]
  constructor
  -- the four lists of constraints are the four demands; all that remains is where the members come
  -- from
  · rintro ⟨hcovers, heligible, hemployed, hdaily⟩
    refine ⟨?_, ?_, ?_, ?_⟩
    · intro scenario d skill n hscenario hd hk hn
      rw [hcandidates]
      refine hcovers (.str scenario) (hp.scenarios ▸ hscenario) d (hdays ▸ hd) (.str skill)
        (hskills ▸ hk) n ?_
      exact (required?_iff hp _ _ _ _).mpr ⟨scenario, skill, rfl, rfl, hn⟩
    · intro c hc d hd k hk hgrant
      refine heligible c (hcandidates ▸ hc) d (hdays ▸ hd) k (hskills ▸ hk) ?_
      exact Bool.eq_false_iff.mpr fun h => hgrant ((isGranted_iff hp c k).mp h)
    · intro c hc d hd k hk
      exact hemployed c (hcandidates ▸ hc) d (hdays ▸ hd) k (hskills ▸ hk)
    · intro c hc d hd
      rw [hskills, hp.dailyLimit]
      exact hdaily c (hcandidates ▸ hc) d (hdays ▸ hd)
  · intro h
    refine ⟨?_, ?_, ?_, ?_⟩
    · intro scenario hscenario d hd k hk n hn
      obtain ⟨sc, sk, rfl, rfl, hdemands⟩ := (required?_iff hp _ _ _ _).mp hn
      have hsum := h.covers sc d sk n (hp.scenarios ▸ hscenario) (hdays ▸ hd) (hskills ▸ hk) hdemands
      rw [hcandidates] at hsum
      exact hsum
    · intro c hc d hd k hk hgranted
      refine h.eligible c (hcandidates ▸ hc) d (hdays ▸ hd) k (hskills ▸ hk) ?_
      intro hgrant
      rw [(isGranted_iff hp c k).mpr hgrant] at hgranted
      cases hgranted
    · intro c hc d hd k hk
      exact h.employed c (hcandidates ▸ hc) d (hdays ▸ hd) k (hskills ▸ hk)
    · intro c hc d hd
      have hload := h.daily c (hcandidates ▸ hc) d (hdays ▸ hd)
      rw [hskills, hp.dailyLimit] at hload
      exact hload

end Problem

end Rostering.Staffing
