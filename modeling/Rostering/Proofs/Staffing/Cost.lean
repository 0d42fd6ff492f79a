import Rostering.Proofs.Plan

/-!
# What hiring costs

The cost of hiring is a sum with a term for each place in the list of candidates whose member has an
entry in the table of costs. This module reads the sum off the goals that a template and an override
can set, where the costs are whole numbers.

## The architecture

* **`costIn`**, **`hireTerms`** — what a candidate costs, and the sum with a factor
  (`eval_hireTerms`).
* **`costTerms_eq_ok`** — both goals that have to do with costs are such sums.
* **`PaysForHiring`** — the goal of a specification is the cost of hiring, so many times
  (`Build.objective_of_assemble`).
* **`IsUsed`**, **`usedCost`** — who has anything to do, and what they cost.
-/

namespace Rostering

namespace Staffing

/-! ## Costs -/

/-- All costs are whole numbers. -/
def HasWholeCosts (es : Entries) : Prop := ∀ e ∈ es, ∃ n, e.2 = .int n

/-- What a candidate costs, if there is an entry for it. -/
def costIn? (es : Entries) (candidate : Value) : Option Int :=
  match es.find? candidate with
  | some (.int n) => some n
  | _ => none

/-- What a candidate costs; nothing without an entry. -/
def costIn (es : Entries) (candidate : Value) : Int := (costIn? es candidate).getD 0

/-- The cost of hiring, so many times. -/
def hireTerms (hire : Family) (candidates : List Value) (es : Entries) (factor : Int) : Terms :=
  candidates.filterMap fun c => (costIn? es c).map fun n => (hire.number [c], factor * n)

/-- The sum is what the candidates cost who are hired, each so many times. -/
theorem eval_hireTerms (hire : Family) (candidates : List Value) (es : Entries) (factor : Int)
    (v : Valuation) : (hireTerms hire candidates es factor).eval v
      = (candidates.map fun c => factor * (costIn es c * v (hire.number [c]))).sum := by
  unfold hireTerms costIn
  induction candidates with
  | nil => rfl
  | cons c candidates ih =>
      rw [List.filterMap_cons, List.map_cons, List.sum_cons, ← ih]
      cases costIn? es c with
      | none => simp
      | some n =>
          simp only [Option.map_some, Option.getD_some, Terms.eval_cons]
          ring

/-- Candidates that are the same cost the same. -/
theorem costIn_congr (es : Entries) {c c' : Value} (hc : c.IsMember) (h : c.same c' = true) :
    costIn es c = costIn es c' := by
  have hc' := hc.of_same h
  have hback := hc'.same_symm h
  have hfind : es.find? c = es.find? c' := by
    unfold Entries.find?
    congr 2
    funext e
    rw [Bool.eq_iff_iff]
    exact ⟨hc'.same_trans hback, hc.same_trans h⟩
  unfold costIn costIn?
  rw [hfind]

/-- A whole number is its own coefficient. -/
theorem coefficientOf_int {n : Int} {c : Coefficient} (h : coefficientOf (.int n) = .ok c) :
    c = .whole n := by
  unfold coefficientOf at h
  simp only [Value.asCoefficient, Coefficient.ofInt?] at h
  split at h
  · next hsome =>
      rw [pure_eq_ok] at h
      rw [← h]
      split at hsome
      · exact (Option.some.inj hsome).symm
      · cases hsome
  · exact absurd h throw_ne_ok

/-- A goal of whole costs is their sum, with the factor by which each of them is changed. Induction on
the candidates. -/
theorem costTerms_eq_ok {hire : Family} {es : Entries} {change : Value → Except Fault Value}
    {factor : Int} (hcosts : HasWholeCosts es)
    (hchange : ∀ n, change (.int n) = .ok (.int (factor * n))) {candidates : List Value} :
    ∀ {l : List (Nat × Coefficient)}, costTerms hire candidates (.map es) change = .ok l →
      l = (hireTerms hire candidates es factor).map fun e => (e.1, .whole e.2) := by
  unfold costTerms hireTerms
  induction candidates with
  | nil =>
      intro l h
      obtain ⟨terms, hterms, h⟩ := bind_eq_ok.mp h
      rw [List.mapM_nil, pure_eq_ok] at hterms
      rw [pure_eq_ok, ← hterms] at h
      exact h.symm
  | cons c candidates ih =>
      intro l h
      obtain ⟨terms, hterms, h⟩ := bind_eq_ok.mp h
      rw [List.mapM_cons] at hterms
      obtain ⟨first, hfirst, hterms⟩ := bind_eq_ok.mp hterms
      obtain ⟨rest, hrest, hterms⟩ := bind_eq_ok.mp hterms
      rw [pure_eq_ok] at h hterms
      subst hterms h
      have htail := ih (bind_eq_ok.mpr ⟨rest, hrest, rfl⟩)
      -- a candidate without an entry gives no term, and one with an entry gives its cost, changed
      have hhead : first = (costIn? es c).map fun n => (hire.number [c], .whole (factor * n)) := by
        obtain ⟨cost, hcost, hfirst⟩ := bind_eq_ok.mp hfirst
        cases hcost
        unfold costIn?
        cases hfind : es.find? c with
        | none =>
            rw [hfind, pure_eq_ok] at hfirst
            exact hfirst.symm
        | some v =>
            obtain ⟨e, he, rfl⟩ := Option.map_eq_some_iff.mp hfind
            obtain ⟨n, hn⟩ := hcosts e (List.mem_of_find?_eq_some he)
            rw [hfind] at hfirst
            obtain ⟨changed, hchanged, hfirst⟩ := bind_eq_ok.mp hfirst
            rw [hn, hchange] at hchanged
            cases hchanged
            obtain ⟨coefficient, hcoefficient, hfirst⟩ := bind_eq_ok.mp hfirst
            rw [pure_eq_ok, coefficientOf_int hcoefficient] at hfirst
            rw [hn, ← hfirst]
            rfl
      rw [List.filterMap_cons, List.filterMap_cons, hhead, htail]
      cases costIn? es c <;> rfl

/-! ## Whoever is used -/

section

variable (x : Value → Value → Value → Int) (ix : Indexes)

/-- The candidate has anything to do. -/
def IsUsed (candidate : Value) : Prop := ∃ d ∈ ix.days, Works x ix candidate d

instance (candidate : Value) : Decidable (IsUsed x ix candidate) :=
  inferInstanceAs (Decidable (∃ d ∈ ix.days, ∃ k ∈ ix.skills, x candidate d k = 1))

/-- What the candidates cost who have anything to do, counted at each place in the list. -/
def usedCost (es : Entries) : Int :=
  (ix.candidates.map fun c => if IsUsed x ix c then costIn es c else 0).sum

end

/-- Candidates that are the same are used together. -/
theorem IsUsed.congr {ix : Indexes} (hix : ix.OfMembers) {assign : Family} {v : Valuation}
    {c c' : Value} (hc : c ∈ ix.candidates) (h : c.same c' = true)
    (hused : IsUsed (scheduleOf assign v) ix c) : IsUsed (scheduleOf assign v) ix c' := by
  obtain ⟨d, hd, k, hk, hone⟩ := hused
  refine ⟨d, hd, k, hk, ?_⟩
  rw [← scheduleOf_congr hix hc hd hk h]
  exact hone

end Staffing

/-! ## Goals of hiring -/

namespace Build

open Staffing (Problem indexesOf HasWholeCosts hireTerms costTerms_eq_ok)

/-- The goal of a specification is the cost of hiring, so many times: it is the goal of the template,
or that of an override with a factor. -/
inductive PaysForHiring (s : Specification) : Int → Prop where
  | template (hgoal : s.overridesFor "objective" = []) : PaysForHiring s 1
  | times {o : Override} {os : List Override} {k : Int}
      (hgoal : s.overridesFor "objective" = o :: os) (htarget : o.target = "minimize_cost")
      (hfactor : o.args.find? "multiplier" = some (.int k)) (hk : 0 < k) : PaysForHiring s k

theorem PaysForHiring.pos {s : Specification} {k : Int} (h : PaysForHiring s k) : 0 < k := by
  cases h with
  | template => exact Int.one_pos
  | times hgoal htarget hfactor hk => exact hk

theorem PaysForHiring.congr {s t : Specification} {k : Int} (h : PaysForHiring s k)
    (hoverrides : t.overrides = s.overrides) : PaysForHiring t k := by
  have hsame : t.overridesFor "objective" = s.overridesFor "objective" := by
    unfold Specification.overridesFor
    rw [hoverrides]
  cases h with
  | template hgoal => exact .template (hsame.trans hgoal)
  | times hgoal htarget hfactor hk => exact .times (hsame.trans hgoal) htarget hfactor hk

/-- A goal of costs is not that of a balanced workload. -/
theorem PaysForHiring.target_ne {s : Specification} {k : Int} (h : PaysForHiring s k) :
    ∀ o ∈ (s.overridesFor "objective").head?, o.target ≠ "balance_workload" := by
  intro o ho
  cases h with
  | template hgoal =>
      rw [hgoal] at ho
      cases ho
  | times hgoal htarget =>
      rw [hgoal] at ho
      cases ho
      rw [htarget]
      decide

/-- Constraint overrides leave the goal alone. So the goal is the one that the template sets, or
that of the first override for it. -/
theorem objective_of_constraint {name : String} {rule : Rule Model}
    (hrule : builtins.constraint name = .ok rule) {m m' : Model} {s : Specification}
    {args : Arguments} (h : rule m s args = .ok m') : m'.objective = m.objective := by
  -- each of the three returns the model as it is, or with constraints
  rcases constraint_builtins hrule with ⟨-, rfl⟩ | ⟨-, rfl⟩ | ⟨-, rfl⟩
  · unfold Staffing.timeWindow at h
    obtain ⟨candidate, -, h⟩ := bind_eq_ok.mp h
    obtain ⟨first, -, h⟩ := bind_eq_ok.mp h
    obtain ⟨last, -, h⟩ := bind_eq_ok.mp h
    split at h
    · rw [← pure_eq_ok.mp h]
    · obtain ⟨assign, -, h⟩ := bind_eq_ok.mp h
      obtain ⟨candidates, -, h⟩ := bind_eq_ok.mp h
      dsimp only at h
      split at h
      · obtain ⟨_, hthrow, -⟩ := bind_eq_ok.mp h
        exact absurd hthrow throw_ne_ok
      · obtain ⟨ix, -, h⟩ := bind_eq_ok.mp h
        rw [← pure_eq_ok.mp h]
        split <;> rfl
  · unfold Staffing.consecutiveDays at h
    obtain ⟨most, -, h⟩ := bind_eq_ok.mp h
    split at h
    · rw [← pure_eq_ok.mp h]
    · obtain ⟨assign, -, h⟩ := bind_eq_ok.mp h
      obtain ⟨ix, -, h⟩ := bind_eq_ok.mp h
      rw [← pure_eq_ok.mp h]
      rfl
  · unfold Staffing.restDays at h
    obtain ⟨rest, -, h⟩ := bind_eq_ok.mp h
    split at h
    · rw [← pure_eq_ok.mp h]
    · obtain ⟨assign, -, h⟩ := bind_eq_ok.mp h
      obtain ⟨ix, -, h⟩ := bind_eq_ok.mp h
      rw [← pure_eq_ok.mp h]
      rfl

/-- So do all of them together. Induction on the overrides. -/
theorem objective_of_constraints {s : Specification} (os : List Override) :
    ∀ {b b' : Built Model}, os.foldlM (applyOverride builtins.constraint s) b = .ok b' →
      b'.handle.objective = b.handle.objective := by
  induction os with
  | nil =>
      intro b b' h
      rw [List.foldlM_nil, pure_eq_ok] at h
      rw [h]
  | cons o os ih =>
      intro b b' h
      rw [List.foldlM_cons] at h
      obtain ⟨mid, hmid, h⟩ := bind_eq_ok.mp h
      obtain ⟨rule, hrule, hhandle, -⟩ := applyOverride_eq_ok hmid
      exact (ih h).trans (objective_of_constraint hrule hhandle)

/-- A problem has the costs that were loaded. -/
theorem cost_of_ofSpecification {s : Specification} {p : Problem} {v : Value}
    (hp : Problem.ofSpecification s = .ok p) (hcost : s.loadedData "cost_month" = .ok v) :
    p.cost = some v := by
  have hread := (Problem.ofSpecification_eq_ok_iff.mp hp).cost
  rw [Staffing.declaredCost_of_loadedData hcost] at hread
  exact (Except.ok.inj hread).symm

/-- The goal of the template is the cost of hiring. -/
theorem objective_of_model {p : Problem} {m : Model} {es : Entries} (hcosts : HasWholeCosts es)
    (hcost : p.cost = some (.map es)) (hmodel : p.model = .ok m) :
    m.objective = some ⟨.minimize, "work_scheduling",
      (hireTerms p.hire p.candidates es 1).map fun e => (e.1, .whole e.2)⟩ := by
  unfold Problem.model at hmodel
  obtain ⟨goal, hgoal, hmodel⟩ := bind_eq_ok.mp hmodel
  unfold Problem.goal at hgoal
  rw [hcost] at hgoal
  rw [← pure_eq_ok.mp hmodel, costTerms_eq_ok hcosts (fun n => by rw [Int.one_mul]; rfl) hgoal]

/-- The goal of an override for costs is the cost of hiring with the factor of the override. -/
theorem objective_of_minimizeCost {m m' : Model} {s : Specification} {args : Arguments} {k : Int}
    {hire : Family} {candidates : List Value} {es : Entries} (hcosts : HasWholeCosts es)
    (hcost : s.loadedData "cost_month" = .ok (.map es)) (hhire : m.family "hire" = .ok hire)
    (hcandidates : s.indexValues "candidates" = .ok candidates)
    (hfactor : args.find? "multiplier" = some (.int k))
    (h : Staffing.minimizeCost m s args = .ok m') :
    m'.objective = some ⟨.minimize, "minimize_cost",
      (hireTerms hire candidates es k).map fun e => (e.1, .whole e.2)⟩ := by
  unfold Staffing.minimizeCost at h
  rw [Staffing.contains_of_loadedData hcost, Staffing.hasFamily_of_family hhire, hcost, hhire,
    hcandidates] at h
  obtain ⟨factor, hread, h⟩ := bind_eq_ok.mp h
  -- the factor is the one that the override gives, once it has been checked to be a number
  have hgiven : factor = .int k := by
    have hread := Staffing.asArgument_eq_ok.mp hread
    unfold Arguments.optional at hread
    rw [hfactor] at hread
    exact (Staffing.checked_eq_ok hread).1
  rw [hgiven] at h
  obtain ⟨cost, hcost, h⟩ := bind_eq_ok.mp h
  cases hcost
  obtain ⟨family, hfamily, h⟩ := bind_eq_ok.mp h
  cases hfamily
  obtain ⟨listed, hlisted, h⟩ := bind_eq_ok.mp h
  cases hlisted
  obtain ⟨terms, hterms, h⟩ := bind_eq_ok.mp h
  rw [← pure_eq_ok.mp h, costTerms_eq_ok hcosts (fun _ => rfl) (Staffing.asFault_eq_ok.mp hterms)]
  rfl

/-- The finished model has the cost of hiring as its goal, so many times. Either the template sets
it, with the factor one, or an override does. -/
theorem objective_of_assemble {s : Specification} {b : Built Model} {p : Problem} {es : Entries}
    {k : Int} (htemplate : s.template = "work_scheduling")
    (hcost : s.loadedData "cost_month" = .ok (.map es)) (hcosts : HasWholeCosts es)
    (hgoal : PaysForHiring s k) (hp : Problem.ofSpecification s = .ok p)
    (h : assemble builtins s = .ok b) :
    ∃ source, b.handle.objective = some ⟨.minimize, source,
      (hireTerms p.hire p.candidates es k).map fun e => (e.1, .whole e.2)⟩ := by
  unfold assemble at h
  obtain ⟨template, hfound, h⟩ := bind_eq_ok.mp h
  obtain ⟨m, hm, h⟩ := bind_eq_ok.mp h
  obtain ⟨mid, hmid, h⟩ := bind_eq_ok.mp h
  have hfound := mapError_eq_ok.mp hfound
  rw [htemplate] at hfound
  rw [(template_builtins hfound).2] at hm
  obtain ⟨p', hp', hmodel⟩ := workScheduling_eq_ok (mapError_eq_ok.mp hm)
  rw [hp] at hp'
  cases hp'
  obtain ⟨l, hadds, -⟩ := applyConstraints_adds _ (Problem.family_model hmodel).1 hmid
  -- the constraints keep the goal that the template has set
  have hkept := objective_of_constraints _ hmid
  -- without an override it is still there, and otherwise the first override replaces it
  cases hgoal with
  | template hnone =>
      rw [hnone, pure_eq_ok] at h
      rw [← h, hkept]
      exact ⟨_, objective_of_model hcosts (cost_of_ofSpecification hp hcost) hmodel⟩
  | @times o os k hfirst htarget hfactor hk =>
      rw [hfirst] at h
      obtain ⟨rule, hrule, hhandle, -⟩ := applyOverride_eq_ok h
      rw [htarget] at hrule
      cases hrule
      have hhire : mid.handle.family "hire" = .ok p.hire := by
        rw [hadds.family]
        exact (Problem.family_model hmodel).2
      have hcandidates : s.indexValues "candidates" = .ok p.candidates := by
        obtain ⟨candidates, hread, hix⟩ := bind_eq_ok.mp (Staffing.indexes_of_ofSpecification hp)
        obtain ⟨days, -, hix⟩ := bind_eq_ok.mp hix
        obtain ⟨skills, -, hix⟩ := bind_eq_ok.mp hix
        cases pure_eq_ok.mp hix
        exact Staffing.asFault_eq_ok.mp hread
      exact ⟨_, objective_of_minimizeCost hcosts hcost hhire hcandidates hfactor hhandle⟩

end Build

end Rostering
