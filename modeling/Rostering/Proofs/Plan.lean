import Rostering.Proofs.Coverage
import Rostering.Proofs.Model.Key
import Rostering.Proofs.Staffing.Workdays

/-!
# Models without variables of a goal

Before a goal adds variables of its own, a model that was built has two families of zeros and ones,
and nothing else. Its constraints look at no other variables, and they look at the variables for
hiring only to see that whoever works is hired. So other values of the variables can be exchanged
for the given ones, as long as the schedule stays the same.

## The architecture

* **`Staffing.Agree`** — two schedules that say the same of all that is listed. They keep to the same
  overrides (`Agree.keeps`) and cover the same demand (`Agree.isCovering`).
* **`Build.Plans`** — what is to be known of a model that was built with any constraint overrides
  (`Build.assemble_plans`).
* **`Build.Plans.isFeasible_iff`** — a feasible valuation is one of zeros and ones whose schedule does
  what the specification declares.
* **`Build.Plans.holds_of_agree`** — other values satisfy the constraints too if they stand for the
  same schedule and hire whoever works.
-/

namespace Rostering

/-- One value for all variables is feasible if it is within all bounds and satisfies the constraints. -/
theorem Model.isFeasible_of_constant {m : Model} {n : Int}
    (hvars : ∀ x ∈ m.vars, x.lower ≤ n ∧ n ≤ x.upper)
    (hholds : ∀ c ∈ m.constraints, c.Holds fun _ => n) : m.IsFeasible fun _ => n :=
  ⟨fun _ x hx => (hvars x (List.mem_of_getElem? hx)).1,
    fun _ x hx => (hvars x (List.mem_of_getElem? hx)).2, hholds⟩

/-- A model that was extended by variables and constraints is satisfied where it was before, with
values for the new variables that are within their bounds and satisfy the new constraints. -/
theorem Model.isFeasible_extended_iff {m m' : Model} {fresh : List Variable} {added : List Constraint}
    (hvars : m'.vars = m.vars ++ fresh) (hconstraints : m'.constraints = m.constraints ++ added)
    (v : Valuation) : m'.IsFeasible v ↔ m.IsFeasible v
      ∧ (∀ i x, fresh[i]? = some x →
        x.lower ≤ v (m.vars.length + i) ∧ v (m.vars.length + i) ≤ x.upper)
      ∧ ∀ c ∈ added, c.Holds v := by
  constructor
  · rintro ⟨hlower, hupper, hholds⟩
    rw [hvars] at hlower hupper
    rw [hconstraints, List.forall_mem_append] at hholds
    -- the variables from before keep their numbers, for the new ones are put behind them
    have hkept : ∀ (n : Nat) x, m.vars[n]? = some x → (m.vars ++ fresh)[n]? = some x := by
      intro n x hx
      rw [List.getElem?_append_left (List.getElem?_eq_some_iff.mp hx).1, hx]
    refine ⟨⟨fun n x hx => hlower n x (hkept n x hx), fun n x hx => hupper n x (hkept n x hx),
      hholds.1⟩, fun i x hx => ?_, hholds.2⟩
    -- the i-th new variable stands at the length of the old list and i
    have hnew : (m.vars ++ fresh)[m.vars.length + i]? = some x := by
      rw [List.getElem?_append_right (Nat.le_add_right _ _), Nat.add_sub_cancel_left, hx]
    exact ⟨hlower _ x hnew, hupper _ x hnew⟩
  · rintro ⟨hold, hnew, hadded⟩
    have hboth : ∀ (n : Nat) x, (m.vars ++ fresh)[n]? = some x → x.lower ≤ v n ∧ v n ≤ x.upper := by
      intro n x hx
      -- a number belongs to an old variable or to a new one
      by_cases hn : n < m.vars.length
      · rw [List.getElem?_append_left hn] at hx
        exact ⟨hold.lower_le n x hx, hold.le_upper n x hx⟩
      · rw [List.getElem?_append_right (by omega)] at hx
        have hbounds := hnew _ x hx
        rwa [show m.vars.length + (n - m.vars.length) = n by omega] at hbounds
    refine ⟨fun n x hx => (hboth n x (hvars ▸ hx)).1, fun n x hx => (hboth n x (hvars ▸ hx)).2, ?_⟩
    rw [hconstraints, List.forall_mem_append]
    exact ⟨hold.holds, hadded⟩

namespace Staffing

/-! ## Schedules that agree -/

/-- All members of the indexes of a schedule are texts and days. -/
structure Indexes.OfMembers (ix : Indexes) : Prop where
  candidates : ∀ c ∈ ix.candidates, c.IsMember
  days : ∀ d ∈ ix.days, d.IsMember
  skills : ∀ k ∈ ix.skills, k.IsMember

/-- A window is asked of a candidate who is listed. -/
def NamesListed (ix : Indexes) (o : Override) : Prop :=
  o.target = "time_window" → ∀ candidate, o.args.find? "candidate" = some candidate →
    candidate ∈ ix.candidates

/-- Two schedules say the same of all candidates, days and skills that are listed. -/
def Agree (x y : Value → Value → Value → Int) (ix : Indexes) : Prop :=
  ∀ c ∈ ix.candidates, ∀ d ∈ ix.days, ∀ k ∈ ix.skills, x c d k = y c d k

namespace Agree

variable {x y : Value → Value → Value → Int} {ix : Indexes}

theorem load_eq (h : Agree x y ix) {c d : Value} (hc : c ∈ ix.candidates) (hd : d ∈ ix.days) :
    load x ix.skills c d = load y ix.skills c d := by
  unfold load
  rw [List.map_congr_left fun k hk => h c hc d hd k hk]

/-- The work over some of the days is the same. -/
theorem sum_load_eq (h : Agree x y ix) {c : Value} (hc : c ∈ ix.candidates) {days : List Value}
    (hdays : days ⊆ ix.days) :
    (days.map (load x ix.skills c)).sum = (days.map (load y ix.skills c)).sum := by
  rw [List.map_congr_left fun d hd => h.load_eq hc (hdays hd)]

/-- Schedules that agree keep to the same overrides. An override that names a candidate outside of
the index would be kept or broken by values that the schedules need not share. -/
theorem keeps (h : Agree x y ix) {o : Override} (ho : NamesListed ix o) (hx : Keeps x ix o) :
    Keeps y ix o := by
  unfold Keeps at hx ⊢
  -- one case for each override that is known, and each speaks of listed candidates, days and skills
  -- only; a window names its candidate by itself, hence `NamesListed`
  split at hx
  · next htarget =>
      intro candidate hcandidate d hd hout k hk
      rw [← h candidate (ho htarget candidate hcandidate) d hd k hk]
      exact hx candidate hcandidate d hd hout k hk
  · intro c hc i hi
    -- the days of a streak are days of the plan
    have hslice : (ix.days.drop i).take
        ((wholeOr o.args "max_consecutive" Settings.consecutiveDays).toNat + 1) ⊆ ix.days :=
      fun d hd => List.mem_of_mem_drop (List.mem_of_mem_take hd)
    rw [← h.sum_load_eq hc hslice]
    exact hx c hc i hi
  · intro c hc i r first between last hlow hhigh hfirst hbetween hlast
    rw [← h.load_eq hc (List.mem_of_getElem? hfirst), ← h.load_eq hc (List.mem_of_getElem? hlast),
      ← h.load_eq hc (List.mem_of_getElem? hbetween)]
    exact hx c hc i r first between last hlow hhigh hfirst hbetween hlast
  · trivial

/-- Schedules that agree cover the same demand, if whoever works is hired. -/
theorem isCovering {s : Specification} (h : Agree x y (indexesOf s)) {hired hired' : Value → Int}
    (hemployed : ∀ c ∈ (indexesOf s).candidates, ∀ d ∈ (indexesOf s).days,
      ∀ k ∈ (indexesOf s).skills, y c d k ≤ hired' c)
    (hx : IsCovering x s hired) : IsCovering y s hired' where
  covers scenario d skill n hscenario hd hk hn := by
    -- the demand compares a sum over all candidates
    have hsum := hx.covers scenario d skill n hscenario hd hk hn
    rw [List.map_congr_left fun c hc => h c hc d hd _ hk] at hsum
    exact hsum
  eligible c hc d hd k hk hgrant := by
    rw [← h c hc d hd k hk]
    exact hx.eligible c hc d hd k hk hgrant
  employed := hemployed
  daily c hc d hd := by
    rw [← h.load_eq hc hd]
    exact hx.daily c hc d hd

end Agree

/-- A problem that could be read has all indexes of a schedule. -/
theorem indexes_of_ofSpecification {s : Specification} {p : Problem}
    (h : Problem.ofSpecification s = .ok p) :
    Indexes.ofSpecification s = .ok ⟨p.candidates, p.days, p.skills⟩ := by
  have hp := Problem.ofSpecification_eq_ok_iff.mp h
  unfold Indexes.ofSpecification
  rw [hp.days, hp.candidates, hp.skills]
  rfl

/-- Candidates that are the same have the same assignments. -/
theorem scheduleOf_congr {ix : Indexes} (hix : ix.OfMembers) {assign : Family} {v : Valuation}
    {c c' d k : Value} (hc : c ∈ ix.candidates) (hd : d ∈ ix.days) (hk : k ∈ ix.skills)
    (h : c.same c' = true) : scheduleOf assign v c d k = scheduleOf assign v c' d k := by
  have hkey : Value.sameItems [c, d, k] [c', d, k] = true := by
    simp only [Value.sameItems, h, (hix.days d hd).same_self, (hix.skills k hk).same_self,
      Bool.and_self]
  have hmembers : ∀ u ∈ [c, d, k], u.IsMember := by
    simpa using ⟨hix.candidates c hc, hix.days d hd, hix.skills k hk⟩
  exact congrArg v (assign.number_congr hmembers hkey)

/-- A rule for time windows has found its candidate among those who are listed. -/
theorem namesListed_of_timeWindow {m m' : Model} {s : Specification} {o : Override} {assign : Family}
    (hassign : m.family "assign" = .ok assign) (h : timeWindow m s o.args = .ok m') :
    NamesListed (indexesOf s) o := by
  intro _ candidate hcandidate
  unfold timeWindow at h
  obtain ⟨found, hfound, h⟩ := bind_eq_ok.mp h
  obtain ⟨first, -, h⟩ := bind_eq_ok.mp h
  obtain ⟨last, -, h⟩ := bind_eq_ok.mp h
  rw [hasFamily_of_family hassign] at h
  obtain ⟨f, -, h⟩ := bind_eq_ok.mp h
  obtain ⟨candidates, hcandidates, h⟩ := bind_eq_ok.mp h
  have hfound := asArgument_eq_ok.mp hfound
  have hgiven : found = candidate := by
    have hsame := require_eq_ok hfound
    rw [hcandidate] at hsame
    exact (Option.some.inj hsame).symm
  -- the argument is a text, and a text is the same as no other value
  obtain ⟨name, rfl⟩ : ∃ name, candidate = .str name := by
    unfold Arguments.require at hfound
    split at hfound
    · exact absurd hfound throw_ne_ok
    · obtain ⟨-, hholds⟩ := checked_eq_ok hfound
      rw [hgiven.symm.trans (checked_eq_ok hfound).1]
      next w _ =>
        cases w with
        | str name => exact ⟨name, rfl⟩
        | _ => simp [ArgumentType.holds] at hholds
  dsimp only at h
  split at h
  · obtain ⟨_, hthrow, -⟩ := bind_eq_ok.mp h
    exact absurd hthrow throw_ne_ok
  · next hany =>
      rw [Bool.not_eq_true, Bool.not_eq_false', List.any_eq_true, hgiven] at hany
      obtain ⟨c, hc, hsame⟩ := hany
      have hlisted : (indexesOf s).candidates = candidates :=
        indexValues_eq_ok (asFault_eq_ok.mp hcandidates) []
      rw [hlisted]
      cases c with
      | str other =>
          rw [Value.same, beq_iff_eq] at hsame
          exact hsame ▸ hc
      | _ => simp [Value.same] at hsame

end Staffing

namespace Build

open Staffing (Agree NamesListed IsSchedule Problem indexesOf scheduleOf)

/-! ## Overrides -/

section

variable {s : Specification} {assign : Family}

/-- Every window that was applied is asked of a candidate who is listed. Induction on the overrides
that are left; what carries it is that the family of assignments stays the same. -/
theorem namesListed_of_applied (os : List Override) :
    ∀ {b b' : Built Model}, b.handle.family "assign" = .ok assign →
      os.foldlM (applyOverride builtins.constraint s) b = .ok b' →
      ∀ o ∈ os, NamesListed (indexesOf s) o := by
  induction os with
  | nil => exact fun _ _ o ho => absurd ho List.not_mem_nil
  | cons first os ih =>
      intro b b' hassign h
      rw [List.foldlM_cons] at h
      obtain ⟨mid, hmid, h⟩ := bind_eq_ok.mp h
      -- whatever the first override adds, it registers no family
      obtain ⟨l, hadds, -⟩ := applyConstraint_adds hassign hmid
      have hassign' : mid.handle.family "assign" = .ok assign := by
        rw [hadds.family, hassign]
      refine List.forall_mem_cons.mpr ⟨?_, ih hassign' h⟩
      obtain ⟨rule, hrule, hhandle, -⟩ := applyOverride_eq_ok hmid
      -- of the three constraints, only the window names a candidate
      rcases constraint_builtins hrule with ⟨-, rfl⟩ | ⟨htarget, -⟩ | ⟨htarget, -⟩
      · exact Staffing.namesListed_of_timeWindow hassign hhandle
      · exact fun hwindow => absurd (htarget.symm.trans hwindow) (by decide)
      · exact fun hwindow => absurd (htarget.symm.trans hwindow) (by decide)

/-- So is every window of a specification that was built. -/
theorem assemble_namesListed {b : Built Model} (htemplate : s.template = "work_scheduling")
    (h : assemble builtins s = .ok b) :
    ∀ o ∈ s.overridesFor "constraints", NamesListed (indexesOf s) o := by
  unfold assemble at h
  obtain ⟨template, hfound, h⟩ := bind_eq_ok.mp h
  obtain ⟨m, hm, h⟩ := bind_eq_ok.mp h
  obtain ⟨mid, hmid, h⟩ := bind_eq_ok.mp h
  have hfound := mapError_eq_ok.mp hfound
  rw [htemplate] at hfound
  rw [(template_builtins hfound).2] at hm
  obtain ⟨p, hp, hmodel⟩ := workScheduling_eq_ok (mapError_eq_ok.mp hm)
  exact namesListed_of_applied _ (Problem.family_model hmodel).1 hmid

end

/-- The members of a specification that was read are texts and days. -/
theorem ofMembers_of_wellFormed {s : Specification} (hs : s.WellFormed) :
    (indexesOf s).OfMembers :=
  ⟨fun _ hc => isMember_of_mem_membersOf hs hc, fun _ hd => isMember_of_mem_membersOf hs hd,
    fun _ hk => isMember_of_mem_membersOf hs hk⟩

/-! ## Models without variables of a goal -/

/-- A model of two families of zeros and ones, whose constraints ask for a schedule that does what
the specification declares. -/
structure Plans (s : Specification) (m : Model) (assign hire : Family) : Prop where
  families : m.families = Named.ofList [("assign", assign), ("hire", hire)]
  zeroOne : ∀ x ∈ m.vars, x.lower = 0 ∧ x.upper = 1
  created : ∀ n ∈ assign.numbers ++ hire.numbers, n < m.vars.length
  distinct : (assign.numbers ++ hire.numbers).Nodup
  assigns : ∀ c ∈ (indexesOf s).candidates, ∀ d ∈ (indexesOf s).days, ∀ k ∈ (indexesOf s).skills,
    (assign.find? [c, d, k]).isSome = true
  hires : ∀ c ∈ (indexesOf s).candidates, (hire.find? [c]).isSome = true
  holds_iff : ∀ v, (∀ c ∈ m.constraints, c.Holds v) ↔
    IsSchedule (scheduleOf assign v) s fun c => v (hire.number [c])
  listed : ∀ o ∈ s.overridesFor "constraints", NamesListed (indexesOf s) o

/-- A model that was built with any constraint overrides, and with a goal that brings no variables of
its own, is of this kind. -/
theorem assemble_plans {s : Specification} {b : Built Model}
    (hmembers : (indexesOf s).OfMembers) (htemplate : s.template = "work_scheduling")
    (hgoal : ∀ o ∈ (s.overridesFor "objective").head?, o.target ≠ "balance_workload")
    (h : assemble builtins s = .ok b) :
    ∃ p m, Problem.ofSpecification s = .ok p ∧ p.model = .ok m ∧ Problem.Reads p s
      ∧ Plans s b.handle p.assign p.hire := by
  obtain ⟨p, m, added, hp, hmodel, hadds, hadded⟩ := assemble_adds htemplate hgoal h
  have hreads := Staffing.Problem.reads_of_ofSpecification hp
  have hix := hreads.indexes
  -- what the goal and the overrides add are constraints; the variables and families are those of
  -- the problem
  refine ⟨p, m, hp, hmodel, hreads,
    { families := hadds.families.trans (Problem.model_eq_ok hmodel).2.1
      zeroOne := ?_
      created := ?_
      distinct := p.nodup_numbers
      assigns := ?_
      hires := ?_
      holds_iff := ?_
      listed := assemble_namesListed htemplate h }⟩
  · rw [hadds.vars, (Problem.model_eq_ok hmodel).1]
    intro x hx
    cases List.mem_append.mp hx with
    | inl hassign =>
        obtain ⟨key, -, rfl⟩ := List.mem_map.mp hassign
        exact ⟨rfl, rfl⟩
    | inr hhire =>
        obtain ⟨key, -, rfl⟩ := List.mem_map.mp hhire
        exact ⟨rfl, rfl⟩
  · intro n hn
    obtain ⟨name, hname⟩ := Problem.vars_of_mem_numbers hmodel hn
    rw [hadds.vars]
    exact (List.getElem?_eq_some_iff.mp hname).1
  · intro c hc d hd k hk
    have hmember : c.IsMember ∧ d.IsMember ∧ k.IsMember :=
      ⟨hmembers.candidates c hc, hmembers.days d hd, hmembers.skills k hk⟩
    rw [hix] at hc hd hk
    exact Problem.isSome_find?_assign hc hd hk hmember
  · intro c hc
    have hmember := hmembers.candidates c hc
    rw [hix] at hc
    exact Problem.isSome_find?_hire hc hmember
  · intro v
    rw [hadds.constraints, List.forall_mem_append, Problem.holds_model hreads hmodel, hadded]
    exact ⟨fun ⟨hcovering, hkept⟩ => ⟨hcovering, hkept⟩, fun h => ⟨h.toIsCovering, h.kept⟩⟩

namespace Plans

variable {s : Specification} {m : Model} {assign hire : Family}

theorem number_assign_mem (h : Plans s m assign hire) {c d k : Value}
    (hc : c ∈ (indexesOf s).candidates) (hd : d ∈ (indexesOf s).days)
    (hk : k ∈ (indexesOf s).skills) : assign.number [c, d, k] ∈ assign.numbers :=
  Family.number_mem (h.assigns c hc d hd k hk)

theorem number_hire_mem (h : Plans s m assign hire) {c : Value}
    (hc : c ∈ (indexesOf s).candidates) : hire.number [c] ∈ hire.numbers :=
  Family.number_mem (h.hires c hc)

/-- A feasible valuation is one of zeros and ones, and its schedule does what is declared. All
bounds are zero and one, so nothing but the constraints is left. -/
theorem isFeasible_iff (h : Plans s m assign hire) (v : Valuation) :
    m.IsFeasible v ↔ (∀ n < m.vars.length, v n = 0 ∨ v n = 1)
      ∧ IsSchedule (scheduleOf assign v) s fun c => v (hire.number [c]) := by
  rw [← h.holds_iff]
  constructor
  · intro hv
    refine ⟨fun n hn => ?_, hv.holds⟩
    -- the bounds of a variable leave it zero and one
    have hx : m.vars[n]? = some m.vars[n] := List.getElem?_eq_getElem hn
    obtain ⟨hlower, hupper⟩ := h.zeroOne _ (List.getElem_mem hn)
    have hleast := hv.lower_le n _ hx
    have hmost := hv.le_upper n _ hx
    omega
  · rintro ⟨hzeroOne, hholds⟩
    -- zero and one are within the bounds again
    have hbounds : ∀ n x, m.vars[n]? = some x → x.lower ≤ v n ∧ v n ≤ x.upper := by
      intro n x hx
      obtain ⟨hn, hx⟩ := List.getElem?_eq_some_iff.mp hx
      obtain ⟨hlower, hupper⟩ := h.zeroOne x (hx ▸ List.getElem_mem hn)
      have hvalue := hzeroOne n hn
      omega
    exact ⟨fun n x hx => (hbounds n x hx).1, fun n x hx => (hbounds n x hx).2, hholds⟩

/-- The constraints look at the values of the schedule, and see that whoever works is hired. -/
theorem holds_of_agree (h : Plans s m assign hire) {v w : Valuation}
    (hagree : ∀ n ∈ assign.numbers, w n = v n)
    (hemployed : ∀ c ∈ (indexesOf s).candidates, ∀ d ∈ (indexesOf s).days,
      ∀ k ∈ (indexesOf s).skills, w (assign.number [c, d, k]) ≤ w (hire.number [c]))
    (hv : ∀ c ∈ m.constraints, c.Holds v) : ∀ c ∈ m.constraints, c.Holds w := by
  rw [h.holds_iff] at hv ⊢
  have hsame : Agree (scheduleOf assign v) (scheduleOf assign w) (indexesOf s) :=
    fun c hc d hd k hk => (hagree _ (h.number_assign_mem hc hd hk)).symm
  exact ⟨hsame.isCovering hemployed hv.toIsCovering,
    fun o ho => hsame.keeps (h.listed o ho) (hv.kept o ho)⟩

/-- They look at no variables outside of the two families. -/
theorem holds_congr (h : Plans s m assign hire) {v w : Valuation}
    (hagree : ∀ n ∈ assign.numbers ++ hire.numbers, w n = v n)
    (hv : ∀ c ∈ m.constraints, c.Holds v) : ∀ c ∈ m.constraints, c.Holds w := by
  refine h.holds_of_agree (fun n hn => hagree n (List.mem_append_left _ hn)) ?_ hv
  intro c hc d hd k hk
  rw [hagree _ (List.mem_append_left _ (h.number_assign_mem hc hd hk)),
    hagree _ (List.mem_append_right _ (h.number_hire_mem hc))]
  exact ((h.holds_iff v).mp hv).employed c hc d hd k hk

end Plans

end Build

end Rostering
