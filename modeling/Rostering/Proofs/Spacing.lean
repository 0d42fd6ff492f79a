import Rostering.Proofs.Coverage
import Rostering.Proofs.Staffing.Rest

/-!
# How far apart working days are

A model that was built with the rule for days of rest keeps the working days of each candidate apart,
by one day more than it was asked for, as long as the index has more than twice as many days as there
are days of rest. On a shorter index it leaves some pairs of days in the middle alone, down to the
whole index if no day is followed by enough others: of two days with one day of rest, both may be
worked.

## The architecture

* **`Build.assemble_keeps`**, **`Build.run_keeps`** — values that satisfy a finished model keep to
  every constraint override, whatever the goal adds.
* **`Build.rested_of_run`** — what lies between two working days, for any number of days.
* **`Build.not_rested_on_two_days`** — one day of rest is asked for, and both of two days are worked.
-/

namespace Rostering.Build

open Staffing (Keeps IsZeroOne Works countArgument scheduleOf indexesOf)

/-! ## Overrides of a finished model -/

/-- Values that satisfy a finished model are those of a schedule that keeps to all constraint
overrides. -/
theorem assemble_keeps {s : Specification} {b : Built Model}
    (htemplate : s.template = "work_scheduling") (h : assemble builtins s = .ok b) :
    ∃ assign, b.handle.family "assign" = .ok assign
      ∧ ∀ v, (∀ c ∈ b.handle.constraints, c.Holds v) → ∀ o ∈ s.overridesFor "constraints",
        Keeps (scheduleOf assign v) (indexesOf s) o := by
  obtain ⟨p, m, mid, added, -, hmodel, hadds, hmeans, hlast⟩ := assemble_eq_ok htemplate h
  -- the goal comes last and takes no constraint away
  have hgrows : mid.handle.Grows b.handle := by
    rcases hlast with rfl | ⟨o, -, happly⟩
    · exact .refl _
    · exact applyObjective_grows happly
  refine ⟨p.assign, hgrows.family _ _ ?_, fun v hholds => (hmeans v).mp fun c hc => ?_⟩
  · rw [hadds.family]
    exact (Staffing.Problem.family_model hmodel).1
  · refine hholds c (hgrows.constraints ?_)
    rw [hadds.constraints]
    exact List.mem_append_right _ hc

/-- Loading the data first makes no difference to the overrides. -/
theorem run_keeps {σ : Type} {l : Loader σ} {w : World σ} {s : Specification} {b : Built Model}
    (htemplate : s.template = "work_scheduling") (hbuild : (run builtins l w s).1 = .ok b) :
    ∃ assign, b.handle.family "assign" = .ok assign
      ∧ ∀ v, (∀ c ∈ b.handle.constraints, c.Holds v) → ∀ o ∈ s.overridesFor "constraints",
        Keeps (scheduleOf assign v) (indexesOf s) o := by
  unfold run at hbuild
  obtain ⟨loaded, hloaded, hassemble⟩ := bind_eq_ok.mp hbuild
  obtain ⟨hsameTemplate, hsameIndexes, hsameOverrides⟩ :=
    Loader.kept_of_materializeAll (mapError_eq_ok.mp hloaded)
  obtain ⟨assign, hassign, hkeeps⟩ := assemble_keeps (hsameTemplate.trans htemplate) hassemble
  refine ⟨assign, hassign, fun v hholds o ho => ?_⟩
  -- loading changes neither indexes nor overrides
  have hindexes : indexesOf loaded = indexesOf s := by
    unfold indexesOf Staffing.membersOf
    rw [hsameIndexes]
  rw [← hindexes]
  refine hkeeps v hholds o ?_
  unfold Specification.overridesFor
  rw [hsameOverrides]
  exact ho

/-! ## Days of rest -/

/-- In a model that was built with a rule for days of rest, two days on which a candidate works have
more days between them than the rule asks for. On an index with at most twice as many days as there
are days of rest this leaves out the pairs of days in its middle: those with too few days behind the
first one, and too few before the second one. -/
theorem rested_of_run {σ : Type} {l : Loader σ} {w : World σ} {s : Specification} {b : Built Model}
    {o : Override} {rest : Nat} (htemplate : s.template = "work_scheduling")
    (hbuild : (run builtins l w s).1 = .ok b) (ho : o ∈ s.overridesFor "constraints")
    (htarget : o.target = "min_rest_days")
    (hcount : countArgument o.args "min_rest" Settings.restDays = .ok rest) (hrest : 1 ≤ rest) :
    ∃ assign, b.handle.family "assign" = .ok assign
      ∧ ∀ v, IsZeroOne (scheduleOf assign v) (indexesOf s) →
        (∀ c ∈ b.handle.constraints, c.Holds v) →
        ∀ c ∈ (indexesOf s).candidates, ∀ i j first second, i < j →
          (indexesOf s).days[i]? = some first → (indexesOf s).days[j]? = some second →
          Works (scheduleOf assign v) (indexesOf s) c first →
          Works (scheduleOf assign v) (indexesOf s) c second →
            i + rest + 1 < j ∨ (indexesOf s).days.length ≤ i + rest + 1 ∧ j ≤ rest := by
  obtain ⟨assign, hassign, hkeeps⟩ := run_keeps htemplate hbuild
  refine ⟨assign, hassign, fun v hv hholds c hc i j first second hij hfirst hsecond hwork hwork' => ?_⟩
  have hkept := hkeeps v hholds o ho
  unfold Keeps at hkept
  rw [htarget] at hkept
  unfold Staffing.KeepsRest at hkept
  rw [← Staffing.countArgument_eq_ok hcount] at hkept
  -- keeping the override means satisfying its constraints, and these keep days apart that they
  -- reach
  have hconstraints := (Staffing.holds_restConstraints assign v (indexesOf s) rest).mpr hkept
  refine (Staffing.keepsApart_of_holds hv hrest hconstraints hc hij hfirst hsecond
    ⟨hwork, hwork'⟩).imp_right fun hfree => ?_
  unfold Staffing.IsCovered at hfree
  omega

/-! ### A desk with a day of rest -/

/-- The days up to the last one, a desk at which Ann is needed on some of them, and a day of rest
between the days that she works. -/
def restedDesk (last : String) (needed : List String) : Entries :=
  Entries.ofFields
    [("template", .str "work_scheduling"),
      ("indexes", .ofFields
        [("days", .ofFields [("type", .str "date_range"), ("start", .str "2025-03-03"),
            ("end", .str last)]),
          ("candidates", Config.listedMembers ["Ann"]), ("skills", Config.listedMembers ["desk"])]),
      ("parameters", .ofFields
        [("demand", Config.inlineTable ["day", "skill", "value"]
            (needed.map fun day => .list [.str day, .str "desk", .int 1])),
          ("candidate_skills", Config.inlineTable ["candidate", "skill"]
            [.list [.str "Ann", .str "desk"]])]),
      ("overrides", .ofFields
        [("constraints", .list [.ofFields [("function", .str "min_rest_days"),
          ("args", .ofFields [("min_rest", .int 1)])]])])]

/-- What a configuration of the desk is read and built to, with values that satisfy the model. -/
structure IsRestedDesk (last : String) (needed : List String) (v : Valuation) (s : Specification)
    (b : Built Model) (o : Override) : Prop where
  accepted : Config.decode (restedDesk last needed) = .ok s
  template : s.template = "work_scheduling"
  builds : (run builtins literalLoader literalWorld s).1 = .ok b
  override_mem : o ∈ s.overridesFor "constraints"
  target : o.target = "min_rest_days"
  rest : countArgument o.args "min_rest" Settings.restDays = .ok 1
  satisfied : ∀ c ∈ b.handle.constraints, c.Holds v
  candidates : (indexesOf s).candidates = [.str "Ann"]
  skills : (indexesOf s).skills = [.str "desk"]

/-- Runs a configuration of the desk through all stages, for days with these labels. -/
def checkRestedDesk (last : String) (needed : List String) (v : Valuation) (labels : List String) :
    Bool :=
  (Config.decode (restedDesk last needed)).toOption.any fun s =>
  (run builtins literalLoader literalWorld s).1.toOption.any fun b =>
  (s.overridesFor "constraints").any fun o =>
  s.template == "work_scheduling" && o.target == "min_rest_days"
    && (countArgument o.args "min_rest" Settings.restDays).toOption == some 1
    && b.handle.constraints.all (fun c => decide (c.Holds v))
    && Config.texts? (.list (indexesOf s).candidates) == some ["Ann"]
    && Config.texts? (.list (indexesOf s).skills) == some ["desk"]
    && (indexesOf s).days.map Value.label == labels

/-- A desk with a rule for rest that was checked to be built is one. -/
theorem exists_isRestedDesk (last : String) (needed : List String) (v : Valuation)
    (labels : List String) (h : checkRestedDesk last needed v labels = true) :
    ∃ s b o, IsRestedDesk last needed v s b o ∧ (indexesOf s).days.map Value.label = labels := by
  unfold checkRestedDesk at h
  simp only [Option.any_eq_true, Bool.and_eq_true, beq_iff_eq, List.all_eq_true,
    decide_eq_true_eq, List.any_eq_true] at h
  obtain ⟨s, hs, b, hb, o, ho,
    ⟨⟨⟨⟨⟨htemplate, htarget⟩, hrest⟩, hholds⟩, hcandidates⟩, hskills⟩, hlabels⟩ := h
  exact ⟨s, b, o,
    { accepted := eq_ok_of_toOption hs
      template := htemplate
      builds := eq_ok_of_toOption hb
      override_mem := ho
      target := htarget
      rest := eq_ok_of_toOption hrest
      satisfied := hholds
      candidates := Value.list.inj (Config.texts?_eq_some hcandidates)
      skills := Value.list.inj (Config.texts?_eq_some hskills) }, hlabels⟩

/-- Three days, of which Ann is needed on the first: she can work then, and on no two days. -/
theorem rested_of_run_of_three_days :
    ∃ s b o, IsRestedDesk "2025-03-05" ["2025-03-03"] (fun n => if n = 0 ∨ n = 3 then 1 else 0) s b o
      ∧ (indexesOf s).days.length = 3
      ∧ ∃ assign, b.handle.family "assign" = .ok assign
        ∧ ∀ v, IsZeroOne (scheduleOf assign v) (indexesOf s) →
          (∀ c ∈ b.handle.constraints, c.Holds v) →
          ∀ (i j : Nat) (first second : Value), i < j → (indexesOf s).days[i]? = some first →
            (indexesOf s).days[j]? = some second →
            ¬ (Works (scheduleOf assign v) (indexesOf s) (.str "Ann") first
              ∧ Works (scheduleOf assign v) (indexesOf s) (.str "Ann") second) := by
  obtain ⟨s, b, o, hdesk, hlabels⟩ := exists_isRestedDesk "2025-03-05" ["2025-03-03"]
    (fun n => if n = 0 ∨ n = 3 then 1 else 0) ["2025-03-03", "2025-03-04", "2025-03-05"]
    (by decide +kernel)
  have hlength : (indexesOf s).days.length = 3 := by
    rw [← List.length_map (f := Value.label), hlabels]
    rfl
  obtain ⟨assign, hassign, hrested⟩ := rested_of_run hdesk.template hdesk.builds hdesk.override_mem
    hdesk.target hdesk.rest le_rfl
  refine ⟨s, b, o, hdesk, hlength, assign, hassign, ?_⟩
  rintro v hv hholds i j first second hij hfirst hsecond ⟨hwork, hwork'⟩
  have hann : Value.str "Ann" ∈ (indexesOf s).candidates := by
    rw [hdesk.candidates]
    exact List.mem_singleton_self _
  -- on three days the exception of the theorem needs more days than there are
  have hspace := hrested v hv hholds _ hann i j first second hij hfirst hsecond hwork hwork'
  have hbound := (List.getElem?_eq_some_iff.mp hsecond).1
  omega

/-- Two days, and Ann is needed on both of them: she works on both, with no day between them. -/
theorem not_rested_on_two_days :
    ∃ s b o assign, IsRestedDesk "2025-03-04" ["2025-03-03", "2025-03-04"] (fun _ => 1) s b o
      ∧ b.handle.family "assign" = .ok assign
      ∧ ∃ v, IsZeroOne (scheduleOf assign v) (indexesOf s) ∧ (∀ c ∈ b.handle.constraints, c.Holds v)
        ∧ ∃ c ∈ (indexesOf s).candidates, ∃ (i j : Nat) (first second : Value), i < j
          ∧ (indexesOf s).days[i]? = some first ∧ (indexesOf s).days[j]? = some second
          ∧ first.label ≠ second.label
          ∧ Works (scheduleOf assign v) (indexesOf s) c first
          ∧ Works (scheduleOf assign v) (indexesOf s) c second
          ∧ ¬ 1 < j - i := by
  obtain ⟨s, b, o, hdesk, hlabels⟩ := exists_isRestedDesk "2025-03-04"
    ["2025-03-03", "2025-03-04"] (fun _ => 1) ["2025-03-03", "2025-03-04"] (by decide +kernel)
  obtain ⟨assign, hassign, -⟩ := run_keeps hdesk.template hdesk.builds
  -- everybody works all the time, and the model is satisfied all the same
  have hworks : ∀ d, Works (scheduleOf assign fun _ => 1) (indexesOf s) (.str "Ann") d := fun d =>
    ⟨.str "desk", by rw [hdesk.skills]; exact List.mem_singleton_self _, rfl⟩
  obtain ⟨first, second, hdays⟩ := List.length_eq_two.mp
    (show (indexesOf s).days.length = 2 by rw [← List.length_map (f := Value.label), hlabels]; rfl)
  refine ⟨s, b, o, assign, hdesk, hassign, fun _ => 1,
    Staffing.isZeroOne_of_forall (fun _ => Or.inr rfl) _ _, hdesk.satisfied, .str "Ann", ?_, 0, 1,
    first, second, by decide, ?_, ?_, ?_, hworks _, hworks _, by decide⟩
  · rw [hdesk.candidates]
    exact List.mem_singleton_self _
  · rw [hdays]
    rfl
  · rw [hdays]
    rfl
  · rw [hdays] at hlabels
    simp only [List.map_cons, List.map_nil, List.cons.injEq] at hlabels
    rw [hlabels.1, hlabels.2.1]
    decide

end Rostering.Build
