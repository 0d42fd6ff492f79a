import Rostering.Proofs.Staffing.Rules

/-!
# Days on which candidates work

A schedule of zeros and ones says of each candidate on which days there is work to do. The rule for
days in a row bounds the work in every stretch of days; this module says what that means for the days
themselves, for any number of days, candidates and skills.

## The architecture

* **`IsZeroOne`**, **`Works`** — each work is done once or not at all, and a day with work.
* **`IsZeroOne.one_le_load_iff`** — a day carries some work exactly when it is a day with work.
* **`IsZeroOne.length_le_sum`**, **`IsZeroOne.sum_lt_length`** — what a stretch of days carries, from
  below if all its days have work, and from above if one has none and there is one skill only.
* **`consecutiveDays_excludes_streaks`** — the constraints of the rule exclude every streak that is
  too long; with one skill they exclude nothing else.
-/

namespace Rostering.Staffing

/-! ## Schedules of zeros and ones -/

section

variable (x : Value → Value → Value → Int) (ix : Indexes)

/-- Every candidate does each work on each day once or not at all. -/
def IsZeroOne : Prop :=
  ∀ c ∈ ix.candidates, ∀ d ∈ ix.days, ∀ k ∈ ix.skills, x c d k = 0 ∨ x c d k = 1

/-- The candidate has some work to do on the day. -/
def Works (candidate day : Value) : Prop := ∃ k ∈ ix.skills, x candidate day k = 1

/-- The candidate works on so many days in a row. -/
def HasStreak (candidate : Value) (length : Nat) : Prop :=
  ∃ i, i + length ≤ ix.days.length ∧ ∀ d ∈ (ix.days.drop i).take length, Works x ix candidate d

end

/-- Values of zero and one make such a schedule. -/
theorem isZeroOne_of_forall {v : Valuation} (hv : ∀ n, v n = 0 ∨ v n = 1) (assign : Family)
    (ix : Indexes) : IsZeroOne (scheduleOf assign v) ix := fun _ _ _ _ _ _ => hv _

namespace IsZeroOne

variable {x : Value → Value → Value → Int} {ix : Indexes} (hx : IsZeroOne x ix) {c d : Value}
  (hc : c ∈ ix.candidates)
include hx hc

theorem load_eq (hd : d ∈ ix.days) :
    load x ix.skills c d = (ix.skills.filter fun k => x c d k = 1).length :=
  sum_eq_length_filter fun k hk => hx c hc d hd k hk

theorem load_nonneg (hd : d ∈ ix.days) : 0 ≤ load x ix.skills c d := by
  rw [hx.load_eq hc hd]
  exact Int.natCast_nonneg _

theorem load_le (hd : d ∈ ix.days) : load x ix.skills c d ≤ ix.skills.length := by
  rw [hx.load_eq hc hd]
  exact_mod_cast List.length_filter_le _ _

theorem one_le_load_iff (hd : d ∈ ix.days) : 1 ≤ load x ix.skills c d ↔ Works x ix c d := by
  rw [hx.load_eq hc hd, Nat.one_le_cast, Nat.one_le_iff_ne_zero, Ne, List.length_eq_zero_iff,
    List.filter_eq_nil_iff]
  simp only [decide_eq_true_eq, not_forall, not_not, exists_prop]
  rfl

/-! ## Stretches of days -/

/-- Days that all have work carry at least one assignment each. -/
theorem length_le_sum {days : List Value} (hdays : days ⊆ ix.days)
    (hworks : ∀ d ∈ days, Works x ix c d) :
    (days.length : Int) ≤ (days.map (load x ix.skills c)).sum := by
  have hone : ∀ n ∈ days.map (load x ix.skills c), 1 ≤ n := by
    intro n hn
    obtain ⟨d, hd, rfl⟩ := List.mem_map.mp hn
    exact (hx.one_le_load_iff hc (hdays hd)).mpr (hworks d hd)
  simpa using List.card_nsmul_le_sum _ 1 hone

/-- If there is one skill only, days of which one has no work carry fewer assignments than there are
days. -/
theorem sum_lt_length {days : List Value} (hdays : days ⊆ ix.days) (hskill : ix.skills.length = 1)
    (hfree : ∃ d ∈ days, ¬ Works x ix c d) :
    (days.map (load x ix.skills c)).sum < days.length := by
  have hzeroOne : ∀ d ∈ days, load x ix.skills c d = 0 ∨ load x ix.skills c d = 1 := by
    intro d hd
    have hlow := hx.load_nonneg hc (hdays hd)
    have hhigh := hx.load_le hc (hdays hd)
    rw [hskill] at hhigh
    omega
  obtain ⟨d, hd, hfree⟩ := hfree
  -- the day without work is not among those that carry one
  have hfewer : (days.filter fun d => load x ix.skills c d = 1).length < days.length := by
    refine List.length_filter_lt_length_iff_exists.mpr ⟨d, hd, ?_⟩
    rw [decide_eq_true_eq]
    exact fun hone => hfree ((hx.one_le_load_iff hc (hdays hd)).mp hone.ge)
  rw [sum_eq_length_filter hzeroOne]
  exact_mod_cast hfewer

end IsZeroOne

/-! ## Days in a row -/

section

variable {m : Model} {s : Specification} {args : Arguments} {assign : Family} {ix : Indexes}
  {most : Nat}

/-- The rule for days in a row succeeds on a model with assignments, and adds its constraints. -/
theorem consecutiveDays_eq (hassign : m.family "assign" = .ok assign)
    (hix : Indexes.ofSpecification s = .ok ix)
    (hmost : countArgument args "max_consecutive" Settings.consecutiveDays = .ok most) :
    consecutiveDays m s args = .ok (m.require (consecutiveConstraints assign ix most)) := by
  unfold consecutiveDays asFault
  rw [hmost, hassign, hix, hasFamily_of_family hassign]
  rfl

/-- The constraints that the rule for days in a row adds exclude that a candidate works on more days
in a row than allowed. If there is one skill only, they exclude nothing else. As long as there are
not more days than allowed in a row, there are none. -/
theorem consecutiveDays_excludes_streaks (hassign : m.family "assign" = .ok assign)
    (hix : Indexes.ofSpecification s = .ok ix)
    (hmost : countArgument args "max_consecutive" Settings.consecutiveDays = .ok most) :
    ∃ m' added, consecutiveDays m s args = .ok m' ∧ m.Adds m' added
      ∧ (∀ v, IsZeroOne (scheduleOf assign v) ix →
        ((∀ c ∈ added, c.Holds v) →
          ∀ c ∈ ix.candidates, ¬ HasStreak (scheduleOf assign v) ix c (most + 1))
        ∧ (ix.skills.length = 1 →
          (∀ c ∈ ix.candidates, ¬ HasStreak (scheduleOf assign v) ix c (most + 1)) →
          ∀ c ∈ added, c.Holds v))
      ∧ (ix.days.length ≤ most → added = []) := by
  refine ⟨_, _, consecutiveDays_eq hassign hix hmost, ⟨rfl, rfl, rfl⟩, fun v hv => ?_, ?_⟩
  · rw [holds_consecutiveConstraints]
    have hpart : ∀ i, (ix.days.drop i).take (most + 1) ⊆ ix.days := fun i =>
      List.Subset.trans (List.take_subset _ _) (List.drop_subset _ _)
    have hlength : ∀ i, i + most < ix.days.length →
        ((ix.days.drop i).take (most + 1)).length = most + 1 := by
      intro i hi
      rw [List.length_take, List.length_drop]
      omega
    constructor
    · -- a streak that is too long fills a window, which then carries too much
      rintro hbound c hc ⟨i, hi, hworks⟩
      have hlow := hv.length_le_sum hc (hpart i) hworks
      have hhigh := hbound c hc i (by omega)
      rw [hlength i (by omega)] at hlow
      omega
    · -- with one skill, a day without work in a window keeps its load below its length
      intro hskill hstreaks c hc i hi
      have hfree : ∃ d ∈ (ix.days.drop i).take (most + 1),
          ¬ Works (scheduleOf assign v) ix c d := by
        by_contra hnone
        refine hstreaks c hc ⟨i, by omega, fun d hd => ?_⟩
        exact by_contra fun hfree => hnone ⟨d, hd, hfree⟩
      have hfewer := hv.sum_lt_length hc (hpart i) hskill hfree
      rw [hlength i hi] at hfewer
      omega
  · intro hshort
    unfold consecutiveConstraints
    rw [Nat.sub_eq_zero_of_le hshort]
    simp

/-- At most one day in a row, out of three: working on the first and the last is fine, working on all
of them is not. -/
theorem consecutiveDays_excludes_streaks_of_three_days :
    let days : List Value := [.str "mon", .str "tue", .str "wed"]
    let assign : Family := .ofPairs [([.str "ann", .str "mon", .str "desk"], 0),
      ([.str "ann", .str "tue", .str "desk"], 1), ([.str "ann", .str "wed", .str "desk"], 2)]
    let m : Model := { Model.empty with families := .ofList [("assign", assign)] }
    let s : Specification := ⟨"work_scheduling",
      .ofList [("candidates", .listed [.str "ann"]), ("days", .listed days),
        ("skills", .listed [.str "desk"])], .empty, .empty, .empty⟩
    let args : Arguments := .ofList [("max_consecutive", .int 1)]
    ∃ m' added, consecutiveDays m s args = .ok m' ∧ m.Adds m' added
      ∧ (∀ c ∈ added, c.Holds fun n => if n = 1 then 0 else 1)
      ∧ ¬ ∀ c ∈ added, c.Holds fun _ => 1 := by
  intro days assign m s args
  have hassign : m.family "assign" = .ok assign := rfl
  have hix : Indexes.ofSpecification s = .ok ⟨[.str "ann"], days, [.str "desk"]⟩ := rfl
  have hmost : countArgument args "max_consecutive" Settings.consecutiveDays = .ok 1 := rfl
  obtain ⟨m', added, hrun, hadds, hmeans, -⟩ :=
    consecutiveDays_excludes_streaks hassign hix hmost
  refine ⟨m', added, hrun, hadds, ?_, fun hall => ?_⟩
  · refine (hmeans _ (isZeroOne_of_forall (fun n => ?_) _ _)).2 rfl ?_
    · exact ite_eq_or_eq (n = 1) 0 1
    · -- every two days in a row have the second one among them, which is free
      rintro c hc ⟨i, hi, hworks⟩
      have htue : (Value.str "tue") ∈ (days.drop i).take 2 := by
        have hi : i = 0 ∨ i = 1 := by
          have hi : i + 2 ≤ 3 := hi
          omega
        rcases hi with rfl | rfl
        · exact List.mem_cons_of_mem _ List.mem_cons_self
        · exact List.mem_cons_self
      obtain ⟨k, hk, hone⟩ := hworks _ htue
      rw [List.mem_singleton.mp hc, List.mem_singleton.mp hk] at hone
      exact absurd hone (by decide +kernel)
  · refine (hmeans _ (isZeroOne_of_forall (fun _ => Or.inr rfl) _ _)).1 hall (.str "ann")
      List.mem_cons_self ?_
    exact ⟨0, by decide, fun _ _ => ⟨.str "desk", List.mem_cons_self, rfl⟩⟩

end

end Rostering.Staffing
