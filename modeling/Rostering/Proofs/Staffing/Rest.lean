import Rostering.Proofs.Staffing.Workdays

/-!
# What the rule for days of rest excludes

The rule never looks at two days alone: it bounds the work of a first day, a last day and one of the
days of rest between them. This module says which pairs of days these triples keep apart. They miss
the pairs in the middle of an index that is short for the rule: a pair is left free if no day so many
days later stands behind its first day, and none so many days earlier before its second one.

## The architecture

* **`triples_iff_pairs`** — the triples that fit into a list of numbers hold exactly when certain
  pairs do.
* **`sum_le_one_iff`** — a sum is at most one exactly when the sum of any two of its parts is.
* **`pairs_iff_windows`** — in a list that is long enough, all pairs hold exactly when every window
  carries at most one.
* **`holds_rest_iff_pairs`**, **`keepsApart_of_holds`** — for any number of days, what the constraints
  of the rule mean, and what they say of two days with work.
* **`restDays_iff_windows`** — on long indexes, the constraints of the rule hold exactly when there is
  at most one assignment in any days in a row, two more than the days of rest.
-/

namespace Rostering.Staffing

/-! ## Pairs and triples -/

/-- The numbers at a place, so many places and one later, and at any place between the two, make at
most one together. -/
def TriplesBounded (l : List Int) (rest : Nat) : Prop :=
  ∀ i r a b z, i < r → r ≤ i + rest → l[i]? = some a → l[r]? = some b →
    l[i + rest + 1]? = some z → a + z + b ≤ 1

/-- Of two places, the list goes on far enough behind the first one or comes from far enough before
the second one. -/
def IsCovered (length rest i j : Nat) : Prop := i + rest + 1 < length ∨ rest < j

/-- The numbers at two covered places, with no more places between them than the rest, make at most
one together. -/
def PairsBounded (l : List Int) (rest : Nat) : Prop :=
  ∀ i j a b, i < j → j ≤ i + rest + 1 → IsCovered l.length rest i j → l[i]? = some a →
    l[j]? = some b → a + b ≤ 1

section

variable {l : List Int} (hl : ∀ a ∈ l, 0 ≤ a) {rest : Nat} (hrest : 1 ≤ rest)
include hl hrest

/-- The triples of a list hold exactly when the covered pairs do. A triple bounds three parts at
once, and three parts that are not negative add up to at most one exactly if any two of them do. -/
theorem triples_iff_pairs : TriplesBounded l rest ↔ PairsBounded l rest := by
  constructor
  · intro htriples
    -- a pair with enough places behind it is part of a triple that begins with it
    have hfirst : ∀ i j a b, i < j → j ≤ i + rest + 1 → i + rest + 1 < l.length →
        l[i]? = some a → l[j]? = some b → a + b ≤ 1 := by
      intro i j a b hij hj hlength ha hb
      by_cases hlast : j = i + rest + 1
      · have hnext : l[i + 1]? = some l[i + 1] := List.getElem?_eq_getElem (by omega)
        have hsum := htriples i (i + 1) a _ b (by omega) (by omega) ha hnext (hlast ▸ hb)
        have hpos := hl _ (List.mem_of_getElem? hnext)
        omega
      · have hlater : l[i + rest + 1]? = some l[i + rest + 1] := List.getElem?_eq_getElem hlength
        have hsum := htriples i j a b _ hij (by omega) ha hb hlater
        have hpos := hl _ (List.mem_of_getElem? hlater)
        omega
    intro i j a b hij hj hcovered ha hb
    by_cases hlength : i + rest + 1 < l.length
    · exact hfirst i j a b hij hj hlength ha hb
    · -- the others are the middle and the end of a triple that begins earlier
      have hrest : rest < j := hcovered.resolve_left hlength
      have hbound := (List.getElem?_eq_some_iff.mp hb).1
      have hend : j = j - rest - 1 + rest + 1 := by omega
      have hearlier : l[j - rest - 1]? = some l[j - rest - 1] :=
        List.getElem?_eq_getElem (by omega)
      have hsum := htriples (j - rest - 1) i _ a b (by omega) (by omega) hearlier ha (hend ▸ hb)
      have hpos := hl _ (List.mem_of_getElem? hearlier)
      omega
  · intro hpairs i r a b z hir hr ha hb hz
    have hlength := (List.getElem?_eq_some_iff.mp hz).1
    have hab := hpairs i r a b hir (by omega) (Or.inl hlength) ha hb
    have haz := hpairs i (i + rest + 1) a z (by omega) le_rfl (Or.inl hlength) ha hz
    have hbz := hpairs r (i + rest + 1) b z (by omega) (by omega) (Or.inr (by omega)) hb hz
    have := hl a (List.mem_of_getElem? ha)
    have := hl b (List.mem_of_getElem? hb)
    have := hl z (List.mem_of_getElem? hz)
    omega

end

/-! ## Windows -/

/-- A sum of two parts or more is at most one exactly when the sum of any two of them is. Induction on
the parts, which are at most one each. -/
theorem sum_le_one_iff {l : List Int} (hl : ∀ a ∈ l, 0 ≤ a) (hlength : 2 ≤ l.length) :
    l.sum ≤ 1 ↔ l.Pairwise fun a b => a + b ≤ 1 := by
  have hparts : ∀ {l : List Int}, (∀ a ∈ l, 0 ≤ a) →
      (l.sum ≤ 1 ↔ (l.Pairwise fun a b => a + b ≤ 1) ∧ ∀ a ∈ l, a ≤ 1) := by
    intro l hl
    induction l with
    | nil => simp
    | cons a l ih =>
        obtain ⟨ha, hl⟩ := List.forall_mem_cons.mp hl
        have hpos := List.sum_nonneg hl
        rw [List.sum_cons, List.pairwise_cons, List.forall_mem_cons]
        constructor
        · intro hsum
          obtain ⟨hpairs, hsmall⟩ := (ih hl).mp (by omega)
          refine ⟨⟨fun b hb => ?_, hpairs⟩, by omega, hsmall⟩
          have hpart := List.single_le_sum hl b hb
          omega
        · rintro ⟨⟨hfirst, hpairs⟩, hone, hsmall⟩
          by_cases hzero : a = 0
          · have hsum := (ih hl).mpr ⟨hpairs, hsmall⟩
            omega
          · -- a first part of one leaves nothing for the others
            have hnone : l.sum = 0 := List.sum_eq_zero fun b hb => by
              have := hfirst b hb
              have := hl b hb
              omega
            omega
  rw [hparts hl]
  refine ⟨fun h => h.1, fun hpairs => ⟨hpairs, ?_⟩⟩
  match l, hlength with
  | a :: b :: l, _ =>
      obtain ⟨ha, hb, -⟩ := by simpa only [List.forall_mem_cons] using hl
      obtain ⟨hfirst, -⟩ := List.pairwise_cons.mp hpairs
      have hab := hfirst b List.mem_cons_self
      refine List.forall_mem_cons.mpr ⟨by omega, fun c hc => ?_⟩
      have hac := hfirst c hc
      omega

/-- Any numbers in a row, two more than the rest, make at most one together. -/
def WindowsBounded (l : List Int) (rest : Nat) : Prop :=
  ∀ i, i + (rest + 2) ≤ l.length → ((l.drop i).take (rest + 2)).sum ≤ 1

/-- What holds of any two parts of a window holds of the parts of the list at its places. -/
theorem pairwise_window_iff {l : List Int} {R : Int → Int → Prop} (start n : Nat) :
    ((l.drop start).take n).Pairwise R ↔ ∀ i j a b, start ≤ i → i < j → j < start + n →
      l[i]? = some a → l[j]? = some b → R a b := by
  have hitem : ∀ p, p < n → ((l.drop start).take n)[p]? = l[start + p]? := fun p hp => by
    rw [List.getElem?_take_of_lt hp, List.getElem?_drop]
  rw [List.pairwise_iff_getElem]
  constructor
  · intro h i j a b hi hij hj ha hb
    -- places in the list become places in the window, and back below
    have hfirst := hitem (i - start) (by omega)
    have hsecond := hitem (j - start) (by omega)
    rw [Nat.add_sub_cancel' hi, ha] at hfirst
    rw [Nat.add_sub_cancel' (hi.trans hij.le), hb] at hsecond
    obtain ⟨hp, rfl⟩ := List.getElem?_eq_some_iff.mp hfirst
    obtain ⟨hq, rfl⟩ := List.getElem?_eq_some_iff.mp hsecond
    exact h _ _ hp hq (by omega)
  · intro h p q hp hq hpq
    have hqn : q < n := hq.trans_le (List.length_take_le _ _)
    refine h (start + p) (start + q) _ _ (by omega) (by omega) (by omega) ?_ ?_
    · rw [← hitem p (hpq.trans hqn), List.getElem?_eq_getElem hp]
    · rw [← hitem q hqn, List.getElem?_eq_getElem hq]

section

variable {l : List Int} (hl : ∀ a ∈ l, 0 ≤ a) {rest : Nat} (hlong : 2 * rest < l.length)
include hlong

/-- In a list that is long enough every pair is covered. -/
theorem isCovered_of_lt {i j : Nat} (hij : i < j) : IsCovered l.length rest i j := by
  unfold IsCovered
  omega

include hl

/-- In a list that is long enough the pairs hold exactly when every window does. -/
theorem pairs_iff_windows (hrest : 1 ≤ rest) : PairsBounded l rest ↔ WindowsBounded l rest := by
  have hwindow : ∀ i, i + (rest + 2) ≤ l.length → (((l.drop i).take (rest + 2)).sum ≤ 1 ↔
      ((l.drop i).take (rest + 2)).Pairwise fun a b => a + b ≤ 1) := by
    intro i hi
    refine sum_le_one_iff (fun a ha => hl a (List.mem_of_mem_drop (List.mem_of_mem_take ha))) ?_
    rw [List.length_take, List.length_drop]
    omega
  constructor
  · intro hpairs start hstart
    refine (hwindow start hstart).mpr ((pairwise_window_iff _ _).mpr ?_)
    intro i j a b _ hij hj ha hb
    exact hpairs i j a b hij (by omega) (isCovered_of_lt hlong hij) ha hb
  · intro hwindows i j a b hij hj _ ha hb
    have hbound := (List.getElem?_eq_some_iff.mp hb).1
    -- the window that begins with the first of the two, or the last one that there is
    obtain ⟨start, hstart, hlow, hhigh⟩ : ∃ start, start + (rest + 2) ≤ l.length ∧ start ≤ i
        ∧ j < start + (rest + 2) := ⟨min i (l.length - (rest + 2)), by omega, by omega, by omega⟩
    have hpairs := (pairwise_window_iff _ _).mp ((hwindow start hstart).mp (hwindows start hstart))
    exact hpairs i j a b hlow hij hhigh ha hb

end

/-! ## Days of rest -/

section

variable {assign : Family} {v : Valuation} {ix : Indexes} {rest : Nat}

/-- The constraints of the rule are bounds on the triples of what each candidate does on the days. -/
theorem holds_rest_iff_triples : (∀ c ∈ restConstraints assign ix rest, c.Holds v) ↔
    ∀ c ∈ ix.candidates, TriplesBounded (ix.days.map (load (scheduleOf assign v) ix.skills c)) rest := by
  rw [holds_restConstraints]
  unfold TriplesBounded
  simp only [List.getElem?_map, Option.map_eq_some_iff]
  refine forall₂_congr fun c _ => ⟨?_, ?_⟩
  · rintro h i r _ _ _ hir hr ⟨first, hfirst, rfl⟩ ⟨between, hbetween, rfl⟩ ⟨last, hlast, rfl⟩
    exact h i r first between last hir hr hfirst hbetween hlast
  · intro h i r first between last hir hr hfirst hbetween hlast
    exact h i r _ _ _ hir hr ⟨first, hfirst, rfl⟩ ⟨between, hbetween, rfl⟩ ⟨last, hlast, rfl⟩

variable (hv : IsZeroOne (scheduleOf assign v) ix) (hrest : 1 ≤ rest)
include hv

theorem IsZeroOne.loads_nonneg {c : Value} (hc : c ∈ ix.candidates) :
    ∀ n ∈ ix.days.map (load (scheduleOf assign v) ix.skills c), 0 ≤ n := by
  intro n hn
  obtain ⟨d, hd, rfl⟩ := List.mem_map.mp hn
  exact hv.load_nonneg hc hd

include hrest

/-- For any number of days, the constraints of the rule are bounds on the covered pairs of days. -/
theorem holds_rest_iff_pairs : (∀ c ∈ restConstraints assign ix rest, c.Holds v) ↔
    ∀ c ∈ ix.candidates, PairsBounded (ix.days.map (load (scheduleOf assign v) ix.skills c)) rest := by
  rw [holds_rest_iff_triples]
  exact forall₂_congr fun c hc => triples_iff_pairs (hv.loads_nonneg hc) hrest

/-- Of two days with work, the second one comes more than the days of rest and one day later, or the
index is too short for the rule to look at both. -/
theorem keepsApart_of_holds (hholds : ∀ c ∈ restConstraints assign ix rest, c.Holds v) {c : Value}
    (hc : c ∈ ix.candidates) {i j : Nat} {first second : Value} (hij : i < j)
    (hfirst : ix.days[i]? = some first) (hsecond : ix.days[j]? = some second)
    (hworks : Works (scheduleOf assign v) ix c first ∧ Works (scheduleOf assign v) ix c second) :
    i + rest + 1 < j ∨ ¬ IsCovered ix.days.length rest i j := by
  by_contra hnear
  rw [not_or, not_not] at hnear
  have hpairs := (holds_rest_iff_pairs hv hrest).mp hholds c hc
  -- the pair is kept apart, so both days together carry one assignment at most
  have hsum := hpairs i j (load (scheduleOf assign v) ix.skills c first)
    (load (scheduleOf assign v) ix.skills c second) hij (by omega)
    (by rw [List.length_map]; exact hnear.2) (by rw [List.getElem?_map, hfirst]; rfl)
    (by rw [List.getElem?_map, hsecond]; rfl)
  -- but each of them carries one
  have hone := (hv.one_le_load_iff hc (List.mem_of_getElem? hfirst)).mpr hworks.1
  have hother := (hv.one_le_load_iff hc (List.mem_of_getElem? hsecond)).mpr hworks.2
  omega

end

section

variable {m : Model} {s : Specification} {args : Arguments} {assign : Family} {ix : Indexes}
  {rest : Nat}

/-- The rule for days of rest succeeds on a model with assignments, and adds its constraints. -/
theorem restDays_eq (hassign : m.family "assign" = .ok assign)
    (hix : Indexes.ofSpecification s = .ok ix)
    (hrest : countArgument args "min_rest" Settings.restDays = .ok rest) :
    restDays m s args = .ok (m.require (restConstraints assign ix rest)) := by
  unfold restDays asFault
  rw [hrest, hassign, hix, hasFamily_of_family hassign]
  rfl

/-- On an index with more than twice as many days as there are days of rest, the constraints that the
rule adds hold exactly when each candidate has at most one assignment in any days in a row, two more
than the days of rest. -/
theorem restDays_iff_windows (hassign : m.family "assign" = .ok assign)
    (hix : Indexes.ofSpecification s = .ok ix)
    (hcount : countArgument args "min_rest" Settings.restDays = .ok rest) (hrest : 1 ≤ rest)
    (hlong : 2 * rest < ix.days.length) :
    ∃ m' added, restDays m s args = .ok m' ∧ m.Adds m' added
      ∧ ∀ v, IsZeroOne (scheduleOf assign v) ix →
        ((∀ c ∈ added, c.Holds v) ↔ ∀ c ∈ ix.candidates, ∀ i, i + (rest + 2) ≤ ix.days.length →
          (((ix.days.drop i).take (rest + 2)).map (load (scheduleOf assign v) ix.skills c)).sum
            ≤ 1) := by
  refine ⟨_, _, restDays_eq hassign hix hcount, ⟨rfl, rfl, rfl⟩, fun v hv => ?_⟩
  rw [holds_rest_iff_pairs hv hrest]
  refine forall₂_congr fun c hc => ?_
  rw [pairs_iff_windows (hv.loads_nonneg hc) (by rw [List.length_map]; exact hlong) hrest]
  unfold WindowsBounded
  simp only [List.length_map, List.map_take, List.map_drop]

/-- One day of rest, out of four days: working on the first and the last is fine, working on the first
and the third is not. -/
theorem restDays_iff_windows_of_four_days :
    let days : List Value := [.str "mon", .str "tue", .str "wed", .str "thu"]
    let assign : Family := .ofPairs [([.str "ann", .str "mon", .str "desk"], 0),
      ([.str "ann", .str "tue", .str "desk"], 1), ([.str "ann", .str "wed", .str "desk"], 2),
      ([.str "ann", .str "thu", .str "desk"], 3)]
    let m : Model := { Model.empty with families := .ofList [("assign", assign)] }
    let s : Specification := ⟨"work_scheduling",
      .ofList [("candidates", .listed [.str "ann"]), ("days", .listed days),
        ("skills", .listed [.str "desk"])], .empty, .empty, .empty⟩
    let args : Arguments := .ofList [("min_rest", .int 1)]
    ∃ m' added, restDays m s args = .ok m' ∧ m.Adds m' added
      ∧ (∀ c ∈ added, c.Holds fun n => if n = 0 ∨ n = 3 then 1 else 0)
      ∧ ¬ ∀ c ∈ added, c.Holds fun n => if n = 0 ∨ n = 2 then 1 else 0 := by
  intro days assign m s args
  have hassign : m.family "assign" = .ok assign := rfl
  have hix : Indexes.ofSpecification s = .ok ⟨[.str "ann"], days, [.str "desk"]⟩ := rfl
  have hcount : countArgument args "min_rest" Settings.restDays = .ok 1 := rfl
  obtain ⟨m', added, hrun, hadds, hmeans⟩ :=
    restDays_iff_windows hassign hix hcount le_rfl (by decide)
  have hzeroOne : ∀ p : Nat → Prop, ∀ _ : DecidablePred p,
      IsZeroOne (scheduleOf assign fun n => if p n then 1 else 0)
        ⟨[.str "ann"], days, [.str "desk"]⟩ := fun p _ =>
    isZeroOne_of_forall (fun n => (ite_eq_or_eq (p n) 1 0).symm) _ _
  refine ⟨m', added, hrun, hadds, (hmeans _ (hzeroOne _ _)).mpr ?_, fun hall => ?_⟩
  · intro c hc i hi
    rw [List.mem_singleton.mp hc]
    -- there are two windows of three days
    have hi : i = 0 ∨ i = 1 := by
      have hi : i + 3 ≤ 4 := hi
      omega
    rcases hi with rfl | rfl
    · decide +kernel
    · decide +kernel
  · have hsum := (hmeans _ (hzeroOne _ _)).mp hall (.str "ann") List.mem_cons_self 0 (by decide)
    exact absurd hsum (by decide +kernel)

end

end Rostering.Staffing
