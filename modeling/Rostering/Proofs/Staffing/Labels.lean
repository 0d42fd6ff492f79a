import Rostering.Proofs.DayRange
import Rostering.Proofs.Staffing.Demand
import Rostering.Proofs.Staffing.Problem

/-!
# Days by their labels

The days of a range can be named by their labels: all of them have the same time of day, so no two
have one label, and a label is the same as another one exactly if the days are. A problem in which
labels stand for days therefore has the same numbers of workers for the same slots, its keys find the
same variables, and its constraints and its goal are the same ones.

## The architecture

* **`Staffing.areLabelled_range`** — the days of a range are one time on several dates, which their
  labels tell apart.
* **`relabel`**, **`relabelKey`** — a day by its label, alone and in the key of an assignment. A family
  with labels in its keys has its variables under the new keys (`Staffing.number_relabelled`).
* **`Staffing.addRow_relabelled`**, **`Staffing.addRows_relabelled`** — the step and the run: reading a
  table of demand commutes with naming the days (`Staffing.demandFrom_relabel`).
* **`Staffing.Problem.relabelled`** — the problem with labels, part by part the same as the one with
  days.
* **`Staffing.Problem.ofSpecification_labelled`** — it is what a specification with labels declares.
-/

namespace Rostering

/-! ## Ranges of days -/

namespace Day

/-- All days of a range have the time of the first. -/
theorem exists_onDate_of_mem_through {first last d : Day} (hd : d ∈ through first last) :
    ∃ a, d = first.onDate a := by
  unfold through at hd
  split at hd
  · exact absurd hd List.not_mem_nil
  · split at hd
    · exact absurd hd List.not_mem_nil
    · obtain ⟨n, -, hn⟩ := List.mem_filterMap.mp hd
      obtain ⟨a, -, rfl⟩ := addDays?_eq_some.mp hn
      exact ⟨a, rfl⟩

theorem hour_onDate (d : Day) (a : Date) : (d.onDate a).hour = d.hour := by
  cases d <;> rfl

/-- At one time of day, only one date is the same. -/
theorem same_onDate_iff (d : Day) (a b : Date) :
    (Value.day (d.onDate a)).same (.day (d.onDate b)) = true ↔ a = b := by
  rw [Value.same_day_iff]
  cases d with
  | date _ =>
      simp only [onDate, distance?, Option.some.injEq, Int.ofNat_eq_natCast]
      exact ⟨fun h => Date.eq_of_index (by omega), fun h => by rw [h]; omega⟩
  | moment m =>
      simp only [onDate, distance?, if_true, Option.some.injEq, Moment.instant,
        Int.ofNat_eq_natCast]
      exact ⟨fun h => Date.eq_of_index (by omega), fun h => by rw [h]; omega⟩

end Day

/-! ## Members and keys -/

/-- A member by its label. -/
def relabel (v : Value) : Value := .str v.label

/-- Dates are written as their labels. -/
theorem Day.shown_of_mem_range (a : Date) (last : Day) :
    ∀ d ∈ (Index.range (.date a) last).members, d.shown = d.label := by
  intro d hd
  obtain ⟨e, he, rfl⟩ := List.mem_map.mp hd
  obtain ⟨b, rfl⟩ := exists_onDate_of_mem_through he
  rfl

/-- The key of an assignment, with the label of its day. -/
def relabelKey : Key → Key
  | [c, d, k] => [c, relabel d, k]
  | key => key

theorem map_label_relabelKey (key : Key) :
    (relabelKey key).map Value.label = key.map Value.label := by
  unfold relabelKey
  split <;> rfl

/-- The family with the labels of days in its keys. -/
def Family.relabelled (f : Family) : Family := f.map fun e => (relabelKey e.1, e.2)

theorem Family.numbers_relabelled (f : Family) : f.relabelled.numbers = f.numbers := by
  unfold relabelled numbers
  rw [List.map_map]
  rfl

namespace Staffing

/-- The key of an assignment on one of the days. -/
def IsAssignKey (days : List Value) (key : Key) : Prop := ∃ c, ∃ d ∈ days, ∃ k, key = [c, d, k]

section

variable {days : List Value} (hdays : AreLabelled days)
include hdays

/-- Days with labels of their own are told apart by their labels. -/
theorem same_relabel {d e : Value} (hd : d ∈ days) (he : e ∈ days) :
    (relabel d).same (relabel e) = d.same e := by
  rw [Bool.eq_iff_iff, hdays.same_iff d hd e he, relabel, relabel, Value.same, beq_iff_eq]

theorem sameItems_relabelKey {key other : Key} (hkey : IsAssignKey days key)
    (hother : IsAssignKey days other) :
    Value.sameItems (relabelKey key) (relabelKey other) = Value.sameItems key other := by
  obtain ⟨c, d, hd, k, rfl⟩ := hkey
  obtain ⟨c', d', hd', k', rfl⟩ := hother
  simp only [relabelKey, Value.sameItems, same_relabel hdays hd hd']

/-- A variable can be put under its key before or after the labels. -/
theorem relabelled_put {key : Key} (hkey : IsAssignKey days key) (n : Nat) {f : Family}
    (hf : ∀ k ∈ f.keys, IsAssignKey days k) :
    (f.put key n).relabelled = f.relabelled.put (relabelKey key) n := by
  induction f with
  | nil => rfl
  | cons e f ih =>
      obtain ⟨hfirst, hrest⟩ := List.forall_mem_cons.mp hf
      have hsame := sameItems_relabelKey hdays hfirst hkey
      have htail := ih hrest
      unfold Family.relabelled at htail ⊢
      rw [List.map_cons, Family.put, Family.put, hsame, ← htail]
      split <;> rfl

/-- A family of assignments can be made of keys with labels as well. Induction on the keys that are
still to come. -/
theorem relabelled_ofPairs {l : List (Key × Nat)} (hl : ∀ e ∈ l, IsAssignKey days e.1) :
    (Family.ofPairs l).relabelled = Family.ofPairs (l.map fun e => (relabelKey e.1, e.2)) := by
  -- for any family that is there already, since keys are put one after the other
  have hfold : ∀ (l : List (Key × Nat)) (f : Family), (∀ e ∈ l, IsAssignKey days e.1) →
      (∀ k ∈ f.keys, IsAssignKey days k) →
      Family.relabelled (l.foldl (fun f e => f.put e.1 e.2) f)
        = (l.map fun e => (relabelKey e.1, e.2)).foldl (fun f e => f.put e.1 e.2) f.relabelled := by
    intro l
    induction l with
    | nil => exact fun f _ _ => rfl
    | cons e l ih =>
        intro f hl hf
        obtain ⟨hfirst, hrest⟩ := List.forall_mem_cons.mp hl
        have hsame := ih (f.put e.1 e.2) hrest (Family.forall_keys_put hfirst e.2 hf)
        rw [relabelled_put hdays hfirst e.2 hf] at hsame
        exact hsame
  exact hfold l [] hl fun k hk => absurd hk List.not_mem_nil

/-- A key with the label of its day finds the variable of the key itself. -/
theorem number_relabelled {f : Family} (hf : ∀ k ∈ f.keys, IsAssignKey days k) {key : Key}
    (hkey : IsAssignKey days key) : f.relabelled.number (relabelKey key) = f.number key := by
  unfold Family.number Family.find? Family.relabelled
  rw [List.find?_map, Option.map_map]
  congr 2
  exact List.find?_congr fun e he =>
    sameItems_relabelKey hdays hkey (hf e.1 (List.mem_map_of_mem he))

end

/-- The days of a range have labels of their own. -/
theorem areLabelled_range (first last : Day) : AreLabelled (Index.range first last).members := by
  have hday : ∀ d ∈ (Index.range first last).members, ∃ a, d = .day (first.onDate a) := by
    intro d hd
    obtain ⟨e, he, rfl⟩ := List.mem_map.mp hd
    obtain ⟨a, rfl⟩ := Day.exists_onDate_of_mem_through he
    exact ⟨a, rfl⟩
  refine ⟨fun d hd => ?_, fun d hd e he => ?_⟩
  · obtain ⟨a, rfl⟩ := hday d hd
    trivial
  · obtain ⟨a, rfl⟩ := hday d hd
    obtain ⟨b, rfl⟩ := hday e he
    rw [Day.same_onDate_iff]
    exact (Day.label_onDate_iff first a b).symm

/-! ## Demand -/

/-- The entry with its day by its label. -/
def DemandEntry.relabelled (e : DemandEntry) : DemandEntry := { e with day := relabel e.day }

/-- The row with its member by its label. -/
def DemandRow.relabelled (r : DemandRow) : DemandRow := { r with day := r.day.map relabel }

theorem matchMember?_relabel (days : List Value) (v : Value) :
    matchMember? (days.map relabel) v = (matchMember? days v).map relabel := by
  unfold matchMember?
  rw [← List.map_reverse, List.find?_map]
  rfl

/-- A table is read in the same way, with labels for members. -/
theorem demandRows_relabel (t : Table) (days : List Value) (scenarios : List String) :
    demandRows t (days.map relabel) scenarios
      = (demandRows t days scenarios).map (List.map DemandRow.relabelled) := by
  -- only the members that days are matched with change
  have hmembers : ∀ cells, matchMembers cells (days.map relabel)
      = (matchMembers cells days).map (Option.map relabel) := by
    intro cells
    unfold matchMembers
    rw [List.map_map]
    exact List.map_congr_left fun v _ => matchMember?_relabel days v
  unfold demandRows
  simp only [hmembers, List.zip_map_left, List.zip_map_right, List.map_map]
  cases textColumn t "day" with
  | error e => rfl
  | ok cells =>
      cases t.hasColumn (.str "scenario") <;> cases textColumn t "scenario" <;>
        cases textColumn t "skill" <;> cases column t "value" <;>
        simp [bind, Except.bind, pure, Except.pure, Except.map, DemandRow.relabelled,
          Function.comp_def]

/-- The members of rows that are read are those of the index. -/
theorem day_mem_of_demandRows {t : Table} {days : List Value} {scenarios : List String}
    {rows : List DemandRow} (h : demandRows t days scenarios = .ok rows) :
    ∀ r ∈ rows, ∀ d ∈ r.day, d ∈ days := by
  unfold demandRows at h
  obtain ⟨cells, -, h⟩ := bind_eq_ok.mp h
  -- however the scenarios are read, the days of the rows are those that were matched
  have hrows : ∃ (targets : List (List (Option String)))
      (rest : List (Option String × Value × String)),
      rows = (targets.zip ((matchMembers cells days).zip rest)).map DemandRow.ofCells := by
    dsimp only at h
    split at h
    all_goals
      obtain ⟨targets, -, h⟩ := bind_eq_ok.mp h
      obtain ⟨skills, -, h⟩ := bind_eq_ok.mp h
      obtain ⟨values, -, h⟩ := bind_eq_ok.mp h
      exact ⟨targets, _, (pure_eq_ok.mp h).symm⟩
  obtain ⟨targets, rest, rfl⟩ := hrows
  intro r hr d hd
  obtain ⟨⟨_, day, rest⟩, hmem, rfl⟩ := List.mem_map.mp hr
  have hday := (List.of_mem_zip (List.of_mem_zip hmem).2).1
  obtain ⟨v, -, hv⟩ := List.mem_map.mp hday
  exact (matchMember?_eq_some (hv.trans hd)).1

section

variable {days : List Value} (hdays : AreLabelled days)
include hdays

/-- Adding an entry commutes with naming its day: it is one that is there already in the same cases.
-/
theorem add_relabelled {e : DemandEntry} (he : e.day ∈ days) {es : List DemandEntry}
    (hes : ∀ e ∈ es, e.day ∈ days) :
    e.relabelled.add (es.map DemandEntry.relabelled) = (e.add es).map DemandEntry.relabelled
      ∧ ∀ e' ∈ e.add es, e'.day ∈ days := by
  -- sameness of days and of their labels go together
  have hany : (es.map DemandEntry.relabelled).any
        (DemandEntry.isFor e.relabelled.scenario e.relabelled.day e.relabelled.skill)
      = es.any (DemandEntry.isFor e.scenario e.day e.skill) := by
    rw [List.any_map, Bool.eq_iff_iff, List.any_eq_true, List.any_eq_true]
    refine exists_congr fun old => and_congr_right fun hold => ?_
    simp only [Function.comp_apply, DemandEntry.isFor, DemandEntry.relabelled,
      same_relabel hdays (hes old hold) he]
  unfold DemandEntry.add
  rw [hany]
  split
  · exact ⟨rfl, hes⟩
  · refine ⟨by rw [List.map_append]; rfl, ?_⟩
    exact List.forall_mem_append.mpr ⟨hes, fun e' h => List.mem_singleton.mp h ▸ he⟩

/-- So does adding an entry for each of several scenarios. Induction on the scenarios. -/
theorem addAll_relabelled {day : Value} (hday : day ∈ days) (skill : Option String) (count : Nat)
    (scenarios : List (Option String)) : ∀ {es : List DemandEntry}, (∀ e ∈ es, e.day ∈ days) →
      scenarios.foldl (fun es s => DemandEntry.add ⟨s, relabel day, skill, count⟩ es)
          (es.map DemandEntry.relabelled)
        = (scenarios.foldl (fun es s => DemandEntry.add ⟨s, day, skill, count⟩ es) es).map
          DemandEntry.relabelled
      ∧ ∀ e ∈ scenarios.foldl (fun es s => DemandEntry.add ⟨s, day, skill, count⟩ es) es,
        e.day ∈ days := by
  induction scenarios with
  | nil => exact fun hes => ⟨rfl, hes⟩
  | cons s scenarios ih =>
      intro es hes
      obtain ⟨hadd, hmem⟩ := add_relabelled hdays (e := ⟨s, day, skill, count⟩) hday hes
      have hrest := ih hmem
      rw [← hadd] at hrest
      exact hrest

/-- A row adds the same numbers, under labels. It is the step of the run; the entries that are there
already have labels for their days too. -/
theorem addRow_relabelled {r : DemandRow} (hr : ∀ d ∈ r.day, d ∈ days) {es : List DemandEntry}
    (hes : ∀ e ∈ es, e.day ∈ days) :
    addRow (es.map DemandEntry.relabelled) r.relabelled
        = (addRow es r).map (List.map DemandEntry.relabelled)
      ∧ ∀ es', addRow es r = .ok es' → ∀ e ∈ es', e.day ∈ days := by
  cases hday : r.day with
  | none =>
      unfold addRow DemandRow.relabelled
      rw [hday]
      exact ⟨rfl, fun es' h => pure_eq_ok.mp h ▸ hes⟩
  | some m =>
      have hm := hr m hday
      have hlabel : r.relabelled.day = some (relabel m) := by
        unfold DemandRow.relabelled
        rw [hday]
        rfl
      rw [addRow_eq (hdays.members m hm) hday, addRow_eq (m := relabel m) trivial hlabel]
      -- the number is read from the value, and the day is only named in errors
      have hsame : requiredCount r.relabelled.value r.relabelled.shown (relabel m)
            (r.relabelled.skill.getD "nan")
          = requiredCount r.value r.shown m (r.skill.getD "nan") := rfl
      rw [hsame]
      cases requiredCount r.value r.shown m (r.skill.getD "nan") with
      | error e => exact ⟨rfl, fun es' h => by cases h⟩
      | ok count =>
          obtain ⟨hall, hmem⟩ := addAll_relabelled hdays hm r.skill count r.scenarios hes
          exact ⟨congrArg Except.ok hall, fun es' h => pure_eq_ok.mp h ▸ hmem⟩

/-- So do all rows. Induction on the rows. -/
theorem addRows_relabelled (rows : List DemandRow) (hrows : ∀ r ∈ rows, ∀ d ∈ r.day, d ∈ days) :
    ∀ {es : List DemandEntry}, (∀ e ∈ es, e.day ∈ days) →
      (rows.map DemandRow.relabelled).foldlM addRow (es.map DemandEntry.relabelled)
          = (rows.foldlM addRow es).map (List.map DemandEntry.relabelled)
        ∧ ∀ es', rows.foldlM addRow es = .ok es' → ∀ e ∈ es', e.day ∈ days := by
  induction rows with
  | nil => exact fun hes => ⟨rfl, fun es' h => pure_eq_ok.mp h ▸ hes⟩
  | cons r rows ih =>
      intro es hes
      obtain ⟨hfirst, hrest⟩ := List.forall_mem_cons.mp hrows
      obtain ⟨hstep, hmem⟩ := addRow_relabelled hdays hfirst hes
      rw [List.map_cons, List.foldlM_cons, List.foldlM_cons, hstep]
      cases hmid : addRow es r with
      | error e => exact ⟨rfl, fun es' h => by cases h⟩
      | ok mid => exact ih hrest (hmem mid hmid)

/-- A table has the same numbers, under labels. -/
theorem demandOf_relabel (t : Table) (scenarios : List String) :
    demandOf t (days.map relabel) scenarios
        = (demandOf t days scenarios).map (List.map DemandEntry.relabelled)
      ∧ ∀ es, demandOf t days scenarios = .ok es → ∀ e ∈ es, e.day ∈ days := by
  unfold demandOf
  rw [demandRows_relabel]
  cases hrows : demandRows t days scenarios with
  | error e => exact ⟨rfl, fun es h => by cases h⟩
  | ok rows =>
      exact addRows_relabelled hdays rows (day_mem_of_demandRows hrows)
        fun e he => absurd he List.not_mem_nil

end

/-- Reading any demand commutes with naming the days. -/
theorem demandFrom_relabel {days : List Value} (hdays : AreLabelled days) (v : Value)
    (scenarios : List String) :
    demandFrom v (days.map relabel) scenarios
        = (demandFrom v days scenarios).map (List.map DemandEntry.relabelled)
      ∧ ∀ es, demandFrom v days scenarios = .ok es → ∀ e ∈ es, e.day ∈ days := by
  unfold demandFrom
  split
  · exact demandOf_relabel hdays _ _
  · split
    · exact ⟨rfl, fun es h => absurd h throw_ne_ok⟩
    · split
      · exact ⟨rfl, fun es h => absurd h throw_ne_ok⟩
      · exact ⟨rfl, fun es h => absurd h throw_ne_ok⟩
  · exact ⟨rfl, fun es h => absurd h throw_ne_ok⟩

/-! ## Problems -/

namespace Problem

/-- The problem with labels for its days. -/
def relabelled (p : Problem) : Problem :=
  { p with days := p.days.map relabel, demand := p.demand.map DemandEntry.relabelled }

/-- The days of a problem are told apart by their labels, and it has numbers for its own days only. -/
structure HasLabels (p : Problem) : Prop where
  days : AreLabelled p.days
  demand : ∀ e ∈ p.demand, e.day ∈ p.days

section

variable {p : Problem} (h : p.HasLabels)
include h

/-- The same number of workers is needed for the slot with the label. -/
theorem required?_relabelled (scenario skill : Value) {d : Value} (hd : d ∈ p.days) :
    p.relabelled.required? scenario (relabel d) skill = p.required? scenario d skill := by
  have hcount : ∀ s k, countFor? p.relabelled.demand s (relabel d) k = countFor? p.demand s d k := by
    intro s k
    unfold countFor? relabelled
    rw [List.find?_map, Option.map_map]
    refine congrArg _ (List.find?_congr fun e he => ?_)
    simp only [Function.comp_apply, DemandEntry.isFor, DemandEntry.relabelled,
      same_relabel h.days (h.demand e he) hd]
  unfold required?
  split
  · exact hcount _ _
  · rfl

omit h in
theorem slots_relabelled (p : Problem) :
    p.relabelled.slots = p.slots.map fun (s, d, k) => (s, relabel d, k) := by
  unfold slots relabelled
  simp only [List.map_flatMap, List.flatMap_map, List.map_map]
  rfl

omit h in
theorem day_mem_of_mem_slots {s d k : Value} (hslot : (s, d, k) ∈ p.slots) : d ∈ p.days := by
  unfold slots at hslot
  simp only [List.mem_flatMap, List.mem_map, Prod.mk.injEq] at hslot
  obtain ⟨_, -, _, hd, _, -, -, rfl, -⟩ := hslot
  exact hd

theorem counts_relabelled : p.relabelled.counts = p.counts := by
  unfold counts
  rw [slots_relabelled, List.filterMap_map]
  exact List.filterMap_congr fun ⟨s, d, k⟩ hslot =>
    required?_relabelled h s k (day_mem_of_mem_slots hslot)

omit h in
theorem assignKeys_relabelled (p : Problem) :
    p.relabelled.assignKeys = p.assignKeys.map relabelKey := by
  unfold assignKeys relabelled
  simp only [List.map_flatMap, List.flatMap_map, List.map_map]
  rfl

omit h in
theorem isAssignKey_of_mem {key : Key} (hkey : key ∈ p.assignKeys) : IsAssignKey p.days key := by
  obtain ⟨c, -, d, hd, k, -, rfl⟩ := mem_assignKeys.mp hkey
  exact ⟨c, d, hd, k, rfl⟩

omit h in
/-- All variables for assignments are variables of the days. -/
theorem isAssignKey_of_mem_keys (p : Problem) : ∀ k ∈ p.assign.keys, IsAssignKey p.days k :=
  Family.forall_keys_ofPairs fun _ he => isAssignKey_of_mem (List.fst_mem_of_mem_zipIdx he)

theorem assign_relabelled : p.relabelled.assign = p.assign.relabelled := by
  have hpairs : ∀ e ∈ p.assignKeys.zipIdx 0, IsAssignKey p.days e.1 :=
    fun _ he => isAssignKey_of_mem (List.fst_mem_of_mem_zipIdx he)
  unfold assign
  rw [assignKeys_relabelled, List.zipIdx_map, relabelled_ofPairs h.days hpairs]
  rfl

omit h in
theorem hire_relabelled (p : Problem) : p.relabelled.hire = p.hire := by
  unfold hire
  rw [assignKeys_relabelled, List.length_map]
  rfl

/-- An assignment has one variable, whether its day is named or given. -/
theorem number_relabelled (c k : Value) {d : Value} (hd : d ∈ p.days) :
    p.relabelled.assign.number [c, relabel d, k] = p.assign.number [c, d, k] := by
  rw [assign_relabelled h]
  exact Staffing.number_relabelled h.days p.isAssignKey_of_mem_keys ⟨c, d, hd, k, rfl⟩

/-! ### Constraints -/

theorem coverage_relabelled : p.relabelled.coverage = p.coverage := by
  unfold coverage
  rw [slots_relabelled, List.filterMap_map]
  refine List.filterMap_congr fun ⟨s, d, k⟩ hslot => ?_
  have hd := day_mem_of_mem_slots hslot
  dsimp only [Function.comp_apply]
  rw [required?_relabelled h s k hd]
  simp only [number_relabelled h _ k hd]
  rfl

theorem eligibility_relabelled : p.relabelled.eligibility = p.eligibility := by
  unfold eligibility
  refine List.flatMap_congr fun c _ => ?_
  show (p.days.map relabel).flatMap _ = _
  rw [List.flatMap_map]
  refine List.flatMap_congr fun d hd => ?_
  simp only [number_relabelled h c _ hd]
  rfl

theorem hiring_relabelled : p.relabelled.hiring = p.hiring := by
  unfold hiring
  rw [assignKeys_relabelled, List.map_map, hire_relabelled]
  refine List.map_congr_left fun key hkey => ?_
  obtain ⟨c, d, hd, k, rfl⟩ := isAssignKey_of_mem hkey
  simp only [Function.comp_apply, relabelKey, number_relabelled h c k hd]
  rfl

theorem dailyLimits_relabelled : p.relabelled.dailyLimits = p.dailyLimits := by
  unfold dailyLimits
  refine List.flatMap_congr fun c _ => ?_
  show (p.days.map relabel).map _ = _
  rw [List.map_map]
  refine List.map_congr_left fun d hd => ?_
  simp only [Function.comp_apply, number_relabelled h c _ hd]
  rfl

theorem goal_relabelled : p.relabelled.goal = p.goal := by
  unfold goal
  rw [assign_relabelled h, hire_relabelled, Family.numbers_relabelled]
  rfl

end

end Problem

/-! ### Reading -/

end Staffing

/-- The specification with a list of labels in place of its days. -/
def Specification.labelled (s : Specification) (days : List Value) : Specification :=
  s.withIndex "days" (.listed (days.map relabel))

namespace Specification

variable (s : Specification) (days : List Value)

theorem parameters_labelled : (s.labelled days).parameters = s.parameters := rfl

theorem indexValues_labelled : (s.labelled days).indexValues "days" = .ok (days.map relabel) := by
  unfold indexValues labelled withIndex
  rw [Named.find?_insert, if_pos rfl]
  rfl

/-- All other indexes stay as they are. -/
theorem find?_labelled {name : String} (hname : name ≠ "days") :
    (s.labelled days).indexes.find? name = s.indexes.find? name := by
  unfold labelled withIndex
  rw [Named.find?_insert, if_neg hname]

theorem indexValues_labelled_of_ne {name : String} (hname : name ≠ "days") :
    (s.labelled days).indexValues name = s.indexValues name := by
  unfold indexValues
  rw [find?_labelled s days hname]

theorem indexOrDefault_labelled {name : String} (hname : name ≠ "days") (others : List Value) :
    (s.labelled days).indexOrDefault name others = s.indexOrDefault name others := by
  unfold indexOrDefault hasIndex Named.contains
  rw [indexValues_labelled_of_ne s days hname, find?_labelled s days hname]

end Specification

namespace Staffing

/-- A specification with labels declares the problem with labels, or fails as the one with days.
Only the days are read in another form, and each part of the problem has its lemma. -/
theorem Problem.ofSpecification_labelled {s : Specification} {days : List Value}
    (hdays : AreLabelled days) (h : s.indexValues "days" = .ok days) :
    Corresponds (fun p p' => p.days = days ∧ p.HasLabels ∧ p' = p.relabelled)
      (ofSpecification s) (ofSpecification (s.labelled days)) := by
  unfold ofSpecification
  rw [h, s.indexValues_labelled, s.indexValues_labelled_of_ne days (by decide),
    s.indexValues_labelled_of_ne days (by decide), s.indexOrDefault_labelled days (by decide)]
  refine Corresponds.bind (R := fun a b => days = a ∧ b = days.map relabel) (.ok ⟨rfl, rfl⟩) ?_
  rintro _ _ ⟨rfl, rfl⟩
  refine Corresponds.bind_same fun candidates _ => ?_
  refine Corresponds.bind_same fun skills _ => ?_
  refine Corresponds.bind_same fun scenarios _ => ?_
  refine Corresponds.bind_same fun v _ => ?_
  obtain ⟨hdemand, hmem⟩ := demandFrom_relabel hdays v (scenarios.map Value.shown)
  rw [hdemand]
  refine Corresponds.bind (Corresponds.of_map _ _) ?_
  rintro demand _ ⟨hread, rfl⟩
  refine Corresponds.bind_same fun v _ => ?_
  refine Corresponds.bind_same fun granted _ => ?_
  have hlabels : ∀ cost limit,
      HasLabels ⟨days, candidates, skills, scenarios, demand, granted, cost, limit⟩ :=
    fun _ _ => ⟨hdays, hmem demand hread⟩
  have hcounts : ∀ cost, Problem.counts ⟨days.map relabel, candidates, skills, scenarios,
      demand.map DemandEntry.relabelled, granted, cost, 0⟩ = _ :=
    fun cost => counts_relabelled (hlabels cost 0)
  simp only [hcounts, s.parameters_labelled days]
  -- whether there are costs or not, they are the same for both
  split
  all_goals
    refine Corresponds.bind_same fun cost _ => ?_
    refine Corresponds.bind_same fun _ _ => ?_
    refine Corresponds.bind_same fun limit _ => ?_
    refine Corresponds.bind_same fun _ _ => ?_
    exact .ok ⟨rfl, hlabels cost limit, rfl⟩

end Staffing

end Rostering
