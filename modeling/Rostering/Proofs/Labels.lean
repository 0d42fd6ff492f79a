import Rostering.Model.Solution
import Rostering.Proofs.Coverage
import Rostering.Proofs.Staffing.Labels

/-!
# Labels in place of days

A specification may list the labels of its days where another one has a range. Both are built in the
same way, step by step: each step either fails in both with one error, or leads to two models that
differ only in the names of their variables. The one step that tells a day from its label is a window
of hours, as a label has no time. So days and labels can be exchanged, unless a window tells the hour
of the days from midnight.

## The architecture

* **`Model.Relabels`** — two models for the same work, with days in the one and labels in the other.
  Whatever a rule does to a model keeps this up (`Model.Relabels.require`, `register`, `addFamily`,
  …), and what is solved and reported is the same (`Model.Relabels.solve`).
* **`Staffing.timeWindow_labelled`**, **`consecutiveDays_labelled`**, **`restDays_labelled`**,
  **`balanceWorkload_labelled`**, … — one lemma for each rule: it does the same to both.
* **`Specification.WindowsTellNoTime`** — what is asked of windows for this.
* **`Build.assemble_labelled`**, **`Build.run_labelled`** — hence a whole run does, by induction on the
  overrides.
* **`Build.not_run_labelled_of_moment`** — a window of hours takes in nine in the morning, and not its
  label.
-/

namespace Rostering

/-! ## Families -/

theorem Value.length_eq_of_sameItems : ∀ {key other : Key}, Value.sameItems key other = true →
    key.length = other.length
  | [], [], _ => rfl
  | [], _ :: _, h => by simp [Value.sameItems] at h
  | _ :: _, [], h => by simp [Value.sameItems] at h
  | u :: key, v :: other, h => by
      rw [Value.sameItems, Bool.and_eq_true] at h
      rw [List.length_cons, List.length_cons, length_eq_of_sameItems h.2]

theorem length_relabelKey (key : Key) : (relabelKey key).length = key.length := by
  unfold relabelKey
  split <;> rfl

theorem relabelKey_of_length_ne {key : Key} (hkey : key.length ≠ 3) : relabelKey key = key := by
  unfold relabelKey
  split
  · exact absurd rfl hkey
  · rfl

namespace Family

/-- A family without assignments has no labels to take. -/
theorem relabelled_of_length_ne {f : Family} (hf : ∀ k ∈ f.keys, k.length ≠ 3) :
    f.relabelled = f := by
  unfold relabelled
  refine (List.map_congr_left fun e he => ?_).trans (List.map_id f)
  rw [relabelKey_of_length_ne (hf e.1 (List.mem_map_of_mem he))]
  rfl

/-- What is no assignment is found under the key that it had. -/
theorem number_relabelled_of_length_ne (f : Family) {key : Key} (hkey : key.length ≠ 3) :
    f.relabelled.number key = f.number key := by
  have hsame : ∀ k, Value.sameItems key (relabelKey k) = Value.sameItems key k := by
    intro k
    -- keys of different lengths are never the same, whatever is in them
    by_cases hlength : k.length = 3
    · rw [Bool.eq_iff_iff]
      exact ⟨fun h => absurd ((Value.length_eq_of_sameItems h).trans (length_relabelKey k))
          (hlength ▸ hkey), fun h => absurd (Value.length_eq_of_sameItems h) (hlength ▸ hkey)⟩
    · rw [relabelKey_of_length_ne hlength]
  unfold number find? relabelled
  rw [List.find?_map, Option.map_map]
  simp only [Function.comp_def, hsame]

end Family

/-! ## Models -/

/-- A model for the same work, with labels for its days. The variables for assignments come first:
their keys, and the names that are made of these, have the labels. All other variables are the same,
and what is said about variables of one number is the same in both models. -/
structure Model.Relabels (days : List Value) (m m' : Model) : Prop where
  vars : ∃ (keys : List Key) (others : List Variable),
    (∀ key ∈ keys, Staffing.IsAssignKey days key)
    ∧ (∀ f, m.family "assign" = .ok f → f = Family.ofPairs (keys.zipIdx 0))
    ∧ m.vars = keys.map (Variable.ofKey "assign" 0 1) ++ others
    ∧ m'.vars = (keys.map relabelKey).map (Variable.ofKey "assign" 0 1) ++ others
  families : m'.families = m.families.map fun _ f => f.relabelled
  constraints : m'.constraints = m.constraints
  objective : m'.objective = m.objective

namespace Model.Relabels

variable {days : List Value} {m m' : Model}

theorem assigns (h : m.Relabels days m') {f : Family} (hf : m.family "assign" = .ok f) :
    ∀ k ∈ f.keys, Staffing.IsAssignKey days k := by
  obtain ⟨keys, _, hkeys, hassign, -, -⟩ := h.vars
  rw [hassign f hf]
  exact Family.forall_keys_ofPairs fun e he => hkeys e.1 (List.fst_mem_of_mem_zipIdx he)

theorem length_vars (h : m.Relabels days m') : m'.vars.length = m.vars.length := by
  obtain ⟨keys, others, -, -, hvars, hvars'⟩ := h.vars
  rw [hvars, hvars']
  simp only [List.length_append, List.length_map]

theorem hasFamily (h : m.Relabels days m') (name : String) :
    m'.hasFamily name = m.hasFamily name := by
  unfold Model.hasFamily Named.contains
  rw [h.families, Named.find?_map, Option.isSome_map]

/-- A family is there in both models or in neither. -/
theorem family (h : m.Relabels days m') (name : String) :
    Corresponds (fun f f' => m.family name = .ok f ∧ f' = f.relabelled) (m.family name)
      (m'.family name) := by
  have hsame : m'.family name = (m.family name).map Family.relabelled := by
    unfold Model.family
    rw [h.families, Named.find?_map, Named.names_map]
    cases m.families.find? name <;> rfl
  rw [hsame]
  exact Corresponds.of_map _ _

/-! ### Changes of models -/

theorem require (h : m.Relabels days m') (l : List Constraint) :
    (m.require l).Relabels days (m'.require l) where
  vars := h.vars
  families := h.families
  constraints := congrArg (· ++ l) h.constraints
  objective := h.objective

theorem pursue (h : m.Relabels days m') (sense : Sense) (source : String)
    (terms : List (Nat × Coefficient)) :
    (m.pursue sense source terms).Relabels days (m'.pursue sense source terms) where
  vars := h.vars
  families := h.families
  constraints := h.constraints
  objective := rfl

/-- Remarks are no part of what a model says. -/
theorem remark (h : m.Relabels days m') (b b' : Bool) (text : String) :
    (if b then m else m.remark text).Relabels days (if b' then m' else m'.remark text) := by
  cases b <;> cases b' <;> exact ⟨h.vars, h.families, h.constraints, h.objective⟩

theorem create (h : m.Relabels days m') (l : List Variable) :
    (m.create l).Relabels days (m'.create l) := by
  obtain ⟨keys, others, hkeys, hassign, hvars, hvars'⟩ := h.vars
  refine ⟨⟨keys, others ++ l, hkeys, hassign, ?_, ?_⟩, h.families, h.constraints, h.objective⟩
  · exact (congrArg (· ++ l) hvars).trans (List.append_assoc _ _ _)
  · exact (congrArg (· ++ l) hvars').trans (List.append_assoc _ _ _)

/-- A family without assignments can be made known in both. -/
theorem register (h : m.Relabels days m') {name : String} (hname : name ≠ "assign") {f : Family}
    (hf : ∀ k ∈ f.keys, k.length ≠ 3) :
    Corresponds (Model.Relabels days) (m.register name f) (m'.register name f) := by
  unfold Model.register
  rw [show m'.families.contains name = m.families.contains name from h.hasFamily name]
  split
  · exact .error _
  · obtain ⟨keys, others, hkeys, hassign, hvars, hvars'⟩ := h.vars
    refine .ok ⟨⟨keys, others, hkeys, fun g hg => hassign g (family_eq_ok.mpr ?_), hvars, hvars'⟩,
      ?_, h.constraints, h.objective⟩
    · have hfound := family_eq_ok.mp hg
      rwa [Named.find?_insert, if_neg hname.symm] at hfound
    · rw [h.families, Named.map_insert, Family.relabelled_of_length_ne hf]

/-- So can a single variable. -/
theorem addSingle (h : m.Relabels days m') {name : String} (hname : name ≠ "assign")
    (lower upper : Int) :
    Corresponds (Model.Relabels days) (m.addSingle name lower upper)
      (m'.addSingle name lower upper) := by
  unfold Model.addSingle
  rw [h.length_vars]
  refine (h.create _).register hname ?_
  exact List.forall_mem_singleton.mpr (Nat.zero_ne_add_one 2)

theorem addFamily (h : m.Relabels days m') {name : String} (hname : name ≠ "assign")
    {keys : List Key} (hkeys : ∀ k ∈ keys, k.length ≠ 3) (lower upper : Int) :
    Corresponds (Model.Relabels days) (m.addFamily name keys lower upper)
      (m'.addFamily name keys lower upper) := by
  unfold Model.addFamily Model.createFamily Model.nextFamily
  rw [h.length_vars]
  refine (h.create _).register hname (Family.forall_keys_ofPairs fun e he => ?_)
  exact hkeys e.1 (List.fst_mem_of_mem_zipIdx he)

theorem maximize (h : m.Relabels days m') (source : String) (terms : List (Nat × Coefficient)) :
    Corresponds (Model.Relabels days) (m.maximize source terms) (m'.maximize source terms) := by
  unfold Model.maximize
  split
  · exact .ok (h.pursue _ _ _)
  · exact .error _

end Model.Relabels

/-! ### Solutions -/

theorem nested_eq_foldlM {values : FamilyValues} (hvalues : ∀ v, values ≠ [([], v)]) :
    nested values = (values.foldlM (fun es e => nestAt e.2 (e.1.map Value.label) es) []).map
      Value.map := by
  unfold nested
  split
  · next v => exact absurd rfl (hvalues v)
  · rfl

/-- Values are reported under labels, and a key has the labels of its own names. -/
theorem nested_relabelKey (values : FamilyValues) :
    nested (values.map fun e => (relabelKey e.1, e.2)) = nested values := by
  -- a single value without a key is reported as it is, and all others under labels
  by_cases hsingle : ∃ v, values = [([], v)]
  · obtain ⟨v, rfl⟩ := hsingle
    rfl
  · have hvalues : ∀ v, values ≠ [([], v)] := fun v h => hsingle ⟨v, h⟩
    have hrenamed : ∀ v, (values.map fun e => (relabelKey e.1, e.2)) ≠ [([], v)] := by
      intro v h
      obtain ⟨⟨key, u⟩, rfl, he⟩ := List.map_eq_singleton_iff.mp h
      have hkey : relabelKey key = [] := congrArg Prod.fst he
      have hlength := length_relabelKey key
      rw [hkey] at hlength
      exact hvalues u (by rw [List.length_eq_zero_iff.mp hlength.symm])
    rw [nested_eq_foldlM hvalues, nested_eq_foldlM hrenamed, List.foldlM_map]
    simp only [map_label_relabelKey]

namespace Model.Relabels

variable {days : List Value} {m m' : Model}

theorem bounds (h : m.Relabels days m') :
    m'.vars.map (fun x => (x.lower, x.upper)) = m.vars.map fun x => (x.lower, x.upper) := by
  obtain ⟨keys, others, -, -, hvars, hvars'⟩ := h.vars
  rw [hvars, hvars', List.map_append, List.map_append, List.map_map, List.map_map, List.map_map]
  rfl

/-- Where labels are what the days are written as, variables keep their names. -/
theorem vars_eq (h : m.Relabels days m') (hdays : ∀ d ∈ days, d.shown = d.label) :
    m'.vars = m.vars := by
  obtain ⟨keys, others, hkeys, -, hvars, hvars'⟩ := h.vars
  rw [hvars, hvars', List.map_map]
  congr 1
  refine List.map_congr_left fun key hkey => ?_
  obtain ⟨c, d, hd, k, rfl⟩ := hkeys key hkey
  have hname : (relabelKey [c, d, k]).map Value.shown = [c, d, k].map Value.shown := by
    simp only [List.map_cons, List.map_nil, hdays d hd]
    rfl
  unfold Variable.ofKey
  rw [Function.comp_apply, hname]

theorem best? (h : m.Relabels days m') (goal : Terms) : m'.best? goal = m.best? goal := by
  unfold Model.best? Model.rows Model.coefficients Model.box
  rw [h.constraints, h.length_vars, h.bounds]

theorem isValid (h : m.Relabels days m') : m'.isValid = m.isValid := by
  have hall : ∀ l : List Variable, l.all Variable.isValid
      = (l.map fun x => (x.lower, x.upper)).all fun b => Variable.isValid ⟨"", b.1, b.2⟩ := by
    intro l
    rw [List.all_map]
    rfl
  unfold Model.isValid Model.box
  rw [hall, hall, h.bounds, h.constraints]

/-- Solving looks at the bounds of the variables, and not at what they are called. -/
theorem outcome (h : m.Relabels days m') : m'.outcome = m.outcome := by
  have hbox : m'.box = m.box := congrArg List.toArray h.bounds
  unfold Model.outcome Model.solveFor
  rw [h.isValid, h.objective, hbox]
  simp only [h.best?]

/-- Values of the variables are reported under the same labels. -/
theorem ofValues_valuesAt (h : m.Relabels days m') (status : String) (goal : Option Float)
    (point : Array Int) : Solution.ofValues status goal (m'.valuesAt point)
      = Solution.ofValues status goal (m.valuesAt point) := by
  have hvalues : (m'.valuesAt point).entries = (m.valuesAt point).entries.map fun e =>
      (e.1, e.2.map fun value => (relabelKey value.1, value.2)) := by
    unfold Model.valuesAt Named.map
    rw [h.families]
    simp only [Named.map, List.map_map, Family.relabelled, Function.comp_def]
  unfold Solution.ofValues Named.mapExcept
  rw [hvalues, List.mapM_map]
  simp only [Function.comp_def, nested_relabelKey]

theorem solve (h : m.Relabels days m') : m'.solve = m.solve := by
  unfold Model.solve
  rw [h.outcome]
  cases m.outcome with
  | optimal point goal => exact h.ofValues_valuesAt _ _ _
  | invalid => rfl
  | infeasible => rfl

end Model.Relabels

/-! ## Rules -/

namespace Staffing

/-- A window looks at nothing but the hour. -/
theorem isWithin_congr {d e : Value} (h : hourOf d = hourOf e) (first last : Int) :
    isWithin first last d = isWithin first last e := by
  unfold isWithin
  rw [h]

def Indexes.relabelled (ix : Indexes) : Indexes := { ix with days := ix.days.map relabel }

section

variable {days : List Value} (hdays : AreLabelled days) {f : Family}
  (hf : ∀ k ∈ f.keys, IsAssignKey days k) {ix : Indexes} (hix : ix.days = days)
include hdays hf

theorem workOn_relabelled (skills : List Value) (c : Value) {d : Value} (hd : d ∈ days) :
    workOn f.relabelled skills c (relabel d) = workOn f skills c d := by
  unfold workOn
  refine congrArg Terms.ofVariables (List.map_congr_left fun k _ => ?_)
  exact number_relabelled hdays hf ⟨c, d, hd, k, rfl⟩

theorem workOver_relabelled (skills : List Value) (c : Value) {l : List Value} (hl : l ⊆ days) :
    workOver f.relabelled skills c (l.map relabel) = workOver f skills c l := by
  unfold workOver
  rw [List.flatMap_map]
  exact List.flatMap_congr fun d hd => workOn_relabelled hdays hf skills c (hl hd)

include hix

/-- A window with the same effect on all days asks for the same. -/
theorem windowConstraints_relabelled (c : Value) {first last : Int}
    (hwindow : ∀ d ∈ days, isWithin first last (relabel d) = isWithin first last d) :
    windowConstraints f.relabelled ix.relabelled c first last
      = windowConstraints f ix c first last := by
  subst hix
  unfold windowConstraints Indexes.relabelled
  rw [List.filter_map, List.flatMap_map]
  rw [List.filter_congr fun d hd => by rw [Function.comp_apply, hwindow d hd]]
  refine List.flatMap_congr fun d hd => List.map_congr_left fun k _ => ?_
  have hnumber := number_relabelled hdays hf ⟨c, d, (List.mem_filter.mp hd).1, k, rfl⟩
  exact congrArg (fun n => Constraint.exactly (.ofVariables [n]) 0) hnumber

theorem consecutiveConstraints_relabelled (most : Nat) :
    consecutiveConstraints f.relabelled ix.relabelled most
      = consecutiveConstraints f ix most := by
  subst hix
  unfold consecutiveConstraints Indexes.relabelled
  rw [List.length_map]
  refine List.flatMap_congr fun c _ => List.map_congr_left fun i _ => ?_
  rw [← List.map_drop, ← List.map_take]
  rw [workOver_relabelled hdays hf ix.skills c fun d hd =>
    List.mem_of_mem_drop (List.mem_of_mem_take hd)]

theorem workAt_relabelled (c : Value) {i : Nat} (hi : i < ix.days.length) :
    workAt f.relabelled ix.relabelled c i = workAt f ix c i := by
  subst hix
  unfold workAt Indexes.relabelled
  rw [List.getElem?_map, List.getElem?_eq_getElem hi]
  exact workOn_relabelled hdays hf ix.skills c (List.getElem_mem hi)

/-- The rule for days of rest never looks behind the last day. -/
theorem restConstraints_relabelled (rest : Nat) :
    restConstraints f.relabelled ix.relabelled rest = restConstraints f ix rest := by
  have hat := fun c {i} => workAt_relabelled hdays hf hix c (i := i)
  unfold restConstraints
  rw [show ix.relabelled.days.length = ix.days.length from List.length_map _]
  refine List.flatMap_congr fun c _ => List.flatMap_congr fun i hi =>
    List.map_congr_left fun r hr => ?_
  have hi := List.mem_range.mp hi
  have hr := List.mem_range.mp hr
  -- the two days and the one between them stand before the end of the list
  rw [hat c (by omega), hat c (by omega), hat c (by omega)]

theorem loadConstraints_relabelled (workload : Family) (largest : Nat) :
    loadConstraints f.relabelled workload.relabelled largest ix.relabelled
      = loadConstraints f workload largest ix := by
  subst hix
  unfold loadConstraints Indexes.relabelled
  refine List.flatMap_congr fun c _ => ?_
  have hnumber : workload.relabelled.number [c] = workload.number [c] :=
    workload.number_relabelled_of_length_ne (by simp)
  simp only [hnumber, workOver_relabelled hdays hf ix.skills c (List.Subset.refl _)]

end

/-! ### What rules add -/

section

variable {days : List Value} (hdays : AreLabelled days) {s : Specification}
  (hs : s.indexValues "days" = .ok days) {m m' : Model} (hm : m.Relabels days m')
  (args : Arguments)

include hs in
theorem Indexes.ofSpecification_labelled :
    Corresponds (fun ix ix' => ix.days = days ∧ ix' = ix.relabelled) (ofSpecification s)
      (ofSpecification (s.labelled days)) := by
  unfold ofSpecification
  rw [hs, s.indexValues_labelled, s.indexValues_labelled_of_ne days (by decide),
    s.indexValues_labelled_of_ne days (by decide)]
  refine Corresponds.bind_same fun candidates _ => ?_
  refine Corresponds.bind (R := fun a b => days = a ∧ b = days.map relabel) (.ok ⟨rfl, rfl⟩) ?_
  rintro _ _ ⟨rfl, rfl⟩
  exact Corresponds.bind_same fun skills _ => .ok ⟨rfl, rfl⟩

include hdays hs hm

/-- A window that does not tell a day from its label has the same effect on both. A label is a text
and has the hour zero, so that a window sees no difference if it treats the hour of the day like
that. -/
theorem timeWindow_labelled
    (hwindow : ∀ first last,
      wholeArgument args "start_time" (Int.ofNat Settings.windowStart) = .ok first →
      wholeArgument args "end_time" (Int.ofNat Settings.windowEnd) = .ok last →
      ∀ d ∈ days, isWithin first last (relabel d) = isWithin first last d) :
    Corresponds (Model.Relabels days) (timeWindow m s args)
      (timeWindow m' (s.labelled days) args) := by
  unfold timeWindow
  rw [hm.hasFamily, s.indexValues_labelled_of_ne days (by decide)]
  refine Corresponds.bind_same fun candidate _ => ?_
  refine Corresponds.bind_same fun first hfirst => ?_
  refine Corresponds.bind_same fun last hlast => ?_
  split
  · exact .ok hm
  · refine Corresponds.bind ((hm.family "assign").mapError Failure.fault) ?_
    rintro assign _ ⟨hassign, rfl⟩
    refine Corresponds.bind_same fun candidates _ => ?_
    split
    · exact .error _
    · refine Corresponds.bind (Indexes.ofSpecification_labelled hs) ?_
      rintro ix _ ⟨hix, rfl⟩
      -- a label is no moment, so only the one with labels may get a remark
      rw [windowConstraints_relabelled hdays (hm.assigns hassign) hix candidate
        (hwindow first last hfirst hlast)]
      exact .ok ((hm.remark _ _ _).require _)

omit hdays in
/-- What is required of the assignments for all listed days is the same, if its constraints are. -/
theorem require_labelled {l : Family → Indexes → List Constraint}
    (hl : ∀ f ix, (∀ k ∈ f.keys, IsAssignKey days k) → ix.days = days →
      l f.relabelled ix.relabelled = l f ix) :
    Corresponds (Model.Relabels days)
      (do
        let assign ← asFault (m.family "assign")
        let ix ← Indexes.ofSpecification s
        pure (m.require (l assign ix)))
      (do
        let assign ← asFault (m'.family "assign")
        let ix ← Indexes.ofSpecification (s.labelled days)
        pure (m'.require (l assign ix))) := by
  refine Corresponds.bind ((hm.family "assign").mapError Failure.fault) ?_
  rintro assign _ ⟨hassign, rfl⟩
  refine Corresponds.bind (Indexes.ofSpecification_labelled hs) ?_
  rintro ix _ ⟨hix, rfl⟩
  -- both models were asked for the same, so what is required is the same list
  rw [hl assign ix (hm.assigns hassign) hix]
  exact .ok (hm.require _)

theorem consecutiveDays_labelled :
    Corresponds (Model.Relabels days) (consecutiveDays m s args)
      (consecutiveDays m' (s.labelled days) args) := by
  unfold consecutiveDays
  rw [hm.hasFamily]
  refine Corresponds.bind_same fun most _ => ?_
  split
  · exact .ok hm
  · exact require_labelled hs hm fun f ix hf hix =>
      consecutiveConstraints_relabelled hdays hf hix most

theorem restDays_labelled :
    Corresponds (Model.Relabels days) (restDays m s args)
      (restDays m' (s.labelled days) args) := by
  unfold restDays
  rw [hm.hasFamily]
  refine Corresponds.bind_same fun rest _ => ?_
  split
  · exact .ok hm
  · exact require_labelled hs hm fun f ix hf hix => restConstraints_relabelled hdays hf hix rest

/-- Loads are those of candidates, and candidates keep their names. -/
theorem balanceWorkload_labelled :
    Corresponds (Model.Relabels days) (balanceWorkload m s args)
      (balanceWorkload m' (s.labelled days) args) := by
  unfold balanceWorkload
  rw [hm.hasFamily]
  split
  · exact .ok hm
  · refine Corresponds.bind ((hm.family "assign").mapError Failure.fault) ?_
    rintro assign _ ⟨hassign, rfl⟩
    refine Corresponds.bind (Indexes.ofSpecification_labelled hs) ?_
    rintro ix _ ⟨hix, rfl⟩
    -- there are as many labels as days, so the bounds of the new variables are the same
    have hlength : ix.relabelled.days.length = ix.days.length := List.length_map _
    have hkeys : ∀ k ∈ ix.candidates.map fun c => [c], k.length ≠ 3 :=
      List.forall_mem_map.mpr fun c _ => by simp
    rw [hlength]
    refine Corresponds.bind ((hm.addFamily (by decide) hkeys _ _).mapError Failure.fault) ?_
    -- each of the next steps works on the two models that the last one has left
    intro m₁ m₁' hm₁
    refine Corresponds.bind ((hm₁.family "workload").mapError Failure.fault) ?_
    rintro workload _ ⟨-, rfl⟩
    rw [hm₁.length_vars]
    refine Corresponds.bind ((hm₁.addSingle (by decide) _ _).mapError Failure.fault) ?_
    intro m₂ m₂' hm₂
    rw [loadConstraints_relabelled hdays (hm.assigns hassign) hix]
    exact .ok ((hm₂.require _).pursue _ _ _)

omit hdays hs

/-- Costs are of candidates, and candidates keep their names. -/
theorem minimizeCost_labelled :
    Corresponds (Model.Relabels days) (minimizeCost m s args)
      (minimizeCost m' (s.labelled days) args) := by
  unfold minimizeCost
  rw [hm.hasFamily, s.indexValues_labelled_of_ne days (by decide), s.parameters_labelled days]
  refine Corresponds.bind_same fun factor _ => ?_
  split
  · exact .ok hm
  · refine Corresponds.bind_same fun cost _ => ?_
    refine Corresponds.bind ((hm.family "hire").mapError Failure.fault) ?_
    rintro hire _ ⟨-, rfl⟩
    refine Corresponds.bind_same fun candidates _ => ?_
    -- so hiring somebody is the same variable in both
    have hterms : costTerms hire.relabelled candidates cost (product factor)
        = costTerms hire candidates cost (product factor) := by
      unfold costTerms
      have hnumber : ∀ c, hire.relabelled.number [c] = hire.number [c] :=
        fun c => hire.number_relabelled_of_length_ne (by simp)
      simp only [hnumber]
    rw [hterms]
    exact Corresponds.bind_same fun terms _ => .ok (hm.pursue _ _ _)

theorem maximizeCoverage_labelled :
    Corresponds (Model.Relabels days) (maximizeCoverage m s args)
      (maximizeCoverage m' (s.labelled days) args) := by
  unfold maximizeCoverage
  rw [hm.hasFamily]
  refine Corresponds.bind_same fun weight _ => ?_
  split
  · exact .ok hm
  · refine Corresponds.bind ((hm.family "assign").mapError Failure.fault) ?_
    rintro assign _ ⟨-, rfl⟩
    refine Corresponds.bind_same fun weight _ => ?_
    rw [Family.numbers_relabelled]
    exact (hm.maximize _ _).mapError Failure.fault

end

end Staffing

/-! ## Builds -/

/-- A problem with labels for its days has the model with labels. Variables are numbered by the
order of the keys, which naming the days does not change. -/
theorem Staffing.Problem.model_relabelled {p : Problem} (h : p.HasLabels) :
    Corresponds (Model.Relabels p.days) p.model p.relabelled.model := by
  unfold model
  rw [goal_relabelled h]
  refine Corresponds.bind_same fun goal _ => .ok ?_
  -- keys of hiring have one part and stay as they are
  have hhire : p.hire.relabelled = p.hire :=
    Family.relabelled_of_length_ne (Family.forall_keys_ofPairs fun e he => by
      obtain ⟨c, -, hkey⟩ := List.mem_map.mp (List.fst_mem_of_mem_zipIdx he)
      simp [← hkey])
  refine ⟨⟨p.assignKeys, _, fun key => isAssignKey_of_mem, ?_, rfl, ?_⟩, ?_, ?_, rfl⟩
  · intro f hf
    cases hf
    rfl
  · rw [← assignKeys_relabelled]
    rfl
  · rw [Named.map_ofList, assign_relabelled h, hire_relabelled]
    simp only [List.map_cons, List.map_nil, hhire]
  · -- the four groups of constraints, each of which is the same
    show p.relabelled.coverage ++ _ ++ _ ++ _ = _
    rw [coverage_relabelled h, eligibility_relabelled h, hiring_relabelled h,
      dailyLimits_relabelled h]

/-- All windows of a specification take in the hour of a day exactly if they take in hour zero, which
is what they see in its label. -/
def Specification.WindowsTellNoTime (s : Specification) (day : Value) : Prop :=
  ∀ o ∈ s.overridesFor "constraints", o.target = "time_window" → ∀ first last,
    Staffing.wholeArgument o.args "start_time" (Int.ofNat Settings.windowStart) = .ok first →
    Staffing.wholeArgument o.args "end_time" (Int.ofNat Settings.windowEnd) = .ok last →
    Staffing.isWithin first last (relabel day) = Staffing.isWithin first last day

namespace Specification.WindowsTellNoTime

/-- They do so for dates, and for whatever else is in the first hour. -/
theorem of_hour (s : Specification) {day : Value} (hday : Staffing.hourOf day = 0) :
    s.WindowsTellNoTime day :=
  fun _ _ _ first last _ _ => Staffing.isWithin_congr (hday ▸ rfl) first last

/-- All days of a range are in the hour of the first. -/
theorem of_range {s : Specification} {first last : Day} (h : s.WindowsTellNoTime (.day first)) :
    ∀ d ∈ (Index.range first last).members, s.WindowsTellNoTime d := by
  intro d hd o ho htarget start stop hstart hstop
  obtain ⟨e, he, rfl⟩ := List.mem_map.mp hd
  obtain ⟨a, rfl⟩ := Day.exists_onDate_of_mem_through he
  have hhour : Staffing.hourOf (.day (first.onDate a)) = Staffing.hourOf (.day first) :=
    Day.hour_onDate first a
  rw [Staffing.isWithin_congr hhour]
  exact h o ho htarget start stop hstart hstop

end Specification.WindowsTellNoTime

/-- A model for the same work, with labels for its days, to which the same overrides were applied. -/
structure Built.Relabels (days : List Value) (b b' : Built Model) : Prop where
  handle : b.handle.Relabels days b'.handle
  applied : b'.applied = b.applied

namespace Build

open Staffing (AreLabelled)

/-- Loading does not look at indexes. -/
theorem materializeAll_labelled {σ : Type} (l : Loader σ) (w : World σ) (s : Specification)
    (days : List Value) : l.materializeAll w (s.labelled days)
      = ((l.materializeAll w s).1.map fun t => t.labelled days, (l.materializeAll w s).2) := by
  unfold Loader.materializeAll
  rw [s.parameters_labelled]
  generalize l.materializeEntries w s.parameters.entries = r
  obtain ⟨result, l', w'⟩ := r
  cases result <;> rfl

section

variable {days : List Value} {s : Specification}

theorem workScheduling_labelled (hdays : AreLabelled days) (hs : s.indexValues "days" = .ok days) :
    Corresponds (Model.Relabels days) (workScheduling s) (workScheduling (s.labelled days)) := by
  unfold workScheduling
  refine (Corresponds.bind (Staffing.Problem.ofSpecification_labelled hdays hs) ?_).mapError _
  rintro p _ ⟨rfl, hp, rfl⟩
  exact Staffing.Problem.model_relabelled hp

/-- An override does the same to both models if its rule does. -/
theorem applyOverride_labelled {lookup : String → Except MissingCapability (Rule Model)}
    {o : Override} (hrule : ∀ rule, lookup o.target = .ok rule → ∀ m m' : Model,
      m.Relabels days m' →
        Corresponds (Model.Relabels days) (rule m s o.args) (rule m' (s.labelled days) o.args))
    {b b' : Built Model} (hb : b.Relabels days b') :
    Corresponds (Built.Relabels days) (applyOverride lookup s b o)
      (applyOverride lookup (s.labelled days) b' o) := by
  unfold applyOverride
  refine Corresponds.bind_same fun rule hfound => ?_
  refine Corresponds.bind ((hrule rule (mapError_eq_ok.mp hfound) _ _ hb.handle).mapError _) ?_
  exact fun m m' hm => .ok ⟨hm, congrArg (· ++ [o.label]) hb.applied⟩

/-- Constraints do the same to both, if windows do. -/
theorem constraint_labelled (hdays : AreLabelled days) (hs : s.indexValues "days" = .ok days)
    (hwindows : ∀ d ∈ days, s.WindowsTellNoTime d) {o : Override}
    (ho : o ∈ s.overridesFor "constraints") {rule : Rule Model}
    (hrule : builtins.constraint o.target = .ok rule) (m m' : Model) (hm : m.Relabels days m') :
    Corresponds (Model.Relabels days) (rule m s o.args) (rule m' (s.labelled days) o.args) := by
  rcases constraint_builtins hrule with ⟨htarget, rfl⟩ | ⟨-, rfl⟩ | ⟨-, rfl⟩
  · exact Staffing.timeWindow_labelled hdays hs hm o.args fun first last hfirst hlast d hd =>
      hwindows d hd o ho htarget first last hfirst hlast
  · exact Staffing.consecutiveDays_labelled hdays hs hm o.args
  · exact Staffing.restDays_labelled hdays hs hm o.args

/-- Goals do the same to both. -/
theorem objective_labelled (hdays : AreLabelled days) (hs : s.indexValues "days" = .ok days)
    {o : Override} {rule : Rule Model} (hrule : builtins.objective o.target = .ok rule)
    (m m' : Model) (hm : m.Relabels days m') :
    Corresponds (Model.Relabels days) (rule m s o.args) (rule m' (s.labelled days) o.args) := by
  rcases objective_builtins hrule with ⟨-, rfl⟩ | ⟨-, rfl⟩ | ⟨-, rfl⟩
  · exact Staffing.minimizeCost_labelled hm o.args
  · exact Staffing.maximizeCoverage_labelled hm o.args
  · exact Staffing.balanceWorkload_labelled hdays hs hm o.args

/-- A specification with labels is made into the model with labels, or fails as the one with days. -/
theorem assemble_labelled (hdays : AreLabelled days) (hs : s.indexValues "days" = .ok days)
    (hwindows : ∀ d ∈ days, s.WindowsTellNoTime d) :
    Corresponds (Built.Relabels days) (assemble builtins s)
      (assemble builtins (s.labelled days)) := by
  unfold assemble
  refine Corresponds.bind_same fun template hfound => ?_
  rw [(template_builtins (mapError_eq_ok.mp hfound)).2]
  refine Corresponds.bind ((workScheduling_labelled hdays hs).mapError _) fun m m' hm => ?_
  -- all constraints in turn, from the two models that the template has made
  have hconstraints := Corresponds.foldlM (fun o ho b b' hb => applyOverride_labelled
    (fun rule hrule => constraint_labelled hdays hs hwindows ho hrule) hb)
    (a := ⟨m, []⟩) (b := ⟨m', []⟩) ⟨hm, rfl⟩
  refine Corresponds.bind hconstraints fun b b' hb => ?_
  rw [show (s.labelled days).overridesFor "objective" = s.overridesFor "objective" from rfl]
  cases s.overridesFor "objective" with
  | nil => exact .ok hb
  | cons o os =>
      exact applyOverride_labelled (fun rule hrule => objective_labelled hdays hs hrule) hb

end

/-- The labels of the days of a range do in their place: building fails with the same error, or gives
a model with the same constraints and goal, in which variables of the same numbers have the labels in
their keys; values for the variables are reported in the same way, and so is what solving comes to. -/
theorem run_labelled {σ : Type} (l : Loader σ) (w : World σ) {s : Specification} {first last : Day}
    (hrange : s.indexes.find? "days" = some (.range first last))
    (hwindows : s.WindowsTellNoTime (.day first)) :
    let days := (Index.range first last).members
    (run builtins l w (s.labelled days)).2 = (run builtins l w s).2
      ∧ Corresponds (fun b b' : Built Model => b.Relabels days b'
          ∧ ((∃ a, first = .date a) → b'.handle.vars = b.handle.vars)
          ∧ (∀ status goal point, Solution.ofValues status goal (b'.handle.valuesAt point)
            = Solution.ofValues status goal (b.handle.valuesAt point))
          ∧ b'.handle.solve = b.handle.solve)
        (run builtins l w s).1 (run builtins l w (s.labelled days)).1 := by
  intro days
  have hdays : AreLabelled days := Staffing.areLabelled_range first last
  unfold run
  rw [materializeAll_labelled]
  generalize hload : l.materializeAll w s = r
  obtain ⟨result, l', w'⟩ := r
  refine ⟨rfl, ?_⟩
  -- the loaded data are the same, and indexes and overrides are kept
  cases result with
  | error e => exact .error _
  | ok t =>
      obtain ⟨-, hindexes, hoverrides⟩ :=
        Loader.kept_of_materializeAll (congrArg Prod.fst hload)
      have ht : t.indexValues "days" = .ok days := by
        unfold Specification.indexValues
        rw [hindexes, hrange]
        rfl
      have hwindows' : t.WindowsTellNoTime (.day first) := by
        unfold Specification.WindowsTellNoTime Specification.overridesFor
        rw [hoverrides]
        exact hwindows
      refine (assemble_labelled hdays ht hwindows'.of_range).mono fun b b' hb => ?_
      refine ⟨hb, ?_, hb.handle.ofValues_valuesAt, hb.handle.solve⟩
      rintro ⟨a, rfl⟩
      exact hb.handle.vars_eq (Day.shown_of_mem_range a last)

/-! ### A desk with a window -/

/-- A desk that needs a worker on the first day, and a window of hours for Ann. -/
def windowDesk (names : List String) (first last : Day) : Specification :=
  ⟨"work_scheduling",
    .ofList [("days", .range first last), ("candidates", .listed (names.map .str)),
      ("skills", .listed [.str "desk"])],
    .ofList [("demand", .table ["day", "skill", "value"] (.literal .null)
        (some ⟨[.str "day", .str "skill", .str "value"],
          [[.str first.label, .str "desk", .int 1]]⟩)),
      ("candidate_skills", .table ["candidate", "skill"] (.literal .null)
        (some ⟨[.str "candidate", .str "skill"],
          names.map fun name => [.str name, .str "desk"]⟩))],
    .empty,
    .ofList [("constraints", [⟨"", "time_window", .ofList [("candidate", .str "Ann")]⟩])]⟩

/-- Two dates: in both models Bob is left to work at the desk, and solving comes to the same. The
windows treat dates like their texts, so that nothing has to be assumed of the hour. -/
theorem run_labelled_of_dates :
    let first : Day := .date Staffing.newYear
    let last : Day := .date ⟨Staffing.newYear.index + 1, by decide⟩
    let s := windowDesk ["Ann", "Bob"] first last
    let days := (Index.range first last).members
    ∃ b b', (run builtins literalLoader literalWorld s).1 = .ok b
      ∧ (run builtins literalLoader literalWorld (s.labelled days)).1 = .ok b'
      ∧ b.Relabels days b' ∧ b'.handle.vars = b.handle.vars ∧ b'.handle.solve = b.handle.solve := by
  intro first last s days
  have hrange : s.indexes.find? "days" = some (.range first last) := rfl
  -- the window tells the hour of no member, since dates have none
  obtain ⟨-, hsame⟩ := run_labelled literalLoader literalWorld hrange (.of_hour s rfl)
  have hbuilds : (run builtins literalLoader literalWorld s).1.toOption.isSome = true := by
    decide +kernel
  obtain ⟨b, hb⟩ := Option.isSome_iff_exists.mp hbuilds
  have hbuild := eq_ok_of_toOption hb
  -- both runs end alike, and one of them is known to succeed
  generalize (run builtins literalLoader literalWorld (s.labelled days)).1 = r at hsame ⊢
  rw [hbuild] at hsame
  cases hsame with
  | ok h => exact ⟨b, _, hbuild, rfl, h.1, h.2.1 ⟨_, rfl⟩, h.2.2.2⟩

/-- Nine in the morning is in the window, and its label is not: Ann can work at the one, and nobody
can work at the other. -/
theorem not_run_labelled_of_moment :
    let nine : Day := .moment ⟨Staffing.newYear, 9, 0, 0, 0, none⟩
    let s := windowDesk ["Ann"] nine nine
    ∃ b b', (run builtins literalLoader literalWorld s).1 = .ok b
      ∧ (run builtins literalLoader literalWorld
        (s.labelled (Index.range nine nine).members)).1 = .ok b'
      ∧ (∀ c ∈ b.handle.constraints, c.Holds fun _ => 1)
      ∧ ∀ v, ¬ ∀ c ∈ b'.handle.constraints, c.Holds v := by
  intro nine s
  have hworks : (run builtins literalLoader literalWorld s).1.toOption.any (fun b =>
      b.handle.constraints.all fun c => decide (c.Holds fun _ => 1)) = true := by
    decide +kernel
  -- the demand for one and a window that takes in no day contradict each other
  have hblocked : (run builtins literalLoader literalWorld
      (s.labelled (Index.range nine nine).members)).1.toOption.any (fun b =>
        b.handle.constraints.contains (.atLeast (.ofVariables [0]) 1)
          && b.handle.constraints.contains (.exactly (.ofVariables [0]) 0)) = true := by
    decide +kernel
  simp only [Option.any_eq_true, Bool.and_eq_true, List.all_eq_true, decide_eq_true_eq,
    List.contains_iff_mem] at hworks hblocked
  obtain ⟨b, hb, hholds⟩ := hworks
  obtain ⟨b', hb', hneeded, hnobody⟩ := hblocked
  refine ⟨b, b', eq_ok_of_toOption hb, eq_ok_of_toOption hb', hholds, fun v hv => ?_⟩
  have hleast := hv _ hneeded
  have hnone := hv _ hnobody
  rw [Constraint.holds_atLeast] at hleast
  rw [Constraint.holds_exactly] at hnone
  omega

end Build

end Rostering
