import Rostering.Build
import Rostering.Proofs.Except

/-!
# How planning fails

A template and a rule are to fail with faults that building knows how to report: something is
missing, or of the wrong type, or of the wrong value. Two sorts of fault are none of these: data that
have no columns where a table is wanted, and whole numbers too large for a float.

## The architecture

* **`Problem.ofSpecification_fails`** — reading a problem; what escapes is told by `Problem.Escapes`.
* **`Problem.model_fails`** — the model of a problem lets nothing escape.
* **`timeWindow_fails`**, **`consecutiveDays_fails`**, **`restDays_fails`**,
  **`maximizeCoverage_fails`** and **`balanceWorkload_fails`** — nor do these rules.
* **`minimizeCost_fails`** — the only rule that does, by a product of factor and cost.
-/

namespace Rostering.Staffing

open Build (rejectsSpecification rejectsArguments)

/-! ## Faults that are reported -/

/-- Building reports the fault as one of the template. -/
def IsReported (f : Fault) : Prop := rejectsSpecification (.fault f) = true

theorem isReported_noKey (key : String) : IsReported (.noKey key) := rfl

theorem isReported_mistyped : IsReported .mistyped := rfl

theorem rejectsArguments_of_isReported {f : Fault} (hf : IsReported f) :
    rejectsArguments (.fault f) = true := hf

theorem indexValues_fails (s : Specification) (name : String) :
    FailsWith IsReported (s.indexValues name) := by
  unfold Specification.indexValues
  split
  · exact .of_pure _ _
  · exact .of_throw rfl

theorem indexOrDefault_fails (s : Specification) (name : String) (others : List Value) :
    FailsWith IsReported (s.indexOrDefault name others) := by
  unfold Specification.indexOrDefault
  split
  · exact indexValues_fails s name
  · exact .of_pure _ _

theorem loadedData_fails (s : Specification) (name : String) :
    FailsWith IsReported (s.loadedData name) := by
  unfold Specification.loadedData
  split
  · exact .of_throw rfl
  · split
    · exact .of_pure _ _
    · exact .of_throw rfl

theorem truth_fails (v : Value) : FailsWith IsReported v.truth := by
  unfold Value.truth
  split
  · exact .of_throw rfl
  · exact .of_pure _ _

/-! ## Demand -/

/-- No float is as large as the whole number. -/
def IsHuge (n : Int) : Prop := floatIsFinite (floatOfInt n) = false

/-- A whole number is made a float of before anything is made of that. -/
theorem ifFinite_fails {α : Type} (n : Int) (a : α) :
    FailsWith (fun f => f = Fault.overflow ∧ IsHuge n)
      (if floatIsFinite (floatOfInt n) then pure a else throw Fault.overflow) := by
  split
  · exact .of_pure _ _
  · next hfinite => exact .of_throw ⟨rfl, Bool.eq_false_iff.mpr hfinite⟩

/-- The fault is one of size, of a cell that is a whole number. -/
def Overflows (v : Value) (f : Fault) : Prop := f = .overflow ∧ ∃ n, v = .int n ∧ IsHuge n

theorem numberOf?_fails (v : Value) : FailsWith (Overflows v) (numberOf? v) := by
  unfold numberOf?
  split
  · next n => exact (ifFinite_fails n _).mono fun f hf => ⟨hf.1, n, rfl, hf.2⟩
  · exact .of_pure _ _
  · exact .of_pure _ _
  · exact .of_pure _ _

/-- A cell fails to ask for workers in the same ways. -/
theorem requiredCount_fails (v : Value) (shown : String) (day : Value) (skill : String) :
    FailsWith (fun f => IsReported f ∨ Overflows v f) (requiredCount v shown day skill) := by
  unfold requiredCount
  refine ((numberOf?_fails v).mono fun _ => Or.inr).bind fun x _ => ?_
  split
  · -- no number, told with the value or without
    split
    · exact .of_throw (Or.inl rfl)
    · exact .of_throw (Or.inl rfl)
  · split
    · split
      · exact .of_throw (Or.inl rfl)
      · exact .of_pure _ _
    · exact .of_throw (Or.inl rfl)

/-- A row fails with its cell, if it is for a member. -/
theorem addRow_fails (es : List DemandEntry) (row : DemandRow) :
    FailsWith (fun f => IsReported f ∨ Overflows row.value f) (addRow es row) := by
  unfold addRow
  split
  · exact .of_pure _ _
  · exact .of_pure _ _
  · next day _ _ =>
      refine (requiredCount_fails _ _ _ _).bind fun count _ => ?_
      dsimp only
      split
      · exact .of_throw (Or.inl isReported_mistyped)
      · exact .of_pure _ _

theorem column_fails (t : Table) (name : String) : FailsWith IsReported (column t name) := by
  unfold column
  split
  · exact .of_pure _ _
  · exact .of_throw (isReported_noKey _)

theorem column_eq_ok {t : Table} {name : String} {cells : List Value}
    (h : column t name = .ok cells) : t.column? (.str name) = some cells := by
  unfold column at h
  split at h
  · next cells' hcells =>
      rw [pure_eq_ok] at h
      rw [hcells, h]
  · exact absurd h throw_ne_ok

theorem text_fails (v : Value) : FailsWith IsReported v.text := by
  unfold Value.text
  split
  · exact .of_pure _ _
  · exact .of_throw rfl

theorem checkTexts_fails (l : List Value) : FailsWith IsReported (Value.checkTexts l) := by
  unfold Value.checkTexts
  split
  · exact .of_pure _ _
  · exact .of_throw rfl

theorem textColumn_fails (t : Table) (name : String) : FailsWith IsReported (textColumn t name) :=
  (column_fails t name).bind fun cells _ => (checkTexts_fails cells).bind fun _ _ => .of_pure _ _

theorem demandRows_fails (t : Table) (days : List Value) (scenarios : List String) :
    FailsWith IsReported (demandRows t days scenarios) := by
  unfold demandRows
  refine (textColumn_fails t "day").bind fun days' _ => ?_
  dsimp only
  split
  · exact (textColumn_fails t "scenario").map.bind fun _ _ =>
      (textColumn_fails t "skill").bind fun _ _ => (column_fails t "value").bind fun _ _ =>
        .of_pure _ _
  · exact (textColumn_fails t "skill").bind fun _ _ => (column_fails t "value").bind fun _ _ =>
      .of_pure _ _

/-- The numbers that rows ask for stand in a column. -/
theorem value_of_mem_demandRows {t : Table} {days : List Value} {scenarios : List String}
    {rows : List DemandRow} (h : demandRows t days scenarios = .ok rows) {row : DemandRow}
    (hrow : row ∈ rows) : ∃ cells, t.column? (.str "value") = some cells ∧ row.value ∈ cells := by
  unfold demandRows at h
  obtain ⟨_, -, h⟩ := bind_eq_ok.mp h
  dsimp only at h
  -- whom a row is for makes no difference to what it asks for
  split at h
  all_goals
    obtain ⟨_, -, h⟩ := bind_eq_ok.mp h
    obtain ⟨_, -, h⟩ := bind_eq_ok.mp h
    obtain ⟨cells, hcells, h⟩ := bind_eq_ok.mp h
    rw [pure_eq_ok] at h
    subst h
    obtain ⟨⟨targets, day, skill, value, shown⟩, hmem, rfl⟩ := List.mem_map.mp hrow
    have hinner := (List.of_mem_zip (List.of_mem_zip (List.of_mem_zip hmem).2).2).2
    exact ⟨cells, column_eq_ok hcells, (List.of_mem_zip hinner).1⟩

/-- The table of demand asks for a number that is too large. -/
def AsksTooMuch (t : Table) : Prop :=
  ∃ cells n, t.column? (.str "value") = some cells ∧ .int n ∈ cells ∧ IsHuge n

theorem demandOf_fails (t : Table) (days : List Value) (scenarios : List String) :
    FailsWith (fun f => IsReported f ∨ f = .overflow ∧ AsksTooMuch t)
      (demandOf t days scenarios) := by
  unfold demandOf
  refine ((demandRows_fails t days scenarios).mono fun _ => Or.inl).bind fun rows hrows => ?_
  refine FailsWith.foldlM (fun es row hrow => (addRow_fails es row).mono ?_) []
  rintro f (hf | ⟨rfl, n, hn, hhuge⟩)
  · exact Or.inl hf
  · obtain ⟨cells, hcells, hmem⟩ := value_of_mem_demandRows hrows hrow
    exact Or.inr ⟨rfl, cells, n, hcells, hn ▸ hmem, hhuge⟩

/-! ## Problems -/

/-- The fault escapes from reading a problem. -/
inductive Problem.Escapes (s : Specification) : Fault → Prop
  /-- Demand is a mapping, and what it has for the days can be gone through, but is no column. -/
  | demand {es : Entries} {k days : Value} (hdata : s.loadedData "demand" = .ok (.map es))
      (hday : List.find? (fun e => Value.same (.str "day") e.1) es = some (k, days))
      (hitems : days.items?.isSome = true) : Problem.Escapes s (.noField "columns")
  /-- The granted skills are no table. -/
  | granted {v : Value} (hdata : s.loadedData "candidate_skills" = .ok v)
      (htable : ∀ columns rows, v ≠ .table columns rows) : Problem.Escapes s (.noField "columns")
  /-- Some number of workers is too large. -/
  | count {columns : List Value} {rows : List (List Value)}
      (hdata : s.loadedData "demand" = .ok (.table columns rows))
      (hasks : AsksTooMuch ⟨columns, rows⟩) : Problem.Escapes s .overflow

/-- Demand fails to be read with a fault that is reported, or with one of the two that escape. -/
theorem demandFrom_fails {s : Specification} {v : Value} (hv : s.loadedData "demand" = .ok v)
    (days : List Value) (scenarios : List String) :
    FailsWith (fun f => IsReported f ∨ Problem.Escapes s f) (demandFrom v days scenarios) := by
  unfold demandFrom
  split
  · refine (demandOf_fails _ days scenarios).mono ?_
    -- a table: only a number can be too large
    rintro f (hf | ⟨rfl, hasks⟩)
    · exact Or.inl hf
    · exact Or.inr (.count hv hasks)
  · split
    · exact .of_throw (Or.inl (isReported_noKey _))
    · next hday =>
        split
        -- what is no table is asked for its columns once its field for the day is found
        · next hitems => exact .of_throw (Or.inr (.demand hv hday hitems))
        · exact .of_throw (Or.inl isReported_mistyped)
  · exact .of_throw (Or.inl isReported_mistyped)

theorem cell_fails (t : Table) (row : List Value) (name : String) :
    FailsWith IsReported (cell t row name) := by
  unfold cell
  split
  · exact .of_pure _ _
  · exact .of_throw (isReported_noKey _)

theorem grants_fails (t : Table) (row : List Value) : FailsWith IsReported (grants t row) := by
  unfold grants
  split
  · refine (cell_fails t row _).bind fun v _ => ?_
    unfold isAffirmed
    split
    · exact .of_pure _ _
    · exact .of_pure _ _
    · exact truth_fails _
  · exact .of_pure _ _

theorem grantedSkills_fails (t : Table) : FailsWith IsReported (grantedSkills t) := by
  unfold grantedSkills
  refine (FailsWith.mapM fun row _ => ?_).bind fun _ _ => .of_pure _ _
  unfold granted?
  refine (grants_fails t row).bind fun granted _ => ?_
  split
  · exact (cell_fails t row _).bind fun candidate _ => (cell_fails t row _).bind fun skill _ =>
      (text_fails candidate).bind fun _ _ => (text_fails skill).bind fun _ _ => .of_pure _ _
  · exact .of_pure _ _

theorem skillsFrom_fails {s : Specification} {v : Value}
    (hv : s.loadedData "candidate_skills" = .ok v) :
    FailsWith (fun f => IsReported f ∨ Problem.Escapes s f) (skillsFrom v) := by
  unfold skillsFrom
  split
  · exact (grantedSkills_fails _).mono fun _ => Or.inl
  · next hnone => exact .of_throw (Or.inr (.granted hv hnone))

theorem checkedBound_fails (n : Nat) : FailsWith IsReported (checkedBound n) := by
  unfold checkedBound
  split
  · exact .of_pure _ _
  · exact .of_throw isReported_mistyped

theorem dailyLimitOf_fails (options : Named Value) :
    FailsWith IsReported (dailyLimitOf options) := by
  unfold dailyLimitOf
  split
  · exact .of_pure _ _
  · split
    · exact .of_pure _ _
    · exact .of_throw rfl
  · exact .of_throw rfl

/-- Reading a problem fails with a fault that is reported, or the fault escapes. What escapes is
told by the data themselves: a list that is asked for its columns, or a number that is too large. -/
theorem Problem.ofSpecification_fails (s : Specification) :
    FailsWith (fun f => IsReported f ∨ Problem.Escapes s f) (Problem.ofSpecification s) := by
  have reported : ∀ {α : Type} {x : Except Fault α}, FailsWith IsReported x →
      FailsWith (fun f => IsReported f ∨ Problem.Escapes s f) x := fun h => h.mono fun _ => Or.inl
  unfold Problem.ofSpecification
  refine (reported (indexValues_fails s _)).bind fun days _ => ?_
  refine (reported (indexValues_fails s _)).bind fun candidates _ => ?_
  refine (reported (indexValues_fails s _)).bind fun skills _ => ?_
  refine (reported (indexOrDefault_fails s _ _)).bind fun scenarios _ => ?_
  refine (reported (loadedData_fails s _)).bind fun table htable => ?_
  refine (demandFrom_fails htable _ _).bind fun demand _ => ?_
  refine (reported (loadedData_fails s _)).bind fun skillTable hskillTable => ?_
  refine (skillsFrom_fails hskillTable).bind fun granted _ => reported ?_
  dsimp only
  -- with costs or without, what is left are the bounds of the model
  split
  · refine (loadedData_fails s _).map.bind fun cost _ => ?_
    exact (FailsWith.forM fun n _ => checkedBound_fails n).bind fun _ _ =>
      (dailyLimitOf_fails _).bind fun limit _ => (checkedBound_fails limit).bind fun _ _ =>
        .of_pure _ _
  · exact (FailsWith.forM fun n _ => checkedBound_fails n).bind fun _ _ =>
      (dailyLimitOf_fails _).bind fun limit _ => (checkedBound_fails limit).bind fun _ _ =>
        .of_pure _ _

/-! ## Models -/

theorem coefficientOf_fails (v : Value) : FailsWith IsReported (coefficientOf v) := by
  unfold coefficientOf
  split
  · split
    · exact .of_pure _ _
    · exact .of_throw isReported_mistyped
  · exact .of_pure _ _
  · exact .of_pure _ _
  · exact .of_throw isReported_mistyped

/-- The cost of a candidate fails to be found because the costs are no mapping. -/
theorem costOf_fails (cost candidate : Value) : FailsWith IsReported (costOf cost candidate) := by
  unfold costOf
  -- texts, lists and nothing at all can be asked whether the candidate is in them; if so, they
  -- cannot be asked for its cost
  have hmentioned : ∀ b : Bool, FailsWith IsReported
      (if b then throw Fault.mistyped else pure none : Except Fault (Option Value)) := by
    intro b
    split
    · exact .of_throw isReported_mistyped
    · exact .of_pure _ _
  dsimp only
  split
  · exact .of_pure _ _
  · exact hmentioned _
  · exact hmentioned _
  · exact hmentioned _
  · split
    · exact hmentioned _
    · exact .of_throw isReported_mistyped
  · exact .of_throw isReported_mistyped

/-- The terms of a cost fail as changing the cost of some candidate does. -/
theorem costTerms_fails {E : Fault → Prop} {hire : Family} {candidates : List Value} {cost : Value}
    {change : Value → Except Fault Value} (hreported : ∀ f, IsReported f → E f)
    (hchange : ∀ c ∈ candidates, ∀ v, costOf cost c = .ok (some v) → FailsWith E (change v)) :
    FailsWith E (costTerms hire candidates cost change) := by
  unfold costTerms
  refine (FailsWith.mapM fun c hc => ?_).bind fun _ _ => .of_pure _ _
  refine ((costOf_fails cost c).mono hreported).bind fun given hgiven => ?_
  cases given with
  | none => exact .of_pure _ _
  | some v =>
      refine (hchange c hc v hgiven).bind fun changed _ => ?_
      exact ((coefficientOf_fails changed).mono hreported).bind fun _ _ => .of_pure _ _

theorem Problem.model_fails (p : Problem) : FailsWith IsReported p.model := by
  unfold Problem.model
  refine FailsWith.bind ?_ fun _ _ => .of_pure _ _
  unfold Problem.goal
  split
  · exact .of_pure _ _
  · exact .of_pure _ _
  · exact costTerms_fails (fun _ h => h) fun _ _ _ _ => .of_pure _ _

/-! ## Rules -/

/-- Building reports the failure as one of a rule. -/
def IsRejected (e : Failure) : Prop := rejectsArguments e = true

theorem asArgument_fails {α : Type} (r : Except ArgumentFault α) :
    FailsWith IsRejected (asArgument r) := by
  refine FailsWith.mapError fun f _ => ?_
  exact rfl

theorem asFault_fails {α : Type} {r : Except Fault α} (hr : FailsWith IsReported r) :
    FailsWith IsRejected (asFault r) :=
  (hr.mono fun _ => rejectsArguments_of_isReported).mapError

theorem family_fails (m : Model) (name : String) : FailsWith IsReported (m.family name) := by
  unfold Model.family
  split
  · exact .of_pure _ _
  · exact .of_throw rfl

theorem Indexes.ofSpecification_fails (s : Specification) :
    FailsWith IsRejected (Indexes.ofSpecification s) := by
  unfold Indexes.ofSpecification
  exact (asFault_fails (indexValues_fails s _)).bind fun _ _ =>
    (asFault_fails (indexValues_fails s _)).bind fun _ _ =>
      (asFault_fails (indexValues_fails s _)).bind fun _ _ => .of_pure _ _

theorem wholeArgument_fails (args : Arguments) (key : String) (other : Int) :
    FailsWith IsRejected (wholeArgument args key other) := by
  unfold wholeArgument
  refine (asArgument_fails _).bind fun v _ => ?_
  split
  · exact .of_pure _ _
  · exact .of_pure _ _

theorem countArgument_fails (args : Arguments) (key : String) (other : Nat) :
    FailsWith IsRejected (countArgument args key other) := by
  unfold countArgument
  refine (wholeArgument_fails _ _ _).bind fun n _ => ?_
  split
  · refine .of_throw ?_
    split
    · rfl
    · rfl
  · exact .of_pure _ _

section

variable (m : Model) (s : Specification) (args : Arguments)

theorem timeWindow_fails : FailsWith IsRejected (timeWindow m s args) := by
  unfold timeWindow
  refine (asArgument_fails _).bind fun candidate _ => ?_
  refine (wholeArgument_fails _ _ _).bind fun first _ => ?_
  refine (wholeArgument_fails _ _ _).bind fun last _ => ?_
  dsimp only
  split
  · exact .of_pure _ _
  · refine (asFault_fails (family_fails m _)).bind fun assign _ => ?_
    refine (asFault_fails (indexValues_fails s _)).bind fun candidates _ => ?_
    split
    · exact .of_throw rfl
    · exact (Indexes.ofSpecification_fails s).bind fun _ _ => .of_pure _ _

theorem consecutiveDays_fails : FailsWith IsRejected (consecutiveDays m s args) := by
  unfold consecutiveDays
  refine (countArgument_fails _ _ _).bind fun most _ => ?_
  split
  · exact .of_pure _ _
  · exact (asFault_fails (family_fails m _)).bind fun _ _ =>
      (Indexes.ofSpecification_fails s).bind fun _ _ => .of_pure _ _

theorem restDays_fails : FailsWith IsRejected (restDays m s args) := by
  unfold restDays
  refine (countArgument_fails _ _ _).bind fun rest _ => ?_
  split
  · exact .of_pure _ _
  · exact (asFault_fails (family_fails m _)).bind fun _ _ =>
      (Indexes.ofSpecification_fails s).bind fun _ _ => .of_pure _ _

/-! ### Goals -/

theorem maximizeCoverage_fails : FailsWith IsRejected (maximizeCoverage m s args) := by
  unfold maximizeCoverage
  refine (asArgument_fails _).bind fun weight _ => ?_
  split
  · exact .of_pure _ _
  · refine (asFault_fails (family_fails m _)).bind fun assign _ => ?_
    refine (asFault_fails (coefficientOf_fails weight)).bind fun coefficient _ => ?_
    refine asFault_fails ?_
    unfold Model.maximize
    split
    · exact .of_pure _ _
    · exact .of_throw isReported_mistyped

theorem register_fails (m : Model) (name : String) (f : Family) :
    FailsWith IsReported (m.register name f) := by
  unfold Model.register
  split
  · exact .of_throw rfl
  · exact .of_pure _ _

theorem balanceWorkload_fails : FailsWith IsRejected (balanceWorkload m s args) := by
  unfold balanceWorkload
  dsimp only
  split
  · exact .of_pure _ _
  · refine (asFault_fails (family_fails m _)).bind fun assign _ => ?_
    refine (Indexes.ofSpecification_fails s).bind fun ix _ => ?_
    refine (asFault_fails (register_fails _ _ _)).bind fun m' _ => ?_
    refine (asFault_fails (family_fails m' _)).bind fun workload _ => ?_
    exact (asFault_fails (register_fails _ _ _)).bind fun _ _ => .of_pure _ _

/-- The cost of some candidate, times the factor for it, is a product with a number that is too
large for a float. -/
def CostsTooMuch : Prop :=
  ∃ factor es candidates c v n, args.optional "multiplier" (.float 1) [.int, .float] = .ok factor
    ∧ s.loadedData "cost_month" = .ok (.map es) ∧ s.indexValues "candidates" = .ok candidates
    ∧ c ∈ candidates ∧ Entries.find? es c = some v ∧ (factor = .int n ∨ v = .int n) ∧ IsHuge n

end

theorem not_isHuge_ofBool (b : Bool) : ¬IsHuge (if b then 1 else 0) := by
  cases b <;> unfold IsHuge <;> decide +kernel

/-- A product fails because one of its factors is no number, or because a whole number is too large
for a float. -/
theorem product_fails (factor v : Value) :
    FailsWith (fun f => IsReported f ∨ f = .overflow ∧ ∃ n, (factor = .int n ∨ v = .int n)
      ∧ IsHuge n) (product factor v) := by
  unfold product
  split
  · exact .of_pure _ _
  · next n y =>
      refine ((ifFinite_fails n _).mono fun f hf => Or.inr ?_).bind fun _ _ => .of_pure _ _
      exact ⟨hf.1, n, Or.inl rfl, hf.2⟩
  · next x _ =>
      cases v with
      | int n =>
          refine ((ifFinite_fails n _).mono fun f hf => Or.inr ?_).bind fun _ _ => .of_pure _ _
          exact ⟨hf.1, n, Or.inr rfl, hf.2⟩
      | bool b =>
          -- a truth value is one or nought, and neither is too large
          refine ((ifFinite_fails _ _).mono fun f hf => ?_).bind fun _ _ => .of_pure _ _
          exact absurd hf.2 (not_isHuge_ofBool b)
      | _ => exact .of_throw (Or.inl isReported_mistyped)
  · cases v with
    | int k => exact .of_pure _ _
    | bool b => exact .of_pure _ _
    | _ => exact .of_throw (Or.inl isReported_mistyped)
  · exact .of_throw (Or.inl isReported_mistyped)

/-- Only a mapping says what a candidate costs. -/
theorem costOf_eq_some {cost c v : Value} (h : costOf cost c = .ok (some v)) :
    ∃ es, cost = .map es ∧ Entries.find? es c = some v := by
  have hmentioned : ∀ b : Bool,
      (if b then throw Fault.mistyped else pure none : Except Fault (Option Value)) ≠ .ok (some v) := by
    intro b
    cases b <;> exact fun h => nomatch h
  unfold costOf at h
  split at h
  · next es => exact ⟨es, rfl, pure_eq_ok.mp h⟩
  · exact absurd h (hmentioned _)
  · exact absurd h (hmentioned _)
  · exact absurd h (hmentioned _)
  · split at h
    · exact absurd h (hmentioned _)
    · exact absurd h throw_ne_ok
  · exact absurd h throw_ne_ok

/-- The goal of costs fails with a rejection, or because a product is too large. -/
theorem minimizeCost_fails (m : Model) (s : Specification) (args : Arguments) :
    FailsWith (fun e => IsRejected e ∨ e = .fault .overflow ∧ CostsTooMuch s args)
      (minimizeCost m s args) := by
  -- all steps but the product only reject
  have rejected : ∀ {α : Type} {x : Except Failure α}, FailsWith IsRejected x →
      FailsWith (fun e => IsRejected e ∨ e = .fault .overflow ∧ CostsTooMuch s args) x :=
    fun h => h.mono fun _ => Or.inl
  unfold minimizeCost
  refine (rejected (asArgument_fails _)).bind fun factor hfactor => ?_
  split
  · exact .of_pure _ _
  · refine (rejected (asFault_fails (loadedData_fails s _))).bind fun cost hcost => ?_
    refine (rejected (asFault_fails (family_fails m _))).bind fun hire _ => ?_
    refine (rejected (asFault_fails (indexValues_fails s _))).bind fun candidates hcandidates => ?_
    refine FailsWith.bind ?_ fun _ _ => .of_pure _ _
    refine FailsWith.mapError ?_
    refine costTerms_fails (fun _ hf => Or.inl (rejectsArguments_of_isReported hf))
      fun c hc v hv => (product_fails factor v).mono ?_
    rintro f (hf | ⟨rfl, n, hn, hhuge⟩)
    · exact Or.inl (rejectsArguments_of_isReported hf)
    · obtain ⟨es, rfl, hfind⟩ := costOf_eq_some hv
      exact Or.inr ⟨rfl, factor, es, candidates, c, v, n, mapError_eq_ok.mp hfactor,
        mapError_eq_ok.mp hcost, mapError_eq_ok.mp hcandidates, hc, hfind, hn, hhuge⟩

end Rostering.Staffing
