import Rostering.Patch
import Rostering.Proofs.Except
import Rostering.Proofs.Specification

/-!
# What patches change

A patch that succeeds writes one entry of one section. Whether it succeeds, what it writes and how
it fails depends on very little of the specification: the names of the parameters and, for each of
them, all but its data or value. No patch ever changes any of that.

## The architecture

* **`Change`** — an entry that is written; `Patch.judge` is the part of applying a patch that
  decides on it, and `Patch.apply_eq_judge` says that nothing else happens.
* **`Patch.Updates`**, **`Patch.Changes`** — what a successful patch can make of a parameter, and
  what it can write, one constructor for each kind of parameter and for each section.
* **`Specification.frames`** — what patches read. A patch decides alike on equal frames
  (`Patch.judge_congr`), and what it writes keeps them (`Patch.Changes.frames_into`).
* **`Patch.applyAll_eq_judge`** — so a batch decides on all its changes by the specification it
  started from, and then writes them one after the other.
-/

namespace Rostering

/-! ## Changes -/

/-- An entry that is written. -/
inductive Change where
  | parameter (name : String) (p : Parameter)
  | option (name : String) (v : Value)
  | index (name : String) (i : Index)
  | overrides (phase : String) (l : List Override)

namespace Change

/-- The section and the name that are written to. -/
def path : Change → List String
  | .parameter name _ => ["parameters", name]
  | .option name _ => ["options", name]
  | .index name _ => ["indexes", name]
  | .overrides phase _ => ["overrides", phase]

/-- Writes the entry. -/
def into : Change → Specification → Specification
  | .parameter name p, s => s.withParameter name p
  | .option name v, s => s.withOption name v
  | .index name i, s => s.withIndex name i
  | .overrides phase l, s => s.withOverrides phase l

/-- Writes entries one after the other. -/
def allInto (cs : List Change) (s : Specification) : Specification :=
  cs.foldl (fun s c => c.into s) s

end Change

namespace Patch

/-- Decides what a patch writes. -/
def judge (p : Patch) (s : Specification) : Except Failure Change :=
  if !(patchOperations.any fun operation => p.operation.same (.str operation)) then
    if p.operation.hasText then p.reject (.unsupportedOperation p.operation)
    else throw (.fault .overlong)
  else
    match p.path with
    | [part, name] =>
      if part.isEmpty || name.isEmpty then p.reject .pathLength
      else
        match part with
        | "parameters" =>
          match s.parameters.find? name with
          | none => p.reject (.noParameter name s.parameters.names)
          | some q => (p.updatedParameter name q).map (.parameter name)
        | "options" => pure (.option name p.value)
        | "indexes" =>
          (p.reportConfig (Config.index p.value ("indexes." ++ name))).map (.index name)
        | "overrides" =>
          if overridePhases.contains name then
            (p.reportConfig (Config.overrideList p.value ("overrides." ++ name))).map
              (.overrides name)
          else p.reject (.unknownPhase name)
        | part => p.reject (.unknownSection part)
    | _ => p.reject .pathLength

theorem merge_supported :
    (patchOperations.any fun operation => (Value.str "merge").same (.str operation)) = true := by
  simp [patchOperations, Value.same]

/-- A patch is applied by deciding what to write and writing it. Everything that is said of patches
further on is said of the decision, which reads the specification and does not change it. -/
theorem apply_eq_judge (p : Patch) (s : Specification) :
    p.apply s = (p.judge s).map fun c => c.into s := by
  unfold apply judge
  split
  · -- the operation is refused, whatever the path is
    split <;> rfl
  · -- paths of two steps are the only ones that are looked at
    rcases p.path with _ | ⟨part, _ | ⟨name, _ | ⟨more, rest⟩⟩⟩
    · rfl
    · rfl
    · simp only
      split
      · rfl
      · -- both sides look for the section in one order, so it is settled first which one it is
        by_cases hparameters : part = "parameters"
        · subst hparameters
          simp only
          cases s.parameters.find? name with
          | none => rfl
          | some q => exact (map_map _ (Change.parameter name) fun c => c.into s).symm
        by_cases hoptions : part = "options"
        · subst hoptions
          rfl
        by_cases hindexes : part = "indexes"
        · subst hindexes
          exact (map_map _ (Change.index name) fun c => c.into s).symm
        by_cases hoverrides : part = "overrides"
        · subst hoverrides
          simp only
          split
          · exact (map_map _ (Change.overrides name) fun c => c.into s).symm
          · rfl
        -- any other section is refused both times
        simp only
        rfl
    · rfl

theorem reject_ne_ok {α : Type} {p : Patch} {fault : PatchFault} {a : α} :
    (p.reject fault : Except Failure α) ≠ .ok a :=
  throw_ne_ok

/-- An operation that is refused is refused with a message or without. -/
theorem refusal_ne_ok {α : Type} {p : Patch} {fault : PatchFault} {f : Failure} {a : α} :
    (if p.operation.hasText then p.reject fault else throw f : Except Failure α) ≠ .ok a := by
  split
  · exact reject_ne_ok
  · exact throw_ne_ok

/-- Reporting an error otherwise does not touch a result. -/
theorem reportConfig_eq_ok {α : Type} {p : Patch} {r : Except Failure α} {a : α} :
    p.reportConfig r = .ok a ↔ r = .ok a := by
  unfold reportConfig
  split
  · simp [reject_ne_ok]
  · rfl

/-- What a successful patch can make of a parameter: it keeps the declaration, and the new data or
value are checked against it. -/
inductive Updates (p : Patch) : Parameter → Parameter → Prop where
  | table {schema : List String} {source : Source} {data : Option Table} {items : List Value}
      {t : Table} (hvalue : p.value = .list items) (ht : Table.ofData p.value schema = .ok t) :
      Updates p (.table schema source data) (.table schema source (some t))
  | mapping {key : String} {source : Source} {data : Option Entries} {es : Entries}
      (hvalue : p.value = .map es) :
      Updates p (.mapping key source data) (.mapping key source (some es))
  | scalar {value : Value} {type : ScalarType} (hholds : type.holds p.value = true) :
      Updates p (.scalar value type) (.scalar p.value type)

theorem updates_of_updatedParameter {p : Patch} {name : String} {q r : Parameter}
    (hr : p.updatedParameter name q = .ok r) : p.Updates q r := by
  -- one case for each kind of parameter; what does not fit its kind is rejected
  cases q with
  | table schema source data =>
      unfold updatedParameter at hr
      simp only at hr
      split at hr
      · next hvalue =>
          split at hr
          · next ht =>
              cases hr
              exact .table hvalue ht
          · exact absurd hr reject_ne_ok
      · exact absurd hr reject_ne_ok
  | mapping key source data =>
      unfold updatedParameter at hr
      simp only at hr
      split at hr
      · next hvalue =>
          cases hr
          exact .mapping hvalue
      · exact absurd hr reject_ne_ok
  | scalar value type =>
      unfold updatedParameter at hr
      simp only at hr
      split at hr
      · next hscalar =>
          cases hr
          obtain ⟨t, hname, hholds, rfl⟩ := Parameter.ofScalar_eq_ok hscalar
          rw [ScalarType.ofName?_name] at hname
          cases hname
          exact .scalar hholds
      · exact absurd hr reject_ne_ok

/-- What a successful patch can write, one constructor for each section. -/
inductive Changes (p : Patch) (s : Specification) : Change → Prop where
  | parameter {name : String} {q r : Parameter} (hpath : p.path = ["parameters", name])
      (hq : s.parameters.find? name = some q) (hr : p.Updates q r) :
      Changes p s (.parameter name r)
  | option {name : String} (hpath : p.path = ["options", name]) : Changes p s (.option name p.value)
  | index {name : String} {i : Index} (hpath : p.path = ["indexes", name])
      (hi : Config.index p.value ("indexes." ++ name) = .ok i) : Changes p s (.index name i)
  | overrides {phase : String} {l : List Override} (hpath : p.path = ["overrides", phase])
      (hphase : phase ∈ overridePhases)
      (hl : Config.overrideList p.value ("overrides." ++ phase) = .ok l) :
      Changes p s (.overrides phase l)

theorem changes_of_judge {p : Patch} {s : Specification} {c : Change} (hc : p.judge s = .ok c) :
    p.Changes s c := by
  -- the splits follow `Patch.judge`: the operation, the path, the name, and then one of the
  -- sections
  unfold judge at hc
  split at hc
  · exact absurd hc refusal_ne_ok
  · split at hc
    · next part name hpath =>
        split at hc
        · exact absurd hc reject_ne_ok
        · split at hc
          · split at hc
            · exact absurd hc reject_ne_ok
            · next q hq =>
                obtain ⟨r, hr, rfl⟩ := map_eq_ok.mp hc
                exact .parameter hpath hq (updates_of_updatedParameter hr)
          · rw [pure_eq_ok] at hc
            exact hc ▸ .option hpath
          · obtain ⟨i, hi, rfl⟩ := map_eq_ok.mp hc
            exact .index hpath (reportConfig_eq_ok.mp hi)
          · split at hc
            · next hphase =>
                obtain ⟨l, hl, rfl⟩ := map_eq_ok.mp hc
                exact .overrides hpath (List.contains_iff_mem.mp hphase) (reportConfig_eq_ok.mp hl)
            · exact absurd hc reject_ne_ok
          · exact absurd hc reject_ne_ok
    · exact absurd hc reject_ne_ok

/-- A patch that applies has written what it could write. -/
theorem changes_of_apply {p : Patch} {s t : Specification} (h : p.apply s = .ok t) :
    ∃ c, p.Changes s c ∧ t = c.into s := by
  rw [apply_eq_judge, map_eq_ok] at h
  obtain ⟨c, hc, rfl⟩ := h
  exact ⟨c, changes_of_judge hc, rfl⟩

/-- A patch writes to its own path. -/
theorem Changes.path_eq {p : Patch} {s : Specification} {c : Change} (hc : p.Changes s c) :
    c.path = p.path := by
  cases hc with
  | parameter hpath => exact hpath.symm
  | option hpath => exact hpath.symm
  | index hpath => exact hpath.symm
  | overrides hpath => exact hpath.symm

end Patch

/-! ## What patches read -/

/-- A parameter without its data or value. -/
def Parameter.frame : Parameter → Parameter
  | .table schema source _ => .table schema source none
  | .mapping key source _ => .mapping key source none
  | .scalar _ type => .scalar .null type

/-- The parameters by name, without their data or values. -/
def Specification.frames (s : Specification) : Named Parameter :=
  s.parameters.map fun _ => Parameter.frame

namespace Patch

/-- New data or a new value do not depend on the old. -/
theorem updatedParameter_frame (p : Patch) (name : String) (q : Parameter) :
    p.updatedParameter name q.frame = p.updatedParameter name q := by
  cases q <;> rfl

/-- Nor do they change anything else. -/
theorem Updates.frame_eq {p : Patch} {q r : Parameter} (h : p.Updates q r) : r.frame = q.frame := by
  cases h <;> rfl

/-- A patch decides alike on specifications with the same frames. So the patches of a batch can be
judged by the specification before the batch. -/
theorem judge_congr {s t : Specification} (h : s.frames = t.frames) (p : Patch) :
    p.judge s = p.judge t := by
  have hnames : s.parameters.names = t.parameters.names := by
    have h := congrArg Named.names h
    unfold Specification.frames at h
    rwa [Named.names_map, Named.names_map] at h
  have hfound : ∀ name, (s.parameters.find? name).map Parameter.frame
      = (t.parameters.find? name).map Parameter.frame := by
    intro name
    have h := congrArg (Named.find? · name) h
    unfold Specification.frames at h
    simp only [Named.find?_map] at h
    exact h
  -- only a parameter is looked up at all
  have hparameter : ∀ name,
      (match s.parameters.find? name with
        | none => p.reject (.noParameter name s.parameters.names)
        | some q => (p.updatedParameter name q).map (.parameter name))
      = match t.parameters.find? name with
        | none => p.reject (.noParameter name t.parameters.names)
        | some q => (p.updatedParameter name q).map (Change.parameter name) := by
    intro name
    have hname := hfound name
    cases hs : s.parameters.find? name with
    | none =>
        rw [hs, Option.map_none, eq_comm, Option.map_eq_none_iff] at hname
        rw [hname, hnames]
    | some q =>
        rw [hs, Option.map_some, eq_comm, Option.map_eq_some_iff] at hname
        obtain ⟨r, hr, hframe⟩ := hname
        rw [hr]
        simp only
        rw [← updatedParameter_frame p name q, ← hframe, updatedParameter_frame]
  unfold judge
  simp only [hparameter]

/-- What a patch writes keeps the frames. -/
theorem Changes.frames_into {p : Patch} {s : Specification} {c : Change} (hc : p.Changes s c) :
    (c.into s).frames = s.frames := by
  cases hc with
  | option => rfl
  | index => rfl
  | overrides => rfl
  | @parameter name q r hpath hq hr =>
      show (s.parameters.insert name r).map (fun _ => Parameter.frame) = s.frames
      rw [Named.map_insert, hr.frame_eq]
      apply Named.insert_of_find?
      rw [Named.find?_map, hq]
      rfl

/-- A batch decides on all its changes by the specification that it started from, and then writes
them one after the other. Induction on the patches that are left. -/
theorem applyAll_eq_judge (ps : List Patch) (s : Specification) :
    applyAll ps s = (ps.mapM (judge · s)).map fun cs => Change.allInto cs s := by
  -- generalized to every specification with the same frames, for the induction goes on from the
  -- specification that the first patch leaves
  have hrun : ∀ u : Specification, u.frames = s.frames →
      applyAll ps u = (ps.mapM (judge · s)).map fun cs => Change.allInto cs u := by
    induction ps with
    | nil => exact fun u _ => rfl
    | cons p ps ih =>
        intro u hu
        rw [applyAll, apply_eq_judge, judge_congr hu, List.mapM_cons]
        cases hc : p.judge s with
        | error e => rfl
        | ok c =>
            rw [← judge_congr hu] at hc
            -- the patches that are left decide as they would have before this change
            have hkept := (changes_of_judge hc).frames_into
            simp only [Except.map]
            rw [ih (c.into u) (hkept.trans hu)]
            cases ps.mapM (judge · s) <;> rfl
  exact hrun s rfl

end Patch

end Rostering
