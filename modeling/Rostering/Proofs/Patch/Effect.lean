import Rostering.Proofs.Patch.Change

/-!
# What a patch leaves behind

The whole effect of one patch, and all that it does not touch. A patch writes the entry that it is
aimed at: an old name keeps its place, a new name comes last, and every other entry of the section
stays where it was. The template and the other sections are as before.

## The architecture

* **`Patch.updatedParameter_eq_ok`** — new data or a new value are taken over exactly if they fit
  what the parameter declares, which is kept.
* **`Patch.Effect`** — what a patch makes of a specification, one constructor for each section,
  with the frame next to what is written (`Named.Writes`).
* **`Patch.applies_iff_effect`** — a patch applies exactly with such an effect.
-/

namespace Rostering.Patch

/-- Whatever can become of a parameter does become of it, under any name. -/
theorem updatedParameter_eq_ok {p : Patch} {name : String} {q r : Parameter} :
    p.updatedParameter name q = .ok r ↔ p.Updates q r := by
  refine ⟨updates_of_updatedParameter, fun hr => ?_⟩
  -- the other half: each constructor of `Updates` holds the test that the code makes
  cases hr with
  | table hvalue ht =>
      unfold updatedParameter
      simp only [hvalue] at ht ⊢
      rw [ht]
      rfl
  | mapping hvalue =>
      unfold updatedParameter
      simp only [hvalue]
      rfl
  | scalar hholds =>
      unfold updatedParameter
      simp only [Parameter.ofScalar, ScalarType.ofName?_name, hholds]
      rfl

/-- A merge under a name that is not empty writes whatever there is to write. The converse of
`Patch.changes_of_judge`, which says that nothing else is written. -/
theorem judge_eq_ok {p : Patch} {s : Specification} {c : Change} :
    p.judge s = .ok c
      ↔ p.operation.same (.str "merge") = true ∧ (∀ name ∈ p.path, name ≠ "") ∧ p.Changes s c := by
  constructor
  · intro hc
    refine ⟨?_, ?_, changes_of_judge hc⟩
    · unfold judge at hc
      split at hc
      · exact absurd hc refusal_ne_ok
      · next hmerge => simpa [patchOperations] using hmerge
    · unfold judge at hc
      split at hc
      · exact absurd hc refusal_ne_ok
      · split at hc
        · next part name hpath =>
            split at hc
            · exact absurd hc reject_ne_ok
            · next hnames =>
                rw [hpath]
                simpa [String.isEmpty_iff] using hnames
        · exact absurd hc reject_ne_ok
  · rintro ⟨hmerge, hnames, hc⟩
    have hoperation : (!(patchOperations.any fun operation => p.operation.same (.str operation)))
        = false := by
      simp [patchOperations, hmerge]
    unfold judge
    rw [hoperation]
    cases hc with
    -- nothing but the tests on the name and on the value is left of each section
    | @parameter name q r hpath hq hr =>
        rw [hpath] at hnames ⊢
        have hname : name ≠ "" := hnames name (by simp)
        simp [hname, hq, updatedParameter_eq_ok.mpr hr, Except.map]
    | @option name hpath =>
        rw [hpath] at hnames ⊢
        have hname : name ≠ "" := hnames name (by simp)
        simp [hname, pure, Except.pure]
    | @index name i hpath hi =>
        rw [hpath] at hnames ⊢
        have hname : name ≠ "" := hnames name (by simp)
        simp [hname, reportConfig_eq_ok.mpr hi, Except.map]
    | @overrides phase l hpath hphase hl =>
        rw [hpath] at hnames ⊢
        have hname : phase ≠ "" := hnames phase (by simp)
        simp [hname, hphase, reportConfig_eq_ok.mpr hl, Except.map]

/-- What a patch makes of a specification. In each section it writes what it gives, read in the way
of that section, and all else is kept; a parameter has to be there and keeps what it declares. -/
inductive Effect (p : Patch) (s t : Specification) : Prop where
  | option {name : String} (hpath : p.path = ["options", name])
      (hwrites : s.options.Writes name p.value t.options)
      (hframe : t = { s with options := t.options })
  | index {name : String} {i : Index} (hpath : p.path = ["indexes", name])
      (hindex : Config.index p.value ("indexes." ++ name) = .ok i)
      (hwrites : s.indexes.Writes name i t.indexes)
      (hframe : t = { s with indexes := t.indexes })
  | overrides {phase : String} {l : List Override} (hpath : p.path = ["overrides", phase])
      (hphase : phase ∈ overridePhases)
      (hlist : Config.overrideList p.value ("overrides." ++ phase) = .ok l)
      (hwrites : s.overrides.Writes phase l t.overrides)
      (hframe : t = { s with overrides := t.overrides })
  | parameter {name : String} {q r : Parameter} (hpath : p.path = ["parameters", name])
      (hfound : s.parameters.find? name = some q) (hupdates : p.Updates q r)
      (hwrites : s.parameters.Writes name r t.parameters)
      (hframe : t = { s with parameters := t.parameters })

/-- What was decided on has this effect once it is written. -/
theorem Changes.effect {p : Patch} {s : Specification} {c : Change} (hc : p.Changes s c) :
    p.Effect s (c.into s) := by
  cases hc with
  | parameter hpath hq hr => exact .parameter hpath hq hr (Named.writes_iff.mpr rfl) rfl
  | option hpath => exact .option hpath (Named.writes_iff.mpr rfl) rfl
  | index hpath hi => exact .index hpath hi (Named.writes_iff.mpr rfl) rfl
  | overrides hpath hphase hl =>
      exact .overrides hpath hphase hl (Named.writes_iff.mpr rfl) rfl

/-- No other effect is one of the patch. -/
theorem Effect.changes {p : Patch} {s t : Specification} (h : p.Effect s t) :
    ∃ c, p.Changes s c ∧ c.into s = t := by
  -- the frame says what the specification is besides the entry, `Named.writes_iff` what the section
  -- is
  cases h with
  | parameter hpath hfound hupdates hwrites hframe =>
      refine ⟨_, .parameter hpath hfound hupdates, ?_⟩
      rw [hframe, ← Named.writes_iff.mp hwrites]
      rfl
  | option hpath hwrites hframe =>
      refine ⟨_, .option hpath, ?_⟩
      rw [hframe, ← Named.writes_iff.mp hwrites]
      rfl
  | index hpath hindex hwrites hframe =>
      refine ⟨_, .index hpath hindex, ?_⟩
      rw [hframe, ← Named.writes_iff.mp hwrites]
      rfl
  | overrides hpath hphase hlist hwrites hframe =>
      refine ⟨_, .overrides hpath hphase hlist, ?_⟩
      rw [hframe, ← Named.writes_iff.mp hwrites]
      rfl

/-- A patch applies exactly if it is a merge into a named entry and has such an effect. -/
theorem applies_iff_effect (p : Patch) (s t : Specification) :
    p.apply s = .ok t
      ↔ p.operation.same (.str "merge") = true ∧ (∀ name ∈ p.path, name ≠ "") ∧ p.Effect s t := by
  rw [apply_eq_judge, map_eq_ok]
  simp only [judge_eq_ok]
  constructor
  · rintro ⟨c, ⟨hmerge, hnames, hc⟩, rfl⟩
    exact ⟨hmerge, hnames, hc.effect⟩
  · rintro ⟨hmerge, hnames, heffect⟩
    obtain ⟨c, hc, rfl⟩ := heffect.changes
    exact ⟨c, ⟨hmerge, hnames, hc⟩, rfl⟩

end Rostering.Patch
