import Rostering.Proofs.Patch.Change
import Rostering.Proofs.Session.Run

/-!
# Batches of patches

A batch is judged by the specification that it is applied to: no patch of it can make another one
succeed or fail, and the first that fails alone gives the error of the whole.

## The architecture

* **`Patch.apply_succeeds_iff`**, **`Patch.apply_eq_error`** — one patch, by what it decides.
* **`Patch.FailsFirst`** — the patch of a batch that fails, each taken for itself.
* **`Patch.applyAll_judged`** — a batch succeeds if all of its patches do, and otherwise fails as
  the first of them; a store that was asked to apply it is then as it was.
-/

namespace Rostering

namespace Patch

theorem apply_succeeds_iff {p : Patch} {s : Specification} :
    (∃ t, p.apply s = .ok t) ↔ ∃ c, p.judge s = .ok c := by
  rw [apply_eq_judge]
  cases p.judge s <;> simp [Except.map]

theorem apply_eq_error {p : Patch} {s : Specification} {e : Failure} :
    p.apply s = .error e ↔ p.judge s = .error e := by
  rw [apply_eq_judge]
  cases p.judge s <;> simp [Except.map]

/-- Applied to the same specification, all patches before one succeed, and that one fails. -/
def FailsFirst (ps : List Patch) (s : Specification) (e : Failure) : Prop :=
  ∃ before p after, ps = before ++ p :: after
    ∧ (∀ q ∈ before, ∃ t, q.apply s = .ok t) ∧ p.apply s = .error e

theorem applyAll_succeeds_iff {ps : List Patch} {s : Specification} :
    (∃ t, applyAll ps s = .ok t) ↔ ∀ p ∈ ps, ∃ t, p.apply s = .ok t := by
  simp only [apply_succeeds_iff, ← mapM_succeeds_iff (f := (judge · s))]
  rw [applyAll_eq_judge]
  cases ps.mapM (judge · s) <;> simp [Except.map]

theorem applyAll_eq_error {ps : List Patch} {s : Specification} {e : Failure} :
    applyAll ps s = .error e ↔ FailsFirst ps s e := by
  have hjudge : applyAll ps s = .error e ↔ ps.mapM (judge · s) = .error e := by
    rw [applyAll_eq_judge]
    cases ps.mapM (judge · s) <;> simp [Except.map]
  rw [hjudge, mapM_eq_error]
  unfold FailsFirst
  simp only [apply_succeeds_iff, apply_eq_error]

end Patch

/-- A store that is asked for patches that fail answers with the failure and stays as it was. -/
theorem Store.perform_patch_error {σ μ ν : Type} (engine : Engine σ Failure μ ν) {t : Store Failure μ ν} (w : σ)
    {id : String} {session : Session Failure μ ν} (hsession : t.sessions.find? id = some session)
    {ps : List Patch} {e : Failure} (he : Patch.applyAll ps session.spec = .error e) :
    t.perform engine w (.patch id ps) = (.error e, t, w) := by
  have hrefused : session.patch ps = .error e := by
    unfold Session.patch
    rw [he]
    rfl
  have hpatch : t.patch id ps = .error e :=
    bind_eq_error.mpr (Or.inr ⟨session, Store.get_of_find? hsession,
      bind_eq_error.mpr (Or.inl hrefused)⟩)
  simp only [Store.perform, hpatch]

/-- A batch of patches is judged by the specification that it is applied to, each patch for itself.
It succeeds exactly if every patch does; it fails exactly as the first patch that fails alone, and
then the store that holds the session is left as it was, with everything in it. -/
theorem Patch.applyAll_judged (ps : List Patch) (s : Specification) :
    ((∃ t, applyAll ps s = .ok t) ↔ ∀ p ∈ ps, ∃ t, p.apply s = .ok t)
      ∧ (∀ e, applyAll ps s = .error e ↔ FailsFirst ps s e)
      ∧ ∀ {σ μ ν : Type} (engine : Engine σ Failure μ ν) (t : Store Failure μ ν) (w : σ) (id : String)
          (session : Session Failure μ ν) (e : Failure), t.sessions.find? id = some session →
          session.spec = s → FailsFirst ps s e →
          t.perform engine w (.patch id ps) = (.error e, t, w) := by
  refine ⟨applyAll_succeeds_iff, fun e => applyAll_eq_error, ?_⟩
  intro σ μ ν engine t w id session e hsession hspec hfails
  rw [← hspec] at hfails
  exact Store.perform_patch_error engine w hsession (applyAll_eq_error.mpr hfails)

/-- An option, and then data for a parameter that is not there: the batch fails as its second patch
does, and the option is not written either. -/
theorem Patch.applyAll_judged_of_missing_parameter :
    let s : Specification := ⟨"t", .empty, .empty, .empty, .empty⟩
    let ps : List Patch :=
      [⟨.str "merge", ["options", "x"], .int 1⟩, ⟨.str "merge", ["parameters", "m"], .list []⟩]
    let e : Failure := .patch ⟨.noParameter "m" [], some ["parameters", "m"]⟩
    let engine : Engine Unit Failure Unit Unit := ⟨fun _ w => (.ok (), w), fun _ w => (.ok (), w)⟩
    let created := (Store.empty : Store Failure Unit Unit).create s
    FailsFirst ps s e ∧ (¬ ∀ p ∈ ps, ∃ t, p.apply s = .ok t) ∧ applyAll ps s = .error e
      ∧ created.2.perform engine () (.patch created.1 ps) = (.error e, created.2, ()) := by
  intro s ps e engine created
  -- the option is the patch before the one that fails, and nothing comes behind that one
  have hfails : FailsFirst ps s e := by
    refine ⟨[_], _, [], rfl, ?_, ?_⟩
    · simp only [List.mem_singleton, forall_eq, apply, merge_supported]
      exact ⟨_, rfl⟩
    · simp only [apply, merge_supported]
      rfl
  obtain ⟨hsucceeds, hfailure, hstore⟩ := applyAll_judged ps s
  have herror : applyAll ps s = .error e := (hfailure e).mpr hfails
  refine ⟨hfails, ?_, herror, ?_⟩
  · intro hall
    obtain ⟨t, ht⟩ := hsucceeds.mpr hall
    rw [herror] at ht
    cases ht
  · exact hstore engine created.2 () created.1 (.ofSpecification s) e (by simp [created]) rfl hfails

end Rostering
