import Rostering.Proofs.Session.Invariant

/-!
# Keeping models cannot be seen

A store whose engine does nothing but apply two functions answers like a store that keeps no models
at all (`caching_unobservable`). The other store knows of each session its specification and what
came of the last solving since that was changed, and makes a new model whenever it solves.

## The architecture

* **`PlainStore`** — the store without models, and what each operation does to it.
* **`Session.plain`** — what a session is without its model.
* **`Store.Step.plain`** — the simulation: forgetting the models commutes with each operation,
  as long as every model that is kept is one of its specification (`Store.Pure`).
-/

namespace Rostering

variable {ε μ ν : Type}

open StoreFailure (own)

/-! ## Sessions without models -/

/-- What has come of a specification since it was last changed. -/
inductive PlainOutcome (ε ν : Type) where
  | created
  | updated
  | solved (v : ν)
  | failed (reason : ε)

/-- A specification with what has come of it. -/
structure PlainSession (ε ν : Type) where
  spec : Specification
  outcome : PlainOutcome ε ν

/-- The view of a session without a model. -/
def PlainSession.view (s : PlainSession ε ν) : SessionView ε ν :=
  match s.outcome with
  | .created => ⟨s.spec, "created", none, none⟩
  | .updated => ⟨s.spec, "updated", none, none⟩
  | .solved v => ⟨s.spec, "solved", some v, none⟩
  | .failed reason => ⟨s.spec, "error", none, some reason⟩

/-- What came of a solving. -/
def PlainOutcome.ofResult : Except ε ν → PlainOutcome ε ν
  | .ok v => .solved v
  | .error reason => .failed reason

/-- Sessions without models by id, and how many there have been. -/
structure PlainStore (ε ν : Type) where
  sessions : Named (PlainSession ε ν)
  created : Nat

namespace PlainStore

/-- A store without sessions. -/
def empty : PlainStore ε ν := ⟨.empty, 0⟩

/-- The store after one of its sessions was changed. -/
def put (t : PlainStore ε ν) (id : String) (s : PlainSession ε ν) : PlainStore ε ν :=
  { t with sessions := t.sessions.insert id s }

/-- Carries out an operation. A solving makes a model of the specification and solves it. -/
def perform [StoreFailure ε] (build : Specification → Except ε μ) (solve : μ → Except ε ν)
    (t : PlainStore ε ν) : Operation → Except ε (Answer ε ν) × PlainStore ε ν
  | .create spec =>
    let id := Store.idOf (t.created + 1)
    let s := ⟨spec, .created⟩
    (.ok (.session id s.view), ⟨t.sessions.insert id s, t.created + 1⟩)
  | .get id =>
    match t.sessions.find? id with
    | none => (.error (own (.noSession id)), t)
    | some s => (.ok (.session id s.view), t)
  | .list => (.ok (.sessions (t.sessions.map fun _ s => s.view).entries), t)
  | .patch id ps =>
    match t.sessions.find? id with
    | none => (.error (own (.noSession id)), t)
    | some s =>
      match Patch.applyAll ps s.spec with
      | .error e => (.error (own e), t)
      | .ok spec =>
        let s := ⟨spec, .updated⟩
        (.ok (.session id s.view), t.put id s)
  | .solve id =>
    match t.sessions.find? id with
    | none => (.error (own (.noSession id)), t)
    | some s =>
      let result := (build s.spec).bind solve
      (result.map .solution, t.put id ⟨s.spec, .ofResult result⟩)
  | .solution id =>
    match t.sessions.find? id with
    | none => (.error (own (.noSession id)), t)
    | some s =>
      match s.outcome with
      | .solved v => (.ok (.solution v), t)
      | _ => (.error (own (.noSolution id)), t)
  | .delete id =>
    match t.sessions.find? id with
    | none => (.error (own (.noSession id)), t)
    | some _ => (.ok .deleted, { t with sessions := t.sessions.erase id })

end PlainStore

/-- A store without models in use. -/
structure PlainRun (ε ν : Type) where
  store : PlainStore ε ν
  history : List (Event ε ν)

namespace PlainRun

/-- An operation on a store without models. Solving makes a model of what the session holds now,
whatever came before. -/
def step [StoreFailure ε] (build : Specification → Except ε μ) (solve : μ → Except ε ν)
    (r : PlainRun ε ν) (op : Operation) : PlainRun ε ν :=
  let (answer, store) := r.store.perform build solve op
  ⟨store, r.history ++ [⟨op, answer⟩]⟩

/-- Operations one after the other, from an empty store. -/
def of [StoreFailure ε] (build : Specification → Except ε μ) (solve : μ → Except ε ν)
    (ops : List Operation) : PlainRun ε ν :=
  ops.foldl (step build solve) ⟨.empty, []⟩

end PlainRun

/-! ## Engines that are functions -/

/-- An engine that applies two functions, and has no state. -/
def Engine.ofFunctions (build : Specification → Except ε μ)
    (solve : μ → Except ε ν) : Engine Unit ε μ ν where
  build spec w := (build spec, w)
  solve m w := (solve m, w)

/-- A call is answered by the functions. -/
def Call.IsOf (build : Specification → Except ε μ) (solve : μ → Except ε ν) :
    Call ε μ ν → Prop
  | .build spec result => build spec = result
  | .solve m result => solve m = result

/-! ## Forgetting models -/

/-- A session without its model. -/
def Session.plain (s : Session ε μ ν) : PlainSession ε ν :=
  match s.state, s.solution?, s.error? with
  | .solved, some v, _ => ⟨s.spec, .solved v⟩
  | .error, _, some reason => ⟨s.spec, .failed reason⟩
  | .updated, _, _ => ⟨s.spec, .updated⟩
  | _, _, _ => ⟨s.spec, .created⟩

/-- A store without the models of its sessions. -/
def Store.plain (t : Store ε μ ν) : PlainStore ε ν :=
  ⟨t.sessions.map fun _ s => s.plain, t.created⟩

@[simp] theorem Session.plain_spec (s : Session ε μ ν) : s.plain.spec = s.spec := by
  unfold plain
  split <;> rfl

/-- A sound session shows the same with and without its model. -/
theorem Session.Sound.view_plain {made : Call ε μ ν → Prop} {s : Session ε μ ν} (h : s.Sound made) :
    s.plain.view = s.view := by
  cases h with
  | fresh hstate _ hsolution herror =>
      rcases hstate with hstate | hstate <;>
        simp [plain, PlainSession.view, view, status, Status.name, hstate, hsolution, herror]
  | solved hstate _ hsolution herror =>
      simp [plain, PlainSession.view, view, status, Status.name, hstate, hsolution, herror]
  | failed hstate _ hsolution herror =>
      simp [plain, PlainSession.view, view, status, Status.name, hstate, hsolution, herror]

/-- The outcome of a sound session is a solution exactly if the session has that solution. -/
theorem Session.Sound.outcome_plain {made : Call ε μ ν → Prop} {s : Session ε μ ν}
    (h : s.Sound made) :
    (∃ v, s.solution? = some v ∧ s.plain.outcome = .solved v)
      ∨ (s.solution? = none ∧ ∀ v, s.plain.outcome ≠ .solved v) := by
  cases h with
  | fresh hstate _ hsolution herror =>
      rcases hstate with hstate | hstate <;>
        exact Or.inr ⟨hsolution, by simp [plain, hstate]⟩
  | solved hstate _ hsolution => exact Or.inl ⟨_, hsolution, by simp [plain, hstate, hsolution]⟩
  | failed hstate _ hsolution herror =>
      exact Or.inr ⟨hsolution, by simp [plain, hstate, herror]⟩

section Simulation

variable {build : Specification → Except ε μ} {solve : μ → Except ε ν}

/-- **Solving with or without a kept model is the same.** If a session is sound, the result is that
of solving a new model of its specification, and so is what the session shows afterwards. -/
theorem Session.Solving.plain {s s' : Session ε μ ν} {w w' : Unit} {result : Except ε ν}
    (h : s.Solving (Engine.ofFunctions build solve) w result s' w')
    (hs : s.Sound (Call.IsOf build solve)) :
    result = (build s.spec).bind solve ∧ s'.plain = ⟨s.spec, .ofResult result⟩
      ∧ s'.Sound (Call.IsOf build solve) := by
  cases h with
  | unbuilt hmodel hbuild =>
      have hb : build s.spec = _ := congrArg Prod.fst hbuild
      exact ⟨by rw [hb]; rfl, rfl, .of_failed s _ _⟩
  | builtFailed hmodel hbuild hsolve =>
      have hb : build s.spec = _ := congrArg Prod.fst hbuild
      have hv := congrArg Prod.fst hsolve
      exact ⟨by rw [hb]; exact hv.symm, rfl, .of_failed s _ _⟩
  | builtSolved hmodel hbuild hsolve =>
      have hb : build s.spec = _ := congrArg Prod.fst hbuild
      have hv := congrArg Prod.fst hsolve
      exact ⟨by rw [hb]; exact hv.symm, rfl, .solved rfl rfl rfl rfl hb hv⟩
  | keptFailed hmodel hsolve =>
      -- the kept model is what building would give again
      have hb : build s.spec = _ := hs.made_build hmodel
      have hv := congrArg Prod.fst hsolve
      exact ⟨by rw [hb]; exact hv.symm, rfl, .of_failed s _ _⟩
  | keptSolved hmodel hsolve =>
      have hb : build s.spec = _ := hs.made_build hmodel
      have hv := congrArg Prod.fst hsolve
      exact ⟨by rw [hb]; exact hv.symm, rfl, .solved rfl rfl rfl rfl hb hv⟩

/-! ## The simulation -/

namespace Store

/-- Every session of a store is sound for the calls that the functions answer. -/
def Pure (build : Specification → Except ε μ) (solve : μ → Except ε ν)
    (t : Store ε μ ν) : Prop :=
  ∀ id s, t.sessions.find? id = some s → s.Sound (Call.IsOf build solve)

theorem find?_plain (t : Store ε μ ν) (id : String) :
    t.plain.sessions.find? id = (t.sessions.find? id).map Session.plain :=
  Named.find?_map (fun _ (s : Session ε μ ν) => s.plain) t.sessions id

theorem plain_put (t : Store ε μ ν) (id : String) (s : Session ε μ ν) :
    (t.put id s).plain = t.plain.put id s.plain := by
  simp only [plain, put, PlainStore.put, Named.map_insert]

/-- Putting a sound session into a store keeps the store sound. -/
theorem Pure.put {t : Store ε μ ν} (ht : t.Pure build solve) (id : String) {s : Session ε μ ν}
    (hs : s.Sound (Call.IsOf build solve)) : (t.put id s).Pure build solve := by
  intro other s' hs'
  rw [find?_put] at hs'
  by_cases hid : other = id
  · rw [if_pos hid, Option.some.injEq] at hs'
    exact hs' ▸ hs
  · rw [if_neg hid] at hs'
    exact ht other s' hs'

variable [StoreFailure ε]

/-- The invariant: models that are kept are those of their specifications, because a patch throws
the model away. -/
theorem Step.pure {t t' : Store ε μ ν} {w w' : Unit} {event : Event ε ν}
    (h : t.Step (Engine.ofFunctions build solve) w event t' w') (ht : t.Pure build solve) :
    t'.Pure build solve := by
  cases h with
  | created spec => exact ht.put _ (.of_new spec)
  | patched hs hps => exact ht.put _ (.of_updated _ _)
  | solved hs hsolving => exact ht.put _ (hsolving.plain (ht _ _ hs)).2.2
  | deleted hs =>
      intro other s' hs'
      rw [Named.find?_erase] at hs'
      split at hs'
      · simp at hs'
      · exact ht other s' hs'
  | _ => exact ht

omit [StoreFailure ε] in
/-- The sessions of a sound store show the same with and without their models. -/
theorem Pure.views_plain {t : Store ε μ ν} (ht : t.Pure build solve) :
    (t.plain.sessions.map fun _ s => s.view) = t.sessions.map fun _ s => s.view := by
  apply Named.ext_entries
  show (t.sessions.entries.map fun e => (e.1, e.2.plain)).map (fun e => (e.1, e.2.view))
    = t.sessions.entries.map fun e => (e.1, e.2.view)
  rw [List.map_map]
  refine List.map_congr_left fun e he => ?_
  have hs := (Named.mem_entries_iff t.sessions e.1 e.2).mp he
  exact congrArg (Prod.mk e.1) (ht e.1 e.2 hs).view_plain

/-- **The simulation.** The store without models answers each step of a sound store in the same
way, and goes where forgetting the models leads to. -/
theorem Step.plain {t t' : Store ε μ ν} {w w' : Unit} {event : Event ε ν}
    (h : t.Step (Engine.ofFunctions build solve) w event t' w') (ht : t.Pure build solve) :
    t.plain.perform build solve event.operation = (event.answer, t'.plain) := by
  cases h with
  | @missing op id hop hs =>
      -- neither store has the session, whatever is asked of it
      cases op <;> simp_all [PlainStore.perform, find?_plain, Operation.target?]
  | created spec =>
      simp only [PlainStore.perform, Store.plain, create, Named.map_insert]
      rfl
  | got hs => simp [PlainStore.perform, find?_plain, hs, (ht _ _ hs).view_plain]
  | listed => simp [PlainStore.perform, ht.views_plain]
  | patched hs hps =>
      simp only [PlainStore.perform, find?_plain, hs, Option.map_some, Session.plain_spec, hps,
        plain_put]
      rfl
  | patchRefused hs hps => simp [PlainStore.perform, find?_plain, hs, hps]
  | solved hs hsolving =>
      obtain ⟨hresult, hplain, -⟩ := hsolving.plain (ht _ _ hs)
      simp [PlainStore.perform, find?_plain, hs, plain_put, hplain, ← hresult]
  | solutionGiven hs hv =>
      rcases (ht _ _ hs).outcome_plain with ⟨v, hv', houtcome⟩ | ⟨hv', houtcome⟩
      · simp_all [PlainStore.perform, find?_plain]
      · simp [hv] at hv'
  | solutionRefused hs hv =>
      rcases (ht _ _ hs).outcome_plain with ⟨v, hv', houtcome⟩ | ⟨hv', houtcome⟩
      · simp [hv] at hv'
      · simp only [PlainStore.perform, find?_plain, hs, Option.map_some]
  | deleted hs =>
      simp only [PlainStore.perform, find?_plain, hs, Option.map_some]
      simp only [Store.plain, Named.map_erase]

/-- Solving a session of a sound store gives what a new model of its specification gives, and that
is what the session shows afterwards. -/
theorem Pure.solve_eq {t : Store ε μ ν} (ht : t.Pure build solve) {id : String} {s : Session ε μ ν}
    (hs : t.sessions.find? id = some s) :
    (t.solve (Engine.ofFunctions build solve) id ()).1 = (build s.spec).bind solve
      ∧ ((t.solve (Engine.ofFunctions build solve) id ()).2.1.get id).map Session.view
        = .ok (PlainSession.view ⟨s.spec, .ofResult ((build s.spec).bind solve)⟩) := by
  obtain ⟨hresult, hplain, hsound⟩ :=
    (s.solve_solving (Engine.ofFunctions build solve) ()).plain (ht id s hs)
  simp only [Store.solve, get_of_find? hs]
  refine ⟨hresult, ?_⟩
  rw [get_of_find? ((find?_put _ _ _ _).trans (if_pos rfl)), ← hresult, ← hplain,
    hsound.view_plain]
  rfl

end Store

/-! ## Runs -/

variable [StoreFailure ε]

/-- A run without models is the run with them, its models forgotten, and its store is sound.
Induction on the operations, last one first. -/
theorem PlainRun.of_eq (build : Specification → Except ε μ) (solve : μ → Except ε ν)
    (ops : List Operation) :
    PlainRun.of build solve ops
        = ⟨(Run.of (Engine.ofFunctions build solve) () ops).store.plain,
          (Run.of (Engine.ofFunctions build solve) () ops).history⟩
      ∧ (Run.of (Engine.ofFunctions build solve) () ops).store.Pure build solve := by
  induction ops using List.reverseRecOn with
  | nil => exact ⟨rfl, fun id s hs => by simp [Run.of, Run.start, Store.empty] at hs⟩
  | append_singleton ops op ih =>
      obtain ⟨hrun, hpure⟩ := ih
      -- one operation more: the simulation needs the store to be sound, and keeps it so
      have hstep := Store.perform_step (Engine.ofFunctions build solve)
        (Run.of (Engine.ofFunctions build solve) () ops).store () op
      rw [Run.of_append]
      refine ⟨?_, hstep.pure hpure⟩
      rw [PlainRun.of, List.foldl_append]
      show PlainRun.step build solve (PlainRun.of build solve ops) op = _
      rw [hrun, PlainRun.step, hstep.plain hpure]
      rfl

end Simulation

end Rostering
