import Rostering.Proofs.Named
import Rostering.Session.Store

/-!
# Runs of a store of sessions

A store is used by one operation after the other, each of which may fail. `Store.perform` carries
out one operation, `Run.of` a list of them from an empty store, and the history of a run keeps what
was asked and what was answered.

## The architecture

* **`Session.Solving`** — what solving a session can do, one constructor for each way in which it
  can go: the model is kept or made, making it fails, solving it fails or succeeds.
* **`Store.Step`** — what one operation can do to the store, one constructor for each kind of
  change, with the event that goes with it. Invariants of runs are case analyses over it.
* **`Run.induction`** — what holds at the start and is kept by each step holds of every run.
* **`Engine.recorded`** — an engine that also writes down its calls, so that theorems can speak of
  what was called during a run; `Run.withoutCalls_of` says that it makes no difference otherwise.
-/

namespace Rostering

variable {σ ε μ ν : Type}

open StoreFailure (own)

/-! ## Operations and answers -/

/-- What a store can be asked to do. -/
inductive Operation where
  | create (spec : Specification)
  | get (id : String)
  | list
  | patch (id : String) (ps : List Patch)
  | solve (id : String)
  | solution (id : String)
  | delete (id : String)

/-- What a session shows of itself: all but the model that it may keep. -/
structure SessionView (ε ν : Type) where
  spec : Specification
  status : String
  solution : Option ν
  error : Option ε

/-- The view of a session. -/
def Session.view (s : Session ε μ ν) : SessionView ε ν := ⟨s.spec, s.status, s.solution?, s.error?⟩

/-- What an operation answers if it does not fail. -/
inductive Answer (ε ν : Type) where
  | session (id : String) (view : SessionView ε ν)
  | sessions (views : List (String × SessionView ε ν))
  | solution (v : ν)
  | deleted

variable [StoreFailure ε]

/-- Carries out an operation. -/
def Store.perform (e : Engine σ ε μ ν) (t : Store ε μ ν) (w : σ) :
    Operation → Except ε (Answer ε ν) × Store ε μ ν × σ
  | .create spec =>
    let (id, t) := t.create spec
    (.ok (.session id (Session.ofSpecification spec : Session ε μ ν).view), t, w)
  | .get id => ((t.get id).map fun s => .session id s.view, t, w)
  | .list => (.ok (.sessions (t.sessions.map fun _ s => s.view).entries), t, w)
  | .patch id ps =>
    match t.patch id ps with
    | .ok t => ((t.get id).map fun s => .session id s.view, t, w)
    | .error reason => (.error reason, t, w)
  | .solve id =>
    let (result, t, w) := t.solve e id w
    (result.map .solution, t, w)
  | .solution id => ((t.solution id).map .solution, t, w)
  | .delete id =>
    match t.delete id with
    | .ok t => (.ok .deleted, t, w)
    | .error reason => (.error reason, t, w)

/-! ## Runs -/

/-- An operation with its answer. -/
structure Event (ε ν : Type) where
  operation : Operation
  answer : Except ε (Answer ε ν)

/-- A store in use: the sessions, the state of the engine, and what has happened so far, oldest
event first. -/
structure Run (σ ε μ ν : Type) where
  store : Store ε μ ν
  world : σ
  history : List (Event ε ν)

namespace Run

/-- Nothing has been asked yet. -/
def start (w : σ) : Run σ ε μ ν := ⟨.empty, w, []⟩

/-- One operation, written down with its answer. -/
def step (e : Engine σ ε μ ν) (r : Run σ ε μ ν) (op : Operation) : Run σ ε μ ν :=
  let (answer, store, world) := r.store.perform e r.world op
  ⟨store, world, r.history ++ [⟨op, answer⟩]⟩

/-- Operations one after the other, from an empty store. -/
def of (e : Engine σ ε μ ν) (w : σ) (ops : List Operation) : Run σ ε μ ν :=
  ops.foldl (step e) (start w)

theorem of_append (e : Engine σ ε μ ν) (w : σ) (ops : List Operation) (op : Operation) :
    of e w (ops ++ [op]) = (of e w ops).step e op := by
  rw [of, List.foldl_append]
  rfl

/-- What holds at the start and is kept by each step holds of every run. -/
theorem induction (e : Engine σ ε μ ν) (w : σ) (P : Run σ ε μ ν → Prop) (hstart : P (start w))
    (hstep : ∀ r op, P r → P (r.step e op)) (ops : List Operation) : P (of e w ops) := by
  have hfold : ∀ r, P r → P (ops.foldl (step e) r) := by
    induction ops with
    | nil => exact fun _ hr => hr
    | cons op ops ih => exact fun r hr => ih (r.step e op) (hstep r op hr)
  exact hfold (start w) hstart

end Run

/-! ## What solving a session can do -/

/-- The ways in which solving a session can go, with its result, the session afterwards and the
state of the engine. -/
inductive Session.Solving (e : Engine σ ε μ ν) (s : Session ε μ ν) (w : σ) :
    Except ε ν → Session ε μ ν → σ → Prop where
  | unbuilt {reason w'} (hmodel : s.model? = none)
      (hbuild : e.build s.spec w = (.error reason, w')) :
      Solving e s w (.error reason) (s.failed reason) w'
  | builtFailed {m reason w' w''} (hmodel : s.model? = none)
      (hbuild : e.build s.spec w = (.ok m, w')) (hsolve : e.solve m w' = (.error reason, w'')) :
      Solving e s w (.error reason) { s.failed reason with builds := s.builds + 1 } w''
  | builtSolved {m v w' w''} (hmodel : s.model? = none)
      (hbuild : e.build s.spec w = (.ok m, w')) (hsolve : e.solve m w' = (.ok v, w'')) :
      Solving e s w (.ok v)
        ⟨s.spec, .solved, some m, some v, none, s.builds + 1⟩ w''
  | keptFailed {m reason w'} (hmodel : s.model? = some m)
      (hsolve : e.solve m w = (.error reason, w')) :
      Solving e s w (.error reason) (s.failed reason) w'
  | keptSolved {m v w'} (hmodel : s.model? = some m) (hsolve : e.solve m w = (.ok v, w')) :
      Solving e s w (.ok v) ⟨s.spec, .solved, some m, some v, none, s.builds⟩ w'

omit [StoreFailure ε] in
/-- Solving goes in one of these ways. The cases follow what the engine answers: to building, if
there is no model, and then to solving. -/
theorem Session.solve_solving (e : Engine σ ε μ ν) (s : Session ε μ ν) (w : σ) :
    s.Solving e w (s.solve e w).1 (s.solve e w).2.1 (s.solve e w).2.2 := by
  unfold Session.solve Session.modelWith
  cases hmodel : s.model? with
  | some m =>
      cases hsolve : e.solve m w with
      | mk result w' =>
          simp only [hsolve, hmodel]
          cases result with
          | ok v => exact .keptSolved hmodel hsolve
          | error reason => exact .keptFailed hmodel hsolve
  | none =>
      cases hbuild : e.build s.spec w with
      | mk made w' =>
          cases made with
          | error reason => exact .unbuilt hmodel hbuild
          | ok m =>
              cases hsolve : e.solve m w' with
              | mk result w'' =>
                  simp only [hsolve]
                  cases result with
                  | ok v => exact .builtSolved hmodel hbuild hsolve
                  | error reason => exact .builtFailed hmodel hbuild hsolve

/-! ## What an operation can do to a store -/

/-- The session that an operation is about. -/
def Operation.target? : Operation → Option String
  | .create _ | .list => none
  | .get id | .patch id _ | .solve id | .solution id | .delete id => some id

/-- A session whose specification has been changed. -/
def Session.updated (s : Session ε μ ν) (spec : Specification) : Session ε μ ν :=
  ⟨spec, .updated, none, none, none, s.builds⟩

namespace Store

/-- The ways in which an operation can go: the event, the store afterwards and the state of the
engine. -/
inductive Step (e : Engine σ ε μ ν) (t : Store ε μ ν) (w : σ) : Event ε ν → Store ε μ ν → σ → Prop where
  | missing {op id} (hop : op.target? = some id) (hs : t.sessions.find? id = none) :
      Step e t w ⟨op, .error (own (.noSession id))⟩ t w
  | created (spec : Specification) :
      Step e t w
        ⟨.create spec, .ok (.session (t.create spec).1
          (Session.ofSpecification spec : Session ε μ ν).view)⟩
        (t.create spec).2 w
  | got {id s} (hs : t.sessions.find? id = some s) :
      Step e t w ⟨.get id, .ok (.session id s.view)⟩ t w
  | listed : Step e t w ⟨.list, .ok (.sessions (t.sessions.map fun _ s => s.view).entries)⟩ t w
  | patched {id ps s spec} (hs : t.sessions.find? id = some s)
      (hps : Patch.applyAll ps s.spec = .ok spec) :
      Step e t w ⟨.patch id ps, .ok (.session id (s.updated spec).view)⟩
        (t.put id (s.updated spec)) w
  | patchRefused {id ps s error} (hs : t.sessions.find? id = some s)
      (hps : Patch.applyAll ps s.spec = .error error) :
      Step e t w ⟨.patch id ps, .error (own error)⟩ t w
  | solved {id s result s' w'} (hs : t.sessions.find? id = some s)
      (hsolving : s.Solving e w result s' w') :
      Step e t w ⟨.solve id, result.map .solution⟩ (t.put id s') w'
  | solutionGiven {id s v} (hs : t.sessions.find? id = some s) (hv : s.solution? = some v) :
      Step e t w ⟨.solution id, .ok (.solution v)⟩ t w
  | solutionRefused {id s} (hs : t.sessions.find? id = some s) (hv : s.solution? = none) :
      Step e t w ⟨.solution id, .error (own (.noSolution id))⟩ t w
  | deleted {id s} (hs : t.sessions.find? id = some s) :
      Step e t w ⟨.delete id, .ok .deleted⟩ { t with sessions := t.sessions.erase id } w

theorem get_eq_ok_iff {t : Store ε μ ν} {id : String} {s : Session ε μ ν} :
    t.get id = .ok s ↔ t.sessions.find? id = some s := by
  unfold get
  cases t.sessions.find? id with
  | none => simp [throw, throwThe, MonadExceptOf.throw]
  | some s' => simp [pure, Except.pure]

theorem get_of_find? {t : Store ε μ ν} {id : String} {s : Session ε μ ν}
    (hs : t.sessions.find? id = some s) : t.get id = .ok s :=
  get_eq_ok_iff.mpr hs

theorem get_of_find?_eq_none {t : Store ε μ ν} {id : String} (hs : t.sessions.find? id = none) :
    t.get id = .error (own (.noSession id)) := by
  rw [get, hs]
  rfl

omit [StoreFailure ε] in
@[simp] theorem find?_put (t : Store ε μ ν) (id other : String) (s : Session ε μ ν) :
    (t.put id s).sessions.find? other
      = if other = id then some s else t.sessions.find? other :=
  Named.find?_insert t.sessions id other s

omit [StoreFailure ε] in
@[simp] theorem find?_create (t : Store ε μ ν) (spec : Specification) (other : String) :
    (t.create spec).2.sessions.find? other
      = if other = (t.create spec).1 then some (.ofSpecification spec)
        else t.sessions.find? other :=
  Named.find?_insert t.sessions (t.create spec).1 other (.ofSpecification spec)

/-- An operation on an id that no session has is refused and changes nothing. -/
theorem perform_missing (e : Engine σ ε μ ν) {t : Store ε μ ν} (w : σ) {op : Operation} {id : String}
    (hop : op.target? = some id) (hs : t.sessions.find? id = none) :
    t.perform e w op = (.error (own (.noSession id)), t, w) := by
  have hget := get_of_find?_eq_none hs
  cases op with
  | create spec => simp [Operation.target?] at hop
  | list => simp [Operation.target?] at hop
  -- every other operation asks for the session first
  | _ =>
      simp only [Operation.target?, Option.some.injEq] at hop
      subst hop
      simp [perform, patch, solve, solution, delete, hget, Except.map, bind, Except.bind]

/-- Every operation is one of the steps: it changes one session at most, and tells in its answer
what has become of it. -/
theorem perform_step (e : Engine σ ε μ ν) (t : Store ε μ ν) (w : σ) (op : Operation) :
    t.Step e w ⟨op, (t.perform e w op).1⟩ (t.perform e w op).2.1 (t.perform e w op).2.2 := by
  -- operations on a missing session first; for the others there is one to look at
  have hmissing : ∀ id, op.target? = some id → t.sessions.find? id = none →
      t.Step e w ⟨op, (t.perform e w op).1⟩ (t.perform e w op).2.1 (t.perform e w op).2.2 := by
    intro id hop hs
    rw [perform_missing e w hop hs]
    exact .missing hop hs
  cases op with
  | create spec => exact .created spec
  | list => exact .listed
  | get id =>
      cases hs : t.sessions.find? id with
      | none => exact hmissing id rfl hs
      | some s => simpa [perform, get_of_find? hs, Except.map] using Step.got hs
  | patch id ps =>
      cases hs : t.sessions.find? id with
      | none => exact hmissing id rfl hs
      | some s =>
          cases hps : Patch.applyAll ps s.spec with
          | error error =>
              have hpatch : t.patch id ps = .error (own error) := by
                simp [patch, get_of_find? hs, Session.patch, hps, bind, Except.bind, throw,
                  throwThe, MonadExceptOf.throw]
              simpa [perform, hpatch] using Step.patchRefused hs hps
          | ok spec =>
              have hpatch : t.patch id ps = .ok (t.put id (s.updated spec)) := by
                simp only [patch, get_of_find? hs, Session.patch, hps, bind, Except.bind, pure,
                  Except.pure]
                rfl
              have hget : (t.put id (s.updated spec)).get id = .ok (s.updated spec) :=
                get_of_find? (by simp)
              simpa [perform, hpatch, hget, Except.map] using Step.patched hs hps
  | solve id =>
      cases hs : t.sessions.find? id with
      | none => exact hmissing id rfl hs
      | some s =>
          simpa [perform, solve, get_of_find? hs] using Step.solved hs (s.solve_solving e w)
  | solution id =>
      cases hs : t.sessions.find? id with
      | none => exact hmissing id rfl hs
      | some s =>
          cases hv : s.solution? with
          | none =>
              simpa [perform, solution, get_of_find? hs, hv, bind, Except.bind, throw, throwThe,
                MonadExceptOf.throw, Except.map] using Step.solutionRefused hs hv
          | some v =>
              simpa [perform, solution, get_of_find? hs, hv, bind, Except.bind, pure,
                Except.pure, Except.map] using Step.solutionGiven hs hv
  | delete id =>
      cases hs : t.sessions.find? id with
      | none => exact hmissing id rfl hs
      | some s =>
          simpa [perform, delete, get_of_find? hs, bind, Except.bind, pure, Except.pure]
            using Step.deleted hs

end Store

/-! ## Calls of the engine -/

/-- A call of the engine with what came of it. -/
inductive Call (ε μ ν : Type) where
  | build (spec : Specification) (result : Except ε μ)
  | solve (m : μ) (result : Except ε ν)

/-- The engine that does the same and writes down its calls, oldest first. -/
def Engine.recorded (e : Engine σ ε μ ν) : Engine (σ × List (Call ε μ ν)) ε μ ν where
  build spec w :=
    let (result, w') := e.build spec w.1
    (result, w', w.2 ++ [.build spec result])
  solve m w :=
    let (result, w') := e.solve m w.1
    (result, w', w.2 ++ [.solve m result])

omit [StoreFailure ε] in
/-- Writing calls down makes no difference to how a session is solved. -/
theorem Session.solve_recorded (e : Engine σ ε μ ν) (s : Session ε μ ν) (w : σ)
    (calls : List (Call ε μ ν)) :
    ∃ more, s.solve e.recorded (w, calls)
      = ((s.solve e w).1, (s.solve e w).2.1, (s.solve e w).2.2, calls ++ more) := by
  unfold Session.solve Session.modelWith
  -- the cases are those of `Session.solve_solving`, and in each of them the calls are some that
  -- were made
  cases hmodel : s.model? with
  | some m =>
      cases hsolve : e.solve m w with
      | mk result w' =>
          cases result <;> exact ⟨_, by simp [Engine.recorded, hsolve]; rfl⟩
  | none =>
      cases hbuild : e.build s.spec w with
      | mk made w' =>
          cases made with
          | error reason => exact ⟨_, by simp [Engine.recorded, hbuild]; rfl⟩
          | ok m =>
              cases hsolve : e.solve m w' with
              | mk result w'' =>
                  cases result <;> exact ⟨_, by simp [Engine.recorded, hbuild, hsolve]; rfl⟩

/-- A run of an engine, seen from a run in which its calls are written down. -/
def Run.withoutCalls (r : Run (σ × List (Call ε μ ν)) ε μ ν) : Run σ ε μ ν :=
  ⟨r.store, r.world.1, r.history⟩

/-- Writing calls down makes no difference to a step. -/
theorem Run.withoutCalls_step (e : Engine σ ε μ ν) (r : Run (σ × List (Call ε μ ν)) ε μ ν)
    (op : Operation) : (r.step e.recorded op).withoutCalls = r.withoutCalls.step e op := by
  obtain ⟨t, ⟨w, calls⟩, history⟩ := r
  -- only solving calls the engine
  cases op with
  | solve id =>
      cases hget : t.get id with
      | error reason => simp [step, withoutCalls, Store.perform, Store.solve, hget]
      | ok s =>
          obtain ⟨more, hmore⟩ := s.solve_recorded e w calls
          simp [step, withoutCalls, Store.perform, Store.solve, hget, hmore]
  | patch id ps =>
      cases hpatch : t.patch id ps <;> simp [step, withoutCalls, Store.perform, hpatch]
  | delete id =>
      cases hdelete : t.delete id <;> simp [step, withoutCalls, Store.perform, hdelete]
  | _ => rfl

/-- Writing calls down makes no difference to a run. Induction on the operations, last one
first. -/
theorem Run.withoutCalls_of (e : Engine σ ε μ ν) (w : σ) (ops : List Operation) :
    (of e.recorded (w, []) ops).withoutCalls = of e w ops := by
  induction ops using List.reverseRecOn with
  | nil => rfl
  | append_singleton ops op ih => rw [of_append, of_append, withoutCalls_step, ih]

end Rostering
