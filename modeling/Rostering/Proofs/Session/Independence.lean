import Rostering.Proofs.Except
import Rostering.Proofs.Session.Caching

/-!
# Operations on different sessions

An operation on a session looks at that session alone and changes nothing else. So two operations
on different sessions can be carried out in either order (`Store.perform_comm`): each is answered
in the same way, and the stores that they lead to are the same, the order of the sessions included.

## The architecture

* **`Action`**, **`Session.act`** — what can be asked of a session, and what it makes of the session
  when nothing else is there.
* **`Store.settle`** — the store with what is left of one session.
* **`Store.perform_on`** — an operation of the store acts on its session and settles it.
* **`Store.settle_comm`**, **`Store.SameBut`** — settling different sessions commutes, and leaves the
  rest of the store as it is.
-/

namespace Rostering

variable {σ ε μ ν : Type}
variable [StoreFailure ε]

open StoreFailure (own)

/-! ## Actions -/

/-- What can be asked of a session. -/
inductive Action where
  | get
  | patch (ps : List Patch)
  | solve
  | solution
  | delete

/-- An action on the session of an id, as an operation. -/
def Action.on (id : String) : Action → Operation
  | .get => .get id
  | .patch ps => .patch id ps
  | .solve => .solve id
  | .solution => .solution id
  | .delete => .delete id

theorem Action.target?_on (id : String) (a : Action) : (a.on id).target? = some id := by
  cases a <;> rfl

/-- Carries out an action on the session of an id: the answer, what is left of the session, and the
state of the engine. -/
def Session.act (e : Engine σ ε μ ν) (id : String) (s : Session ε μ ν) (w : σ) :
    Action → Except ε (Answer ε ν) × Option (Session ε μ ν) × σ
  | .get => (.ok (.session id s.view), some s, w)
  | .patch ps =>
    match s.patch ps with
    | .ok s => (.ok (.session id s.view), some s, w)
    | .error reason => (.error reason, some s, w)
  | .solve =>
    let (result, s, w) := s.solve e w
    (result.map .solution, some s, w)
  | .solution =>
    match s.solution? with
    | some v => (.ok (.solution v), some s, w)
    | none => (.error (own (.noSolution id)), some s, w)
  | .delete => (.ok .deleted, none, w)

/-- Carries out an action on what is found under an id. -/
def Action.perform (e : Engine σ ε μ ν) (id : String) (a : Action) (found? : Option (Session ε μ ν))
    (w : σ) : Except ε (Answer ε ν) × Option (Session ε μ ν) × σ :=
  match found? with
  | none => (.error (own (.noSession id)), none, w)
  | some s => s.act e id w a

/-- No action makes a session of nothing. -/
theorem Action.isSome_of_perform {e : Engine σ ε μ ν} {id : String} {a : Action}
    {found? : Option (Session ε μ ν)} {w : σ} (h : (a.perform e id found? w).2.1.isSome) :
    found?.isSome := by
  cases found? with
  | none => simp [perform] at h
  | some s => rfl

namespace Store

/-! ## Settling a session -/

/-- The store with what is left of the session of an id. -/
def settle (t : Store ε μ ν) (id : String) : Option (Session ε μ ν) → Store ε μ ν
  | some s => t.put id s
  | none => { t with sessions := t.sessions.erase id }

omit [StoreFailure ε] in
@[simp] theorem created_settle (t : Store ε μ ν) (id : String) (left? : Option (Session ε μ ν)) :
    (t.settle id left?).created = t.created := by
  cases left? <;> rfl

omit [StoreFailure ε] in
@[simp] theorem find?_settle (t : Store ε μ ν) (id other : String) (left? : Option (Session ε μ ν)) :
    (t.settle id left?).sessions.find? other
      = if other = id then left? else t.sessions.find? other := by
  cases left? with
  | none => exact Named.find?_erase t.sessions id other
  | some s => exact find?_put t id other s

omit [StoreFailure ε] in
/-- What is left of a session stands in its place. -/
theorem names_settle {t : Store ε μ ν} {id : String} {left? : Option (Session ε μ ν)}
    (h : left?.isSome → (t.sessions.find? id).isSome) :
    (t.settle id left?).sessions.names
      = if left?.isSome then t.sessions.names else t.sessions.names.filter (· != id) := by
  cases left? with
  | none => exact Named.names_erase t.sessions id
  | some s => exact (Named.names_insert ..).trans (if_pos (Named.mem_names_iff.mpr (h rfl)))

omit [StoreFailure ε] in
/-- The session of an id that is found there is left as it is. -/
theorem settle_find? (t : Store ε μ ν) (id : String) :
    t.settle id (t.sessions.find? id) = t := by
  cases hs : t.sessions.find? id with
  | none => simp only [settle, Named.erase_of_find?_eq_none hs]
  | some s => simp only [settle, put, Named.insert_of_find? hs]

omit [StoreFailure ε] in
theorem ext_find? {t u : Store ε μ ν} (hcreated : t.created = u.created)
    (hnames : t.sessions.names = u.sessions.names)
    (hfind : ∀ id, t.sessions.find? id = u.sessions.find? id) : t = u := by
  cases t
  cases u
  obtain rfl : _ = _ := hcreated
  simp only [mk.injEq, and_true]
  exact Named.ext_find? hnames hfind

omit [StoreFailure ε] in
/-- What is left of two sessions can be settled in either order. -/
theorem settle_comm {t : Store ε μ ν} {i j : String} (hij : i ≠ j)
    {left? right? : Option (Session ε μ ν)} (hi : left?.isSome → (t.sessions.find? i).isSome)
    (hj : right?.isSome → (t.sessions.find? j).isSome) :
    (t.settle i left?).settle j right? = (t.settle j right?).settle i left? := by
  -- what is settled first leaves the other session where it was
  have hj' : right?.isSome → ((t.settle i left?).sessions.find? j).isSome := by
    rwa [find?_settle, if_neg hij.symm]
  have hi' : left?.isSome → ((t.settle j right?).sessions.find? i).isSome := by
    rwa [find?_settle, if_neg hij]
  refine ext_find? (by simp) ?_ fun id => ?_
  -- what is deleted goes out of the list, and two deletions from a list commute
  · rw [names_settle hj', names_settle hi', names_settle hi, names_settle hj]
    cases left? <;> cases right? <;> simp [List.filter_filter, Bool.and_comm]
  · simp only [find?_settle]
    by_cases hid : id = i
    · subst hid
      simp [hij]
    · simp [hid]

/-- The stores differ in the session of an id at most: as many sessions have been created, and the
others are the same in the same order. -/
structure SameBut (id : String) (t u : Store ε μ ν) : Prop where
  created : u.created = t.created
  others : u.sessions.erase id = t.sessions.erase id

omit [StoreFailure ε] in

omit [StoreFailure ε] in
/-- Another session is the same in both stores. -/
theorem SameBut.find?_eq {id other : String} {t u : Store ε μ ν} (h : t.SameBut id u)
    (hother : other ≠ id) : u.sessions.find? other = t.sessions.find? other := by
  have hfind := congrArg (Named.find? · other) h.others
  simpa only [Named.find?_erase, if_neg hother] using hfind

omit [StoreFailure ε] in
theorem sameBut_settle (t : Store ε μ ν) (id : String) (left? : Option (Session ε μ ν)) :
    t.SameBut id (t.settle id left?) where
  created := created_settle t id left?
  others := by
    cases left? with
    | none => exact Named.erase_of_find?_eq_none ((find?_settle t id id none).trans (if_pos rfl))
    | some s => exact Named.erase_insert t.sessions id s

/-! ## Operations on a session -/

/-- An operation on a session acts on what is found under its id, and settles what is left. So two
operations on different sessions have nothing in common but the state of the engine. -/
theorem perform_on (e : Engine σ ε μ ν) (t : Store ε μ ν) (w : σ) (id : String) (a : Action) :
    t.perform e w (a.on id) = ((a.perform e id (t.sessions.find? id) w).1,
      t.settle id (a.perform e id (t.sessions.find? id) w).2.1,
      (a.perform e id (t.sessions.find? id) w).2.2) := by
  -- an id without a session is answered before anything is done
  cases hs : t.sessions.find? id with
  | none =>
      rw [perform_missing e w (a.target?_on id) hs]
      have hkept := t.settle_find? id
      rw [hs] at hkept
      rw [Action.perform, hkept]
  | some s =>
      have hget := get_of_find? hs
      have hkept := t.settle_find? id
      rw [hs] at hkept
      -- the session is there; every action starts by getting it
      cases a with
      | get => simp [Action.on, Store.perform, Action.perform, Session.act, hget, hkept, Except.map]
      | patch ps =>
          cases hps : s.patch ps with
          | error reason =>
              have hpatch : t.patch id ps = .error reason :=
                bind_eq_error.mpr (Or.inr ⟨s, hget, bind_eq_error.mpr (Or.inl hps)⟩)
              simp [Action.on, Store.perform, Action.perform, Session.act, hpatch, hps, hkept]
          | ok s' =>
              have hpatch : t.patch id ps = .ok (t.put id s') :=
                bind_eq_ok.mpr ⟨s, hget, bind_eq_ok.mpr ⟨s', hps, rfl⟩⟩
              have hget' : (t.put id s').get id = .ok s' := get_of_find? (by simp)
              simp [Action.on, Store.perform, Action.perform, Session.act, hpatch, hget', hps,
                settle, Except.map]
      | solve => simp [Action.on, Store.perform, Action.perform, Session.act, solve, hget, settle]
      | solution =>
          cases hv : s.solution? <;>
            simp [Action.on, Store.perform, Action.perform, Session.act, solution, hget, hv, hkept,
              bind, Except.bind, pure, Except.pure, throw, throwThe, MonadExceptOf.throw,
              Except.map]
      | delete =>
          simp [Action.on, Store.perform, Action.perform, Session.act, delete, hget, settle, bind,
            Except.bind, pure, Except.pure]

/-- An operation on a session leaves the rest of the store as it is. -/
theorem sameBut_perform (e : Engine σ ε μ ν) (t : Store ε μ ν) (w : σ) (id : String) (a : Action) :
    t.SameBut id (t.perform e w (a.on id)).2.1 := by
  rw [perform_on]
  exact t.sameBut_settle id _

/-- What is found under an id after an operation on another session is what was found before. -/
theorem find?_perform_of_ne (e : Engine σ ε μ ν) (t : Store ε μ ν) (w : σ) {id other : String}
    (hother : other ≠ id) (a : Action) :
    (t.perform e w (a.on id)).2.1.sessions.find? other = t.sessions.find? other :=
  (sameBut_perform e t w id a).find?_eq hother

/-! ## Two operations -/

/-- Sessions are independent. Two operations on different sessions, valid or failing, are answered
in the same way whichever comes first, and lead to the same store, with the same sessions in the
same order. Each of them leaves all of the store but its own session as it is. -/
theorem perform_comm (build : Specification → Except ε μ) (solve : μ → Except ε ν)
    (t : Store ε μ ν) {i j : String} (hij : i ≠ j) (a b : Action) :
    let e := Engine.ofFunctions build solve
    let ta := t.perform e () (a.on i)
    let tb := t.perform e () (b.on j)
    (ta.2.1.perform e () (b.on j)).1 = tb.1
      ∧ (tb.2.1.perform e () (a.on i)).1 = ta.1
      ∧ (ta.2.1.perform e () (b.on j)).2.1 = (tb.2.1.perform e () (a.on i)).2.1
      ∧ t.SameBut i ta.2.1 ∧ t.SameBut j tb.2.1 := by
  intro e ta tb
  -- each operation finds its session as it would find it without the other one
  have hj : ta.2.1.sessions.find? j = t.sessions.find? j :=
    find?_perform_of_ne e t () hij.symm a
  have hi : tb.2.1.sessions.find? i = t.sessions.find? i := find?_perform_of_ne e t () hij b
  refine ⟨?_, ?_, ?_, sameBut_perform e t () i a, sameBut_perform e t () j b⟩
  · rw [perform_on, hj, show tb = _ from perform_on e t () j b]
  · rw [perform_on, hi, show ta = _ from perform_on e t () i a]
  · rw [perform_on e ta.2.1, perform_on e tb.2.1, hi, hj]
    rw [show ta = _ from perform_on e t () i a, show tb = _ from perform_on e t () j b]
    exact settle_comm hij Action.isSome_of_perform Action.isSome_of_perform

/-- One session is solved and the other one is deleted: in either order the first is solved and is
the only one left. -/
theorem perform_comm_of_solve_and_delete :
    let build : Specification → Except Failure Nat := fun spec => .ok spec.options.size
    let solve : Nat → Except Failure Nat := fun n => .ok (n + 1)
    let e := Engine.ofFunctions build solve
    let blank : Specification := ⟨"work", .empty, .empty, .empty, .empty⟩
    let t := (Run.of e () [.create blank, .create blank]).store
    let solved := t.perform e () (Action.solve.on (idOf 1))
    let deleted := t.perform e () (Action.delete.on (idOf 2))
    idOf 1 ≠ idOf 2
      ∧ solved.1 = .ok (.solution 1) ∧ solved.2.1.sessions.names = [idOf 1, idOf 2]
      ∧ deleted.1 = .ok .deleted ∧ deleted.2.1.sessions.names = [idOf 1]
      ∧ (solved.2.1.perform e () (Action.delete.on (idOf 2))).1 = deleted.1
      ∧ (deleted.2.1.perform e () (Action.solve.on (idOf 1))).1 = solved.1
      ∧ (solved.2.1.perform e () (Action.delete.on (idOf 2))).2.1
        = (deleted.2.1.perform e () (Action.solve.on (idOf 1))).2.1
      ∧ t.SameBut (idOf 1) solved.2.1 ∧ t.SameBut (idOf 2) deleted.2.1 := by
  intro build solve e blank t solved deleted
  have hne : idOf 1 ≠ idOf 2 := by cbv
  have hsolved : solved.1 = .ok (.solution 1) ∧ solved.2.1.sessions.names = [idOf 1, idOf 2] := by
    subst solved t blank e
    constructor <;> cbv
  have hdeleted : deleted.1 = .ok .deleted ∧ deleted.2.1.sessions.names = [idOf 1] := by
    subst deleted t blank e
    constructor <;> cbv
  -- how the store came about does not matter any more, and is not to be computed again
  clear_value t
  exact ⟨hne, hsolved.1, hsolved.2, hdeleted.1, hdeleted.2,
    perform_comm build solve t hne .solve .delete⟩

end Store

end Rostering
