import Rostering.Proofs.Except
import Rostering.Proofs.Session.Run
import Rostering.Service.Standard

/-!
# What a request can do to the service

Most requests leave the service as it is, those that it refuses among them. What the others do is
told by `Service.Step`, one constructor for each kind of request that can change anything.

## The architecture

* **`Service.Step`** — the ways in which a request can go, with its answer and the state after it.
* **`Service.carryOut_step`**, **`Service.carryOutGuarded_step`** — there are no others.
* **`Service.serve`** — requests one after the other.
-/

namespace Rostering

variable {σ μ ν : Type}

namespace Store

theorem patch_eq_ok {t t' : Store Failure μ ν} {id : String} {ps : List Patch}
    (h : t.patch id ps = .ok t') : ∃ s s', t.sessions.find? id = some s ∧ s.patch ps = .ok s'
      ∧ t' = t.put id s' := by
  obtain ⟨s, hs, hrest⟩ := bind_eq_ok.mp h
  obtain ⟨s', hs', hput⟩ := bind_eq_ok.mp hrest
  exact ⟨s, s', get_eq_ok_iff.mp hs, hs', (Except.ok.inj hput).symm⟩

theorem delete_eq_ok {t t' : Store Failure μ ν} {id : String} (h : t.delete id = .ok t') :
    ∃ s, t.sessions.find? id = some s ∧ t' = { t with sessions := t.sessions.erase id } := by
  obtain ⟨s, hs, herase⟩ := bind_eq_ok.mp h
  exact ⟨s, get_eq_ok_iff.mp hs, (Except.ok.inj herase).symm⟩

end Store

namespace Service

/-- The ways in which a request can go. -/
inductive Step (v : Service σ μ ν) (st : ServiceState σ μ ν) (r : ServiceRequest) :
    Response → ServiceState σ μ ν → Prop where
  | kept (response : Response) : Step v st r response st
  | created {es spec} (hmethod : r.method = "POST") (hpath : Resource.ofPath? r.path = some .models)
      (hcontent : r.content? = some (.map es)) (hdecode : Config.decode es = .ok spec) :
      Step v st r
        (.of 201 (.ofFields [("model_id", .str (st.store.create spec).1),
          ("template", .str spec.template), ("status", .str "created")]))
        { st with store := (st.store.create spec).2 }
  | patched {id s s'} {ps : List RequestedPatch} (hmethod : r.method = "PATCH")
      (hpath : Resource.ofPath? r.path = some (.config id))
      (hs : st.store.sessions.find? id = some s)
      (hps : s.patch (ps.map RequestedPatch.toPatch) = .ok s') :
      Step v st r
        (.of 200 (.ofFields [("model_id", .str id), ("status", .str "updated"),
          ("applied", .int (Int.ofNat ps.length))]))
        { st with store := st.store.put id s' }
  | deleted {id s} (hmethod : r.method = "DELETE")
      (hpath : Resource.ofPath? r.path = some (.model id))
      (hs : st.store.sessions.find? id = some s) :
      Step v st r
        (.of 200 (.ofFields [("message", .str "Model deleted"), ("model_id", .str id)]))
        { st with store := { st.store with sessions := st.store.sessions.erase id } }
  | solved {id s} (hmethod : r.method = "POST")
      (hpath : Resource.ofPath? r.path = some (.solving id))
      (hs : st.store.sessions.find? id = some s) :
      Step v st r (.ofResult (s.solve v.engine st.engineState).1 v.report)
        ⟨st.store.put id (s.solve v.engine st.engineState).2.1,
          (s.solve v.engine st.engineState).2.2⟩

variable {v : Service σ μ ν} {st : ServiceState σ μ ν} {r : ServiceRequest}

theorem withBody_step {f : Option Value → Response × ServiceState σ μ ν}
    (h : Step v st r (f r.content?).1 (f r.content?).2) :
    Step v st r (withBody st r f).1 (withBody st r f).2 := by
  unfold withBody
  split
  · exact .kept _
  · exact h

/-- What is carried out is one of the steps: resources that only read keep the service, and the
others do so when they refuse. -/
theorem carryOut_step {resource : Resource} (hpath : Resource.ofPath? r.path = some resource)
    (hmethod : resource.methods.contains r.method) :
    Step v st r (v.carryOut st r resource).1 (v.carryOut st r resource).2 := by
  cases resource with
  -- these only read
  | health | description | solution => exact .kept _
  | presentation id => exact withBody_step (.kept _)
  | models =>
      rw [carryOut]
      split
      · next hpost =>
          refine withBody_step ?_
          unfold create
          split
          · next es hcontent =>
              cases hdecode : Config.decode es with
              | error e => exact .kept _
              | ok spec => exact .created (eq_of_beq hpost) hpath hcontent hdecode
          · exact .kept _
      · exact .kept _
  | model id =>
      rw [carryOut]
      split
      · next hdelete =>
          unfold changed
          split
          · next store hstore =>
              obtain ⟨s, hs, rfl⟩ := Store.delete_eq_ok hstore
              exact .deleted (eq_of_beq hdelete) hpath hs
          · exact .kept _
      · exact .kept _
  | config id =>
      have hpatch : r.method = "PATCH" := by simpa [Resource.methods] using hmethod
      refine withBody_step ?_
      unfold patch
      split
      · exact .kept _
      · next ps hps =>
          unfold changed
          split
          · next store hstore =>
              obtain ⟨s, s', hs, hs', rfl⟩ := Store.patch_eq_ok hstore
              exact .patched hpatch hpath hs hs'
          · exact .kept _
  | solving id =>
      have hpost : r.method = "POST" := by simpa [Resource.methods] using hmethod
      -- an id without a session is told so, and a session that is there is solved
      cases hs : st.store.sessions.find? id with
      | none =>
          have hkept : v.solve st id = (.ofFailure (.noSession id), st) := by
            simp only [solve, Store.solve, Store.get_of_find?_eq_none hs]
            rfl
          rw [carryOut, hkept]
          exact .kept _
      | some s =>
          have hsolved : v.solve st id = (.ofResult (s.solve v.engine st.engineState).1 v.report,
              ⟨st.store.put id (s.solve v.engine st.engineState).2.1,
                (s.solve v.engine st.engineState).2.2⟩) := by
            simp only [solve, Store.solve, Store.get_of_find? hs]
          rw [carryOut, hsolved]
          exact .solved hpost hpath hs

/-- What gets past the guards is carried out, and the guards change nothing. -/
theorem carryOutGuarded_step (v : Service σ μ ν) (st : ServiceState σ μ ν) (r : ServiceRequest) :
    Step v st r (v.carryOutGuarded st r).1 (v.carryOutGuarded st r).2 := by
  unfold carryOutGuarded
  split_ifs
  · exact .kept _
  · exact .kept _
  · exact .kept _
  · exact .kept _
  · cases hpath : Resource.ofPath? r.path with
    | none => exact .kept _
    | some resource =>
        simp only
        split_ifs with hmethod
        · exact carryOut_step hpath hmethod
        · exact .kept _

/-! ## Requests one after the other -/

/-- Answers requests one after the other. -/
def serve (v : Service σ μ ν) (st : ServiceState σ μ ν) :
    List ServiceRequest → List (ServiceRequest × Response) × ServiceState σ μ ν
  | [] => ([], st)
  | r :: rest =>
    let (response, st) := v.answer st r
    let (answered, st) := v.serve st rest
    ((r, response) :: answered, st)

/-- What holds at first and is kept by each request holds after any requests. -/
theorem serve_induction (v : Service σ μ ν) {P : ServiceState σ μ ν → Prop}
    (hstep : ∀ st r, P st → P (v.answer st r).2) (rs : List ServiceRequest)
    {st : ServiceState σ μ ν} (hst : P st) : P (v.serve st rs).2 := by
  induction rs generalizing st with
  | nil => exact hst
  | cons r rest ih => exact ih (hstep st r hst)

end Service

end Rostering
