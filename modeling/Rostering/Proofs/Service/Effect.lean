import Rostering.Proofs.Patch.Order
import Rostering.Proofs.Service.Sending
import Rostering.Proofs.Service.Step

/-!
# What a request does to the table of sessions

A request and its answer tell what has become of the sessions. What a request gets to, and what it
creates, depends on the request alone; whether a session has been patched or solved, on its answer.

## The architecture

* **`Service.reached?`**, **`Service.created?`** — the resource behind the guards, and the
  specification of the session that is created.
* **`Service.answer_of_created`**, **`Service.answer_of_uncreated`**, **`Service.answer_of_missing`** —
  the answers to creations, and those under ids without a session.
* **`Service.Effect`** — what a request can do to the table, one constructor for each kind of change.
  `Service.answer_effect` says that there are no others, by one lemma for each resource.
-/

namespace Rostering

variable {σ μ ν : Type}

/-! ## What patching leaves of a session -/

theorem Change.template_allInto (cs : List Change) (s : Specification) :
    (allInto cs s).template = s.template := by
  induction cs generalizing s with
  | nil => rfl
  | cons c cs ih => exact (ih (c.into s)).trans (template_into c s)

/-- Patches do not change the template. -/
theorem Patch.template_of_applyAll {ps : List Patch} {s t : Specification}
    (h : applyAll ps s = .ok t) : t.template = s.template := by
  rw [applyAll_eq_judge, map_eq_ok] at h
  obtain ⟨cs, -, rfl⟩ := h
  exact Change.template_allInto cs s

theorem Session.patch_eq_ok {ps : List Patch} {s s' : Session Failure μ ν} (h : s.patch ps = .ok s') :
    s'.spec.template = s.spec.template ∧ s'.state = .updated := by
  unfold patch at h
  split at h
  · next spec hspec =>
      rw [pure_eq_ok] at h
      rw [← h]
      exact ⟨Patch.template_of_applyAll hspec, rfl⟩
  · exact absurd h throw_ne_ok

namespace Service

/-! ## What a request gets to -/

/-- The resource that a request gets to: it gets past the guards, and its method is one of those of
the resource. -/
def reached? (v : Service σ μ ν) (r : ServiceRequest) : Option Resource :=
  if v.access.failsOnKey r || v.access.blocks r || v.access.failsOnLength r || v.access.isTooLarge r
  then none
  else (Resource.ofPath? r.path).filter fun resource => resource.methods.contains r.method

/-- What a request creates a session of. -/
def created? (v : Service σ μ ν) (r : ServiceRequest) : Option Specification :=
  if v.reached? r = some .models ∧ r.method = "POST" ∧ r.isOverlong = false then
    match r.content? with
    | some (.map es) => (Config.decode es).toOption
    | _ => none
  else none

/-- The request deletes the session of the id, if there is one. -/
def Deletes (v : Service σ μ ν) (id : String) (r : ServiceRequest) : Prop :=
  v.reached? r = some (.model id) ∧ r.method = "DELETE"

variable {v : Service σ μ ν} {st st' : ServiceState σ μ ν} {r : ServiceRequest}
  {response : Response} {resource : Resource} {spec : Specification} {id : String}

/-- Behind the guards a request is carried out by its resource. -/
theorem carryOutGuarded_of_reached (h : v.reached? r = some resource) :
    v.carryOutGuarded st r = v.carryOut st r resource := by
  unfold reached? at h
  split at h
  · cases h
  · next hguards =>
      simp only [Bool.or_eq_true, not_or, Bool.not_eq_true] at hguards
      obtain ⟨hpath, hmethod⟩ := Option.filter_eq_some_iff.mp h
      obtain ⟨⟨⟨hkey, hblocks⟩, hlength⟩, hlarge⟩ := hguards
      unfold carryOutGuarded
      simp only [hkey, hblocks, hlength, hlarge, hpath, hmethod, Bool.false_eq_true, if_false,
        if_true]

/-- A request that gets to no resource changes nothing, whichever guard it is stopped by. -/
theorem carryOutGuarded_of_unreached (h : v.reached? r = none) :
    (v.carryOutGuarded st r).2 = st := by
  unfold reached? at h
  unfold carryOutGuarded
  split_ifs with hkey hblocks hlength hlarge
  · rfl
  · rfl
  · rfl
  · rfl
  · rw [if_neg (by simp [hkey, hblocks, hlength, hlarge]), Option.filter_eq_none_iff] at h
    cases hpath : Resource.ofPath? r.path with
    | none => rfl
    | some resource =>
        simp only [h resource hpath]
        rfl

/-- Without a key and a limit the guards let every request pass. -/
theorem reached?_of_free (hv : v.access = ⟨"", 0⟩) (hpath : Resource.ofPath? r.path = some resource)
    (hmethod : resource.methods.contains r.method) : v.reached? r = some resource := by
  have hasks : v.access.asksForKey r = false := by simp [Access.asksForKey, hv]
  have hblocks : v.access.blocks r = false := by simp [Access.blocks, hasks]
  have hkey : v.access.failsOnKey r = false := by simp [Access.failsOnKey, hasks]
  have hlength : v.access.failsOnLength r = false := by simp [Access.failsOnLength, hv]
  have hlarge : v.access.isTooLarge r = false := by simp [Access.isTooLarge, hv]
  unfold reached?
  rw [if_neg (by simp [hkey, hblocks, hlength, hlarge]), hpath]
  exact Option.filter_some_pos hmethod

theorem method_mem_of_reached (h : v.reached? r = some resource) : r.method ∈ resource.methods := by
  unfold reached? at h
  split at h
  · cases h
  · exact List.contains_iff_mem.mp (Option.filter_eq_some_iff.mp h).2

/-- A session is created by a request that gets to the models, posts, and has a body of allowed
length with a configuration that is accepted. -/
theorem created?_eq_some : v.created? r = some spec ↔
    v.reached? r = some .models ∧ r.method = "POST" ∧ r.isOverlong = false
      ∧ ∃ es, r.content? = some (.map es) ∧ Config.decode es = .ok spec := by
  unfold created?
  constructor
  · intro h
    split at h
    · next hr =>
        obtain ⟨hreached, hpost, hlong⟩ := hr
        split at h
        · next es hcontent => exact ⟨hreached, hpost, hlong, es, hcontent, eq_ok_of_toOption h⟩
        · cases h
    · cases h
  · rintro ⟨hreached, hpost, hlong, es, hcontent, hdecode⟩
    rw [if_pos ⟨hreached, hpost, hlong⟩, hcontent]
    simp only [hdecode]
    rfl

theorem created?_eq_none (h : v.reached? r ≠ some .models) : v.created? r = none := by
  cases hcreated : v.created? r with
  | none => rfl
  | some spec => exact absurd (created?_eq_some.mp hcreated).1 h

/-! ## Answers -/

/-- Answers with a body are those to other methods than HEAD. -/
theorem answer_of_reached (h : v.reached? r = some resource) (hhead : r.method ≠ "HEAD") :
    v.answer st r = v.carryOut st r resource := by
  unfold answer
  rw [carryOutGuarded_of_reached h]
  rcases v.carryOut st r resource with ⟨response, st'⟩
  simp only [Response.forMethod_eq hhead]

theorem answer_snd_of_reached (h : v.reached? r = some resource) :
    (v.answer st r).2 = (v.carryOut st r resource).2 := by
  rw [← carryOutGuarded_of_reached h]
  rfl

/-- The answer to a request that has created the session with a number. -/
def creationAnswer (number : Nat) (template : String) : Response :=
  .of 201 (.ofFields [("model_id", .str (Store.idOf number)), ("template", .str template),
    ("status", .str "created")])

theorem answer_of_created (h : v.created? r = some spec) :
    v.answer st r = (creationAnswer (st.store.created + 1) spec.template,
      { st with store := (st.store.create spec).2 }) := by
  obtain ⟨hreached, hpost, hlong, es, hcontent, hdecode⟩ := created?_eq_some.mp h
  rw [answer_of_reached hreached (by simp [hpost]), carryOut, if_pos (by simp [hpost]), withBody,
    if_neg (by simp [hlong]), hcontent, create, hdecode]
  rfl

/-- A creation that is refused changes nothing. -/
theorem answer_of_uncreated (hreached : v.reached? r = some .models) (hpost : r.method = "POST")
    (h : v.created? r = none) :
    400 ≤ (v.answer st r).1.status ∧ (v.answer st r).2 = st := by
  rw [answer_of_reached hreached (by simp [hpost]), carryOut, if_pos (by simp [hpost])]
  unfold withBody
  split
  · exact ⟨Response.le_status_written (by decide) _, rfl⟩
  · next hlong =>
      unfold create
      split
      · next es hcontent =>
          cases hdecode : Config.decode es with
          | error e => exact ⟨e.le_status, rfl⟩
          | ok spec =>
              have hcreated : v.created? r = some spec :=
                created?_eq_some.mpr ⟨hreached, hpost, by simpa using hlong, es, hcontent, hdecode⟩
              rw [h] at hcreated
              cases hcreated
      · exact ⟨Response.le_status_written (by decide) _, rfl⟩

/-- The requests that a session of the id is needed for, with bodies of the right form. -/
inductive AsksFor (v : Service σ μ ν) (id : String) (r : ServiceRequest) : Prop where
  | model (h : v.reached? r = some (.model id))
  | config (h : v.reached? r = some (.config id)) (hlong : r.isOverlong = false)
      (hbody : (r.content?.bind PatchRequest.ofValue?).isSome)
  | solving (h : v.reached? r = some (.solving id))
  | solution (h : v.reached? r = some (.solution id))
  | presentation (h : v.reached? r = some (.presentation id)) (hlong : r.isOverlong = false)
      (hbody : (query? r.body r.content?).isSome)

/-- A request under an id without a session is answered by the failure that says so, and nothing is
changed. The body is looked at first, so it has to be one that can be read. -/
theorem answer_of_missing (h : v.AsksFor id r) (hs : st.store.sessions.find? id = none) :
    v.answer st r = (.ofFailure (.noSession id), st) := by
  have hget := Store.get_of_find?_eq_none hs
  have hmethod : ∀ {resource : Resource}, v.reached? r = some resource →
      "HEAD" ∉ resource.methods → r.method ≠ "HEAD" :=
    fun hr hhead heq => hhead (heq ▸ method_mem_of_reached hr)
  -- one case for each resource under an id; each looks for the session before it does anything
  cases h with
  | model h =>
      rw [answer_of_reached h (hmethod h (by simp [Resource.methods])), carryOut]
      split
      · simp only [Store.delete, hget]
        rfl
      · rw [hget]
        rfl
  | config h hlong hbody =>
      obtain ⟨ps, hps⟩ := Option.isSome_iff_exists.mp hbody
      rw [answer_of_reached h (hmethod h (by simp [Resource.methods])), carryOut, withBody,
        if_neg (by simp [hlong]), patch, hps]
      simp only [Store.patch, hget]
      rfl
  | solving h =>
      rw [answer_of_reached h (hmethod h (by simp [Resource.methods])), carryOut, solve]
      simp only [Store.solve, hget]
      rfl
  | solution h =>
      rw [answer_of_reached h (hmethod h (by simp [Resource.methods])), carryOut]
      simp only [Store.solution, hget]
      rfl
  | presentation h hlong hbody =>
      obtain ⟨query, hquery⟩ := Option.isSome_iff_exists.mp hbody
      rw [answer_of_reached h (hmethod h (by simp [Resource.methods])), carryOut, withBody,
        if_neg (by simp [hlong]), present, hquery]
      simp only [hget]
      rfl

/-! ## What a request does to the table -/

/-- What a request can do to the table, with its answer. -/
inductive Effect (v : Service σ μ ν) (st : ServiceState σ μ ν) (r : ServiceRequest) :
    Response → ServiceState σ μ ν → Prop where
  | created {spec : Specification} (h : v.created? r = some spec) :
      Effect v st r (creationAnswer (st.store.created + 1) spec.template)
        { st with store := (st.store.create spec).2 }
  | deleted {id : String} {s : Session Failure μ ν} {response : Response} (h : v.Deletes id r)
      (hs : st.store.sessions.find? id = some s) :
      Effect v st r response
        { st with store := { st.store with sessions := st.store.sessions.erase id } }
  | patched {id : String} {s s' : Session Failure μ ν} {body : Value}
      (h : v.reached? r = some (.config id)) (hs : st.store.sessions.find? id = some s)
      (htemplate : s'.spec.template = s.spec.template) (hstatus : s'.state = .updated)
      (hbody : (Value.str id).isEncodable → body.isEncodable) :
      Effect v st r (.of 200 body) { st with store := st.store.put id s' }
  | solved {id : String} {s s' : Session Failure μ ν} {response : Response} {w : σ}
      (h : v.reached? r = some (.solving id)) (hs : st.store.sessions.find? id = some s)
      (hspec : s'.spec = s.spec)
      (hstatus : s'.state = .solved ∧ (response.status = 200 ∨ response = .crashed .unsendable)
        ∨ s'.state = .error ∧ response.status ≠ 200) :
      Effect v st r response ⟨st.store.put id s', w⟩
  | kept {response : Response} (hcreated : v.created? r = none)
      (hdelete : ∀ id, v.Deletes id r → st.store.sessions.find? id = none)
      (hpatch : ∀ id, v.reached? r = some (.config id) → response.status ≠ 200)
      (hsolve : ∀ id, v.reached? r = some (.solving id) → st.store.sessions.find? id = none) :
      Effect v st r response st

/-- Requests that get to no session in a way that changes it, and create none, leave the table as it
is. -/
theorem effect_of_kept (hcreated : v.created? r = none) (hstate : (v.answer st r).2 = st)
    (hconfig : ∀ id, v.reached? r ≠ some (.config id))
    (hdelete : ∀ id, v.Deletes id r → st.store.sessions.find? id = none)
    (hsolve : ∀ id, v.reached? r ≠ some (.solving id)) :
    Effect v st r (v.answer st r).1 (v.answer st r).2 := by
  rw [hstate]
  exact .kept hcreated hdelete (fun id hid => absurd hid (hconfig id))
    fun id hid => absurd hid (hsolve id)

/-- Asking for a session reads it or deletes it. -/
theorem model_effect (h : v.reached? r = some (.model id)) :
    Effect v st r (v.answer st r).1 (v.answer st r).2 := by
  have hcreated : v.created? r = none := created?_eq_none (by simp [h])
  have hread : r.method ≠ "DELETE" → (v.answer st r).2 = st := by
    intro hmethod
    rw [answer_snd_of_reached h, carryOut, if_neg (by simpa using hmethod)]
    rfl
  -- the other methods only read
  by_cases hdelete : r.method = "DELETE"
  · cases hs : st.store.sessions.find? id with
    | none =>
        rw [answer_of_missing (.model h) hs]
        refine .kept hcreated ?_ (by simp [h]) (by simp [h])
        rintro other ⟨hother, -⟩
        cases h.symm.trans hother
        exact hs
    | some s =>
        have hdeleted : st.store.delete id
            = .ok { st.store with sessions := st.store.sessions.erase id } := by
          rw [Store.delete, Store.get_of_find? hs]
          rfl
        rw [answer_of_reached h (by simp [hdelete]), carryOut, if_pos (by simp [hdelete]), hdeleted]
        exact .deleted ⟨h, hdelete⟩ hs
  · exact effect_of_kept hcreated (hread hdelete) (by simp [h]) (by simp [Deletes, hdelete])
      (by simp [h])

/-- Asking for the configuration of a session patches it, or leaves it as it is. -/
theorem config_effect (h : v.reached? r = some (.config id)) :
    Effect v st r (v.answer st r).1 (v.answer st r).2 := by
  have hcreated : v.created? r = none := created?_eq_none (by simp [h])
  have hpatch : r.method = "PATCH" := by
    simpa [Resource.methods] using method_mem_of_reached h
  have hkept : ∀ response : Response, 400 ≤ response.status → Effect v st r response st := by
    intro response hrefused
    exact .kept hcreated (by simp [Deletes, h]) (fun _ _ => by omega) (by simp [h])
  rw [answer_of_reached h (by simp [hpatch]), carryOut, withBody]
  split
  · exact hkept _ (Response.le_status_written (by decide) _)
  · rw [patch]
    split
    · exact hkept _ (Response.le_status_written (by decide) _)
    · next ps hps =>
        unfold changed
        cases hstore : st.store.patch id (ps.map RequestedPatch.toPatch) with
        | error e => exact hkept _ e.le_status
        | ok store =>
            obtain ⟨s, s', hs, hs', rfl⟩ := Store.patch_eq_ok hstore
            obtain ⟨htemplate, hstatus⟩ := Session.patch_eq_ok hs'
            refine .patched h hs htemplate hstatus fun hid => ?_
            -- the answer has nothing but these words, the id and a number, so it can be written if
            -- the id can
            have hwords : ∀ word ∈ ["model_id", "status", "applied", "updated"],
                (Value.str word).isEncodable = true := by decide +kernel
            have hcount : ∀ n, (Value.int n).isEncodable = true := fun _ => rfl
            simp [Value.isEncodable_ofFields, hid, hwords, hcount]

/-- Solving a session leaves it solved or failed, with the specification that it had. -/
theorem solve_effect {s : Session Failure μ ν} (h : v.reached? r = some (.solving id))
    (hs : st.store.sessions.find? id = some s) :
    Effect v st r (v.solve st id).1 (v.solve st id).2 := by
  have hsolved : v.solve st id = (.ofResult (s.solve v.engine st.engineState).1 v.report,
      ⟨st.store.put id (s.solve v.engine st.engineState).2.1,
        (s.solve v.engine st.engineState).2.2⟩) := by
    simp only [solve, Store.solve, Store.get_of_find? hs]
  have hsolving := s.solve_solving v.engine st.engineState
  rw [hsolved]
  generalize s.solve v.engine st.engineState = run at hsolving ⊢
  obtain ⟨result, s', w'⟩ := run
  have hspec : s'.spec = s.spec := by cases hsolving <;> rfl
  cases result with
  | error e =>
      have hstate : s'.state = .error := by cases hsolving <;> rfl
      have hrefused := e.le_status
      exact .solved h hs hspec
        (Or.inr ⟨hstate, show (Response.ofFailure e).status ≠ 200 by omega⟩)
  | ok solution =>
      -- a result that cannot be written makes the service crash over its answer, after the session
      -- has been solved
      have hstate : s'.state = .solved := by cases hsolving <;> rfl
      refine .solved h hs hspec (Or.inl ⟨hstate, ?_⟩)
      show (Response.of 200 _).status = 200 ∨ Response.of 200 _ = _
      unfold Response.of Response.written
      split
      · exact Or.inl rfl
      · exact Or.inr rfl

/-- Asking for a session to be solved solves it, if there is one. -/
theorem solving_effect (h : v.reached? r = some (.solving id)) :
    Effect v st r (v.answer st r).1 (v.answer st r).2 := by
  have hpost : r.method = "POST" := by
    simpa [Resource.methods] using method_mem_of_reached h
  cases hs : st.store.sessions.find? id with
  | none =>
      rw [answer_of_missing (.solving h) hs]
      refine .kept (created?_eq_none (by simp [h])) (by simp [Deletes, h]) (by simp [h]) ?_
      intro other hother
      cases h.symm.trans hother
      exact hs
  | some s =>
      rw [answer_of_reached h (by simp [hpost]), carryOut]
      exact solve_effect h hs

/-- What answering a request does to the table is one of the effects. One case for each resource.
Whoever wants to know what a run of requests does looks at these effects and not at the resources.
-/
theorem answer_effect (v : Service σ μ ν) (st : ServiceState σ μ ν) (r : ServiceRequest) :
    Effect v st r (v.answer st r).1 (v.answer st r).2 := by
  cases hreached : v.reached? r with
  | none =>
      exact effect_of_kept (created?_eq_none (by simp [hreached]))
        (carryOutGuarded_of_unreached hreached) (by simp [hreached]) (by simp [Deletes, hreached])
        (by simp [hreached])
  | some resource =>
      cases resource with
      -- these only read
      | health | description | solution =>
          exact effect_of_kept (created?_eq_none (by simp [hreached]))
            (answer_snd_of_reached hreached) (by simp [hreached]) (by simp [Deletes, hreached])
            (by simp [hreached])
      | presentation id =>
          have hkept : (v.carryOut st r (.presentation id)).2 = st := by
            rw [carryOut, withBody]
            split <;> rfl
          exact effect_of_kept (created?_eq_none (by simp [hreached]))
            ((answer_snd_of_reached hreached).trans hkept) (by simp [hreached])
            (by simp [Deletes, hreached]) (by simp [hreached])
      | models =>
          cases hcreated : v.created? r with
          | some spec =>
              rw [answer_of_created hcreated]
              exact .created hcreated
          | none =>
              -- a request for the models creates a session, is refused, or lists them
              have hkept : (v.answer st r).2 = st := by
                by_cases hpost : r.method = "POST"
                · exact (answer_of_uncreated hreached hpost hcreated).2
                · rw [answer_snd_of_reached hreached, carryOut, if_neg (by simpa using hpost)]
                  rfl
              exact effect_of_kept hcreated hkept (by simp [hreached]) (by simp [Deletes, hreached])
                (by simp [hreached])
      | model id => exact model_effect hreached
      | config id => exact config_effect hreached
      | solving id => exact solving_effect hreached

end Service

end Rostering
