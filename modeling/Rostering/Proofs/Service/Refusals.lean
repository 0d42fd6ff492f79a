import Rostering.Proofs.Config.RoundTrip
import Rostering.Proofs.Failures
import Rostering.Proofs.Service.Effect
import Rostering.Proofs.Session.Independence

/-!
# Requests that fail change nothing

After any requests, a request that is answered with a status of 400 or more leaves the service as it
was (`Service.kept_of_refused`), with two exceptions. One is meant: when a session cannot be solved,
that is kept as its last failure. The other is not: an answer is written when everything else has been
done, and if a text in it has no bytes the service fails over it, although the session has been created
or solved (`Service.changed_of_crashed`).

## The architecture

* **`Session.Solving.isInternal`** — solving fails with an error of building or a fault.
* **`Service.numbered_serve`** — ids are those that the store has given, so they can be written.
* **`Service.FailedSolving`**, **`Service.Unsent`** — the two exceptions.
* **`Service.Step.refused`** — one request, from any state with such ids.
-/

namespace Rostering

/-! ## How solving fails -/

/-- The failure is an error of building or a fault: none that a request is to blame for. -/
def Failure.IsInternal (e : Failure) : Prop := e.IsBuild ∨ ∃ f, e = .fault f

theorem Response.status_ofFailure {e : Failure} (h : e.IsInternal) : (ofFailure e).status = 500 := by
  rcases h with hbuild | ⟨f, rfl⟩
  · cases e with
    | build kind text name cause => exact status_written _ _
    | _ => exact hbuild.elim
  · exact status_written _ _

theorem Build.run_fails_internal {σ : Type} (l : Loader σ) (w : World σ) (s : Specification) :
    FailsWith Failure.IsInternal (run builtins l w s).1 := by
  refine FailsWith.bind (FailsWith.mapError ((l.materializeAll_fails w s).mono ?_)) fun t _ => ?_
  · rintro e (he | ⟨-, -, -, f, -, rfl, -⟩)
    · exact Or.inl (isBuild_loadFailure he)
    · exact Or.inr ⟨f, rfl⟩
  · refine (assemble_fails t).mono ?_
    rintro e (he | ⟨f, rfl, -⟩)
    · exact Or.inl he
    · exact Or.inr ⟨f, rfl⟩

/-- What a failed solving leaves of a session. -/
structure Session.FailedFrom {μ ν : Type} (s s' : Session Failure μ ν) (e : Failure) : Prop where
  spec : s'.spec = s.spec
  status : s'.status = "error"
  model : s'.model? = none
  solution : s'.solution? = none
  error : s'.error? = some e

theorem Session.Solving.failedFrom {σ μ ν : Type} {engine : Engine σ Failure μ ν} {s s' : Session Failure μ ν}
    {w w' : σ} {e : Failure} (h : s.Solving engine w (.error e) s' w') : s.FailedFrom s' e := by
  cases h <;> exact ⟨rfl, rfl, rfl, rfl, rfl⟩

/-- Solving with what is there from the start fails with an error of building or a fault. -/
theorem Session.Solving.isInternal {σ : Type} {access : Access}
    {s s' : Session Failure (Built Model) Solution} {w w' : Loader σ × World σ} {e : Failure}
    (h : s.Solving (Service.standard access).engine w (.error e) s' w') : e.IsInternal := by
  have hsolve : ∀ (m : Built Model), FailsWith Failure.IsInternal
      ((Model.solve m.handle).mapError Failure.fault) := fun m =>
    FailsWith.mapError fun f _ => Or.inr ⟨f, rfl⟩
  cases h with
  | unbuilt _ hbuild =>
      exact Build.run_fails_internal w.1 w.2 s.spec e (congrArg Prod.fst hbuild)
  | builtFailed _ _ hfail => exact hsolve _ e (congrArg Prod.fst hfail)
  | keptFailed _ hfail => exact hsolve _ e (congrArg Prod.fst hfail)

/-! ## A template alone -/

/-- Only one template is there from the start. -/
theorem Build.assemble_unknown {s : Specification} (h : s.template ≠ "work_scheduling") :
    ∃ e, assemble builtins s = .error e := by
  cases hassemble : assemble builtins s with
  | error e => exact ⟨e, rfl⟩
  | ok b =>
      obtain ⟨template, htemplate, -⟩ := bind_eq_ok.mp hassemble
      -- whoever gets past the first look-up has named that template
      have hmem := lookup_eq_ok (mapError_eq_ok.mp htemplate)
      rw [show builtins.templates.entries = [("work_scheduling", workScheduling)] from rfl] at hmem
      exact absurd (congrArg Prod.fst (List.mem_singleton.mp hmem)) h

/-- A specification of a template alone. -/
def Specification.bare (t : String) : Specification := ⟨t, .empty, .empty, .empty, .empty⟩

theorem Config.decode_template {t : String} (ht : (Text.stripped t).isEmpty = false) :
    decode [(.str "template", .str t)] = .ok (.bare t) := by
  have hformed : (Specification.bare t).WellFormed := {
    template := ht
    indexes := fun e he => absurd he List.not_mem_nil
    parameters := fun e he => absurd he List.not_mem_nil
    overrides := fun e he => absurd he List.not_mem_nil }
  have hfields : Entries.ofFields (writtenFields (.bare t)) = [(.str "template", .str t)] := rfl
  have hdata : (Specification.bare t).withoutData = .bare t := rfl
  have hdecode := decode_writtenFields hformed
  rwa [hfields, hdata] at hdecode

theorem Build.run_bare {σ : Type} {t : String} (h : t ≠ "work_scheduling") (l : Loader σ) (w : World σ) :
    ∃ e, (run builtins l w (.bare t)).1 = .error e := by
  exact assemble_unknown (s := .bare t) h

/-! ## Ids -/

/-- Every session has an id that the store has given. -/
def Store.Numbered {μ ν : Type} (t : Store Failure μ ν) : Prop :=
  ∀ id, (t.sessions.find? id).isSome → ∃ n, id = idOf n

theorem Store.Numbered.put {μ ν : Type} {t : Store Failure μ ν} (h : t.Numbered) {id : String}
    {s : Session Failure μ ν} (hs : t.sessions.find? id = some s) (s' : Session Failure μ ν) :
    (t.put id s').Numbered := by
  intro other hother
  rw [find?_put] at hother
  split at hother
  · next heq => exact h other (by simp [heq, hs])
  · exact h other hother

namespace Service

variable {σ μ ν : Type} {v : Service σ μ ν} {st st' : ServiceState σ μ ν} {r : ServiceRequest}
  {response : Response}

/-- Ids are those that the store has given, after any request. -/
theorem Step.numbered (h : Step v st r response st') (hst : st.store.Numbered) :
    st'.store.Numbered := by
  cases h with
  | kept => exact hst
  | created =>
      intro id hid
      rw [Store.find?_create] at hid
      split at hid
      · next heq => exact ⟨_, heq⟩
      · exact hst id hid
  | patched _ _ hs => exact hst.put hs _
  | deleted =>
      intro other hother
      rw [Named.find?_erase] at hother
      split at hother
      · cases hother
      · exact hst other hother
  | solved _ _ hs => exact hst.put hs _

theorem numbered_serve (v : Service σ μ ν) (w : σ) (rs : List ServiceRequest) :
    (v.serve ⟨.empty, w⟩ rs).2.store.Numbered :=
  v.serve_induction (P := fun st => st.store.Numbered)
    (fun st r hst => (v.carryOutGuarded_step st r).numbered hst) rs
    fun id hid => by simp [Store.empty] at hid

/-! ## Requests that fail -/

/-- A session could not be solved: it keeps that as its last failure, which names what went wrong and
is answered if the service has a status for it, and everything else is as it was. -/
structure FailedSolving (v : Service σ μ ν) (st : ServiceState σ μ ν) (r : ServiceRequest)
    (response : Response) (st' : ServiceState σ μ ν) (id : String) (s s' : Session Failure μ ν)
    (e : Failure) : Prop where
  method : r.method = "POST"
  path : Resource.ofPath? r.path = some (.solving id)
  found : st.store.sessions.find? id = some s
  failed : (s.solve v.engine st.engineState).1 = .error e
  status : response.status = 500
  others : st.store.SameBut id st'.store
  names : st'.store.sessions.names = st.store.sessions.names
  left : st'.store.sessions.find? id = some s'
  session : s.FailedFrom s' e
  recorded : ∃ more,
    e.report = .ofFields ([("error", .str e.name), ("message", .str e.message)] ++ more)
  answered : e.status?.isSome → e.report.isEncodable →
    response.body = some (.ofFields [("detail", e.report)])

/-- A session has been created or solved, and a text in the answer has no bytes. -/
inductive Unsent (v : Service σ μ ν) (st : ServiceState σ μ ν) (r : ServiceRequest) :
    ServiceState σ μ ν → Prop where
  | created {es spec} (hmethod : r.method = "POST") (hpath : Resource.ofPath? r.path = some .models)
      (hcontent : r.content? = some (.map es)) (hdecode : Config.decode es = .ok spec)
      (htemplate : (Value.str spec.template).isEncodable = false) :
      Unsent v st r { st with store := (st.store.create spec).2 }
  | solved {id s solution} (hmethod : r.method = "POST")
      (hpath : Resource.ofPath? r.path = some (.solving id))
      (hs : st.store.sessions.find? id = some s)
      (hsolution : (s.solve v.engine st.engineState).1 = .ok solution)
      (hreport : (v.report solution).isEncodable = false) :
      Unsent v st r ⟨st.store.put id (s.solve v.engine st.engineState).2.1,
        (s.solve v.engine st.engineState).2.2⟩

theorem Unsent.method (h : Unsent v st r st') : r.method = "POST" := by
  cases h <;> assumption

/-- A session that cannot be solved is the exception that is meant: it is put back in its place with
the failure, and the others are as they were. -/
theorem Step.failedSolving {id : String} {s : Session Failure μ ν} {e : Failure}
    (hmethod : r.method = "POST") (hpath : Resource.ofPath? r.path = some (.solving id))
    (hs : st.store.sessions.find? id = some s)
    (hfailed : (s.solve v.engine st.engineState).1 = .error e) (he : e.IsInternal) :
    FailedSolving v st r (.ofFailure e)
      ⟨st.store.put id (s.solve v.engine st.engineState).2.1,
        (s.solve v.engine st.engineState).2.2⟩ id s (s.solve v.engine st.engineState).2.1 e := by
  have hsolving := s.solve_solving v.engine st.engineState
  rw [hfailed] at hsolving
  -- the session was there before, so the list of ids stays as it is
  have hnames : (st.store.put id (s.solve v.engine st.engineState).2.1).sessions.names
      = st.store.sessions.names := by
    refine (Named.names_insert ..).trans (if_pos (Named.mem_names_iff.mpr ?_))
    simp [hs]
  exact {
    method := hmethod
    path := hpath
    found := hs
    failed := hfailed
    status := Response.status_ofFailure he
    others := st.store.sameBut_settle id (some _)
    names := hnames
    left := by rw [Store.find?_put, if_pos rfl]
    session := hsolving.failedFrom
    recorded := e.exists_report
    answered := Response.body_ofFailure }

/-- A step that is answered with a status of 400 or more has changed nothing, or a session could not
be solved, or the answer could not be written. -/
theorem Step.refused (h : Step v st r response st') (hst : st.store.Numbered)
    (hsolve : ∀ (s : Session Failure μ ν) w e, (s.solve v.engine w).1 = .error e → e.IsInternal)
    (hrefused : 400 ≤ response.status) :
    st' = st ∨ (∃ id s s' e, FailedSolving v st r response st' id s s' e)
      ∨ (response = .crashed .unsendable ∧ Unsent v st r st') := by
  -- the ids of a store can be written, and so can what is answered with them
  have hsome : ∀ {id s}, st.store.sessions.find? id = some s → (Value.str id).isEncodable = true := by
    intro id s hs
    obtain ⟨n, rfl⟩ := hst id (by simp [hs])
    exact Store.isEncodable_idOf n
  have hwords : ∀ word ∈ ["model_id", "status", "applied", "message", "template", "updated",
      "created", "Model deleted"], (Value.str word).isEncodable = true := by decide +kernel
  cases h with
  | kept => exact Or.inl rfl
  | @created es spec hmethod hpath hcontent hdecode =>
      obtain ⟨hbody, hcrashed⟩ := Response.of_refused (by decide) hrefused
      have htemplate : (Value.str spec.template).isEncodable = false := by
        have hid : (Value.str (st.store.create spec).1).isEncodable = true :=
          Store.isEncodable_idOf _
        simpa [Value.isEncodable_ofFields, hid, hwords] using hbody
      exact Or.inr (Or.inr ⟨hcrashed, .created hmethod hpath hcontent hdecode htemplate⟩)
  | patched _ _ hs =>
      obtain ⟨hbody, -⟩ := Response.of_refused (by decide) hrefused
      have hcount : ∀ n, (Value.int n).isEncodable = true := fun _ => rfl
      simp [Value.isEncodable_ofFields, hsome hs, hwords, hcount] at hbody
  | deleted _ _ hs =>
      obtain ⟨hbody, -⟩ := Response.of_refused (by decide) hrefused
      simp [Value.isEncodable_ofFields, hsome hs, hwords] at hbody
  | @solved id s hmethod hpath hs =>
      cases hresult : (s.solve v.engine st.engineState).1 with
      | error e =>
          exact Or.inr (Or.inl ⟨id, s, _, e,
            failedSolving hmethod hpath hs hresult (hsolve s _ e hresult)⟩)
      | ok solution =>
          rw [hresult] at hrefused
          obtain ⟨hreport, hcrashed⟩ := Response.of_refused (by decide) hrefused
          exact Or.inr (Or.inr ⟨hcrashed, .solved hmethod hpath hs hresult hreport⟩)

/-- **A request that fails changes nothing.** After any requests to a service that has no sessions at
first, a request that is answered with a status of 400 or more leaves the service as it was, with two
exceptions. A session that cannot be solved keeps that as its last failure. And a session that has been
created or solved stays so if the answer turns out to have a text without bytes. -/
theorem kept_of_refused {σ : Type} (access : Access) (w : Loader σ × World σ)
    (rs : List ServiceRequest) (r : ServiceRequest) :
    let v := Service.standard access
    let st := (v.serve ⟨.empty, w⟩ rs).2
    let response := (v.answer st r).1
    let st' := (v.answer st r).2
    400 ≤ response.status →
    st' = st ∨ (∃ id s s' e, v.FailedSolving st r response st' id s s' e)
      ∨ (response = .crashed .unsendable ∧ v.Unsent st r st') := by
  intro v st response st' hrefused
  have hstep := v.carryOutGuarded_step st r
  have hanswer : response = ((v.carryOutGuarded st r).1).forMethod r.method := rfl
  rw [hanswer, Response.status_forMethod] at hrefused
  have hsolve : ∀ (s : Session Failure (Built Model) Solution) w e,
      (s.solve v.engine w).1 = .error e → e.IsInternal := by
    intro s w e he
    have hsolving := s.solve_solving v.engine w
    rw [he] at hsolving
    exact hsolving.isInternal
  -- the exceptions answer a POST, and only an answer to HEAD loses its body
  rcases hstep.refused (v.numbered_serve w rs) hsolve hrefused with
    hkept | ⟨id, s, s', e, hfailed⟩ | ⟨hcrashed, hunsent⟩
  · exact Or.inl hkept
  · have hmethod : r.method ≠ "HEAD" := by simp [hfailed.method]
    rw [hanswer, Response.forMethod_eq hmethod]
    exact Or.inr (Or.inl ⟨id, s, s', e, hfailed⟩)
  · have hmethod : r.method ≠ "HEAD" := by simp [hunsent.method]
    rw [hanswer, Response.forMethod_eq hmethod]
    exact Or.inr (Or.inr ⟨hcrashed, hunsent⟩)

/-! ### A service that is open to all -/

theorem carryOutGuarded_of_free {resource : Resource} (hv : v.access = ⟨"", 0⟩)
    (hpath : Resource.ofPath? r.path = some resource)
    (hmethod : resource.methods.contains r.method) :
    v.carryOutGuarded st r = v.carryOut st r resource :=
  carryOutGuarded_of_reached (reached?_of_free hv hpath hmethod)

/-- A session is created of a configuration that has a template alone. -/
theorem carryOutGuarded_create {t : String} (hv : v.access = ⟨"", 0⟩) (hmethod : r.method = "POST")
    (hpath : r.path = "/api/models") (hoverlong : r.isOverlong = false)
    (hcontent : r.content? = some (.map [(.str "template", .str t)]))
    (ht : (Text.stripped t).isEmpty = false) :
    v.carryOutGuarded st r
      = (.of 201 (.ofFields [("model_id", .str (st.store.create (.bare t)).1),
          ("template", .str t), ("status", .str "created")]),
        { st with store := (st.store.create (.bare t)).2 }) := by
  have hresource : Resource.ofPath? r.path = some .models := by
    rw [hpath]
    decide +kernel
  rw [carryOutGuarded_of_free hv hresource (by rw [hmethod]; rfl), carryOut,
    if_pos (by rw [hmethod]; rfl), withBody, hoverlong, if_neg Bool.false_ne_true, hcontent, create,
    Config.decode_template ht]
  rfl

/-- The value is a configuration of a template alone. -/
def isBare (t : String) : Value → Bool
  | .map [(.str k, .str s)] => k == "template" && s == t
  | _ => false

theorem content_of_isBare {t : String} (h : r.content?.map (isBare t) = some true) :
    r.content? = some (.map [(.str "template", .str t)]) := by
  obtain ⟨v, hv, hshape⟩ := Option.map_eq_some_iff.mp h
  unfold isBare at hshape
  split at hshape
  · next k s =>
      obtain ⟨hk, hs⟩ := Bool.and_eq_true_iff.mp hshape
      rw [hv, eq_of_beq hk, eq_of_beq hs]
  · cases hshape

/-- A session is created with a template that nobody knows, and then it cannot be solved. -/
theorem kept_of_refused_of_unknown_template :
    let v : Service (Loader Unit × World Unit) (Built Model) Solution := Service.standard ⟨"", 0⟩
    let creation : ServiceRequest := ⟨"POST", "/api/models", [], "\x7b\"template\": \"t\"\x7d"⟩
    let solving : ServiceRequest := ⟨"POST", "/api/models/model_1/solve", [], ""⟩
    ∀ w, let st := (v.serve ⟨.empty, w⟩ [creation]).2
      let response := (v.answer st solving).1
      let st' := (v.answer st solving).2
      400 ≤ response.status ∧ st.store.sessions.names = ["model_1"]
        ∧ (st' = st ∨ (∃ id s s' e, v.FailedSolving st solving response st' id s s' e)
          ∨ (response = .crashed .unsendable ∧ v.Unsent st solving st')) := by
  intro v creation solving w st response st'
  have hcreated : v.carryOutGuarded ⟨.empty, w⟩ creation = _ :=
    carryOutGuarded_create rfl rfl rfl (by decide +kernel)
      (content_of_isBare (t := "t") (by decide +kernel)) (by decide +kernel)
  have hst : st = ⟨(Store.empty.create (.bare "t")).2, w⟩ := congrArg Prod.snd hcreated
  have hnames : st.store.sessions.names = ["model_1"] := by
    rw [hst]
    rfl
  have hs : st.store.sessions.find? "model_1" = some (.ofSpecification (.bare "t")) := by
    rw [hst]
    rfl
  have hpath : Resource.ofPath? solving.path = some (.solving "model_1") := by decide +kernel
  have hsolving : v.carryOutGuarded st solving = v.solve st "model_1" :=
    carryOutGuarded_of_free rfl hpath (by decide)
  obtain ⟨e, he⟩ := Build.run_bare (t := "t") (by decide) st.engineState.1 st.engineState.2
  -- the engine cannot build it, so the session cannot be solved
  have hfailed : (v.solve st "model_1").1 = .ofFailure e := by
    have hbuild : (v.engine.build (.bare "t") st.engineState).1 = .error e := he
    simp only [solve, Store.solve, Store.get_of_find? hs, Session.solve, Session.modelWith,
      Session.ofSpecification]
    generalize v.engine.build (.bare "t") st.engineState = made at hbuild ⊢
    obtain ⟨result, w'⟩ := made
    obtain rfl : result = .error e := hbuild
    rfl
  have hrefused : 400 ≤ response.status := by
    have hinternal := Build.run_fails_internal _ _ _ e he
    have hresponse : response = ((v.carryOutGuarded st solving).1).forMethod "POST" := rfl
    rw [hresponse, hsolving, hfailed, Response.status_forMethod, Response.status_ofFailure hinternal]
    decide
  exact ⟨hrefused, hnames, kept_of_refused ⟨"", 0⟩ w [creation] solving hrefused⟩

/-- The template of a configuration is half of a pair. The session is created, and then the service fails
over the answer. -/
theorem changed_of_crashed :
    let v : Service (Loader Unit × World Unit) (Built Model) Solution := Service.standard ⟨"", 0⟩
    let r : ServiceRequest := ⟨"POST", "/api/models", [], "\x7b\"template\": \"\\ud800\"\x7d"⟩
    ∀ w, (v.answer ⟨.empty, w⟩ r).1 = .crashed .unsendable ∧ 400 ≤ (Response.crashed .unsendable).status
      ∧ (v.answer ⟨.empty, w⟩ r).2.store.created = 1 ∧ (v.answer ⟨.empty, w⟩ r).2 ≠ ⟨.empty, w⟩ := by
  intro v r w
  have hcreated : v.carryOutGuarded ⟨.empty, w⟩ r = _ :=
    carryOutGuarded_create rfl rfl rfl (by decide +kernel)
      (content_of_isBare (t := String.ofList [Json.loneHalf 0xD800]) (by decide +kernel))
      (by decide +kernel)
  have hcrashed : (v.carryOutGuarded ⟨.empty, w⟩ r).1 = .crashed .unsendable := by
    -- the template is part of the answer
    rw [hcreated]
    refine if_neg ?_
    have htemplate : (Value.str (String.ofList [Json.loneHalf 0xD800])).isEncodable = false := by
      decide +kernel
    simp only [Value.isEncodable_ofFields, List.all_cons, htemplate, Bool.and_false, Bool.false_and]
    decide
  have hone : (v.answer ⟨.empty, w⟩ r).2.store.created = 1 :=
    congrArg (fun x => x.2.store.created) hcreated
  refine ⟨?_, by decide, hone, fun hkept => ?_⟩
  · rw [answer]
    simp only [hcrashed]
    rfl
  · rw [hkept] at hone
    cases hone

end Service

end Rostering
