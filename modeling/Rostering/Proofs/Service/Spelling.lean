import Rostering.Proofs.Patch.Batch
import Rostering.Proofs.Patch.Effect
import Rostering.Proofs.PatchRequest
import Rostering.Proofs.Service.Effect
import Rostering.Proofs.Session.Independence

/-!
# Spellings of a request for patches

The answer to a request for patches, and the state after it, depend on the patches that are meant and
not on how they are spelled (`Service.spellings_agree`). A batch does what its patches do when they are
requested one after the other.

What the guards look at besides the thing that is asked for is the length of the body. A longer
spelling can be too large where a shorter one is not (`Service.answer_of_longer_spelling`).

## The architecture

* **`Store.patch_cons`** — the step: a batch is its first patch, and then the others.
* **`ServiceRequest.Means`** — the patches that a request is read as, and
  `Service.answer_of_means`, that nothing else matters.
* **`Service.Alike`** — requests that differ in their bodies at most, as far as the guards can tell.
* **`Service.serve_patches`** — the run: requests for single patches, by induction on the patches.
* **`Service.patched_of_success`**, **`Service.success_of_patches`** — success is answered exactly to
  patches that can be applied.
-/

namespace Rostering

variable {σ μ ν : Type}

/-! ## Patches one after the other -/

theorem Patch.applyAll_cons_eq_ok {p : Patch} {ps : List Patch} {s u : Specification} :
    applyAll (p :: ps) s = .ok u ↔ ∃ t, p.apply s = .ok t ∧ applyAll ps t = .ok u := by
  rw [applyAll]
  cases p.apply s with
  | error e => simp [throw_ne_ok]
  | ok t => simp

/-- Patches that can be applied leave a session with the specification that they make, and without
anything that was made from the old one. -/
theorem Session.patch_eq_ok_iff {s s' : Session Failure μ ν} {ps : List Patch} :
    s.patch ps = .ok s' ↔ ∃ t, Patch.applyAll ps s.spec = .ok t
      ∧ { s.invalidated with spec := t, error? := none, state := .updated } = s' := by
  unfold patch
  cases Patch.applyAll ps s.spec with
  | error e => simp [throw_ne_ok]
  | ok t => simp [pure_eq_ok]

/-- A batch leaves a session as its first patch and then the others do. -/
theorem Session.patch_cons {s s'' : Session Failure μ ν} {p : Patch} {ps : List Patch}
    (h : s.patch (p :: ps) = .ok s'') : ∃ s', s.patch [p] = .ok s' ∧ s'.patch ps = .ok s'' := by
  obtain ⟨u, hu, rfl⟩ := patch_eq_ok_iff.mp h
  obtain ⟨t, ht, hrest⟩ := Patch.applyAll_cons_eq_ok.mp hu
  have hfirst : Patch.applyAll [p] s.spec = .ok t := Patch.applyAll_cons_eq_ok.mpr ⟨t, ht, rfl⟩
  exact ⟨_, patch_eq_ok_iff.mpr ⟨t, hfirst, rfl⟩, patch_eq_ok_iff.mpr ⟨u, hrest, rfl⟩⟩

theorem Patch.operation_of_apply {p : Patch} {s t : Specification} (h : p.apply s = .ok t) :
    p.operation = .str "merge" := by
  rw [apply_eq_judge, map_eq_ok] at h
  obtain ⟨c, hc, -⟩ := h
  exact Value.same_str_iff.mp (judge_eq_ok.mp hc).1

namespace Store

theorem put_put (t : Store Failure μ ν) (id : String) (s s' : Session Failure μ ν) :
    (t.put id s).put id s' = t.put id s' := by
  refine ext_find? rfl ?_ fun other => ?_
  · have hmem : id ∈ (t.sessions.insert id s).names :=
      Named.mem_names_iff.mpr (by rw [Named.find?_insert, if_pos rfl]; rfl)
    show ((t.sessions.insert id s).insert id s').names = (t.sessions.insert id s').names
    rw [Named.names_insert, if_pos hmem, Named.names_insert, Named.names_insert]
  · simp only [find?_put]
    split <;> rfl

theorem patch_cons {t t'' : Store Failure μ ν} {id : String} {p : Patch} {ps : List Patch}
    (h : t.patch id (p :: ps) = .ok t'') :
    ∃ t', t.patch id [p] = .ok t' ∧ t'.patch id ps = .ok t'' := by
  obtain ⟨s, s'', hs, hpatched, rfl⟩ := patch_eq_ok h
  obtain ⟨s', hfirst, hrest⟩ := Session.patch_cons hpatched
  refine ⟨t.put id s', bind_eq_ok.mpr ⟨s, get_of_find? hs, bind_eq_ok.mpr ⟨s', hfirst, rfl⟩⟩, ?_⟩
  have hs' : (t.put id s').sessions.find? id = some s' := by rw [find?_put, if_pos rfl]
  have hput := put_put t id s' s''
  exact bind_eq_ok.mpr ⟨s', get_of_find? hs', bind_eq_ok.mpr ⟨s'', hrest, congrArg _ hput⟩⟩

end Store

/-! ## Requests for patches -/

namespace ServiceRequest

/-- The body of the request is that of a single patch. -/
def AsksOne (r : ServiceRequest) (p : WrittenPatch) : Prop :=
  ∃ es, r.content? = some (.map es) ∧ PatchRequest.IsSingle p es

/-- The body of the request is that of a batch. -/
def AsksAll (r : ServiceRequest) (ps : List WrittenPatch) : Prop :=
  ∃ es, r.content? = some (.map es) ∧ PatchRequest.IsBatch ps es

/-- The request is read as one for these patches. -/
def Means (r : ServiceRequest) (ps : List Patch) : Prop :=
  (r.content?.bind PatchRequest.ofValue?).map (List.map RequestedPatch.toPatch) = some ps

variable {r : ServiceRequest}

theorem AsksOne.means {p : WrittenPatch} (h : r.AsksOne p) (hoperation : p.operation ≠ some "") :
    r.Means [p.meant] := by
  obtain ⟨es, hcontent, hes⟩ := h
  unfold Means
  rw [hcontent]
  exact PatchRequest.ofValue?_of_isSingle hes hoperation

theorem AsksAll.means {ps : List WrittenPatch} (h : r.AsksAll ps) :
    r.Means (ps.map WrittenPatch.meant) := by
  obtain ⟨es, hcontent, hes⟩ := h
  unfold Means
  rw [hcontent]
  exact PatchRequest.ofValue?_of_isBatch hes

theorem Means.isOverlong_eq_false {ps : List Patch} (h : r.Means ps) : r.isOverlong = false := by
  unfold Means content? at h
  split at h
  · cases h
  · cases hparsed : Json.parse? r.text with
    | none =>
        rw [hparsed] at h
        cases h
    | some c =>
        unfold isOverlong
        rw [hparsed, Option.isNone_some, Bool.and_false, Bool.false_and]

end ServiceRequest

namespace Service

variable {v : Service σ μ ν} {st : ServiceState σ μ ν} {r r' : ServiceRequest} {id : String}

/-- What is answered to so many patches. -/
def updateAnswer (id : String) (applied : Nat) : Value :=
  .ofFields [("model_id", .str id), ("status", .str "updated"),
    ("applied", .int (Int.ofNat applied))]

/-- What becomes of a request for patches depends on the patches that are meant. -/
theorem withBody_of_means {ps : List Patch} (h : r.Means ps) :
    withBody st r (patch st id)
      = changed st (st.store.patch id ps) (updateAnswer id ps.length) := by
  unfold withBody
  rw [h.isOverlong_eq_false, if_neg Bool.false_ne_true]
  obtain ⟨rs, hrs, rfl⟩ := Option.map_eq_some_iff.mp h
  unfold patch
  rw [hrs, List.length_map]
  rfl

/-- The requests are for the same thing, and the guards on lengths treat them alike. They differ in
their bodies at most, and in the lengths that they declare. -/
structure Alike (v : Service σ μ ν) (r r' : ServiceRequest) : Prop where
  method : r'.method = r.method
  path : r'.path = r.path
  header : ∀ name, name ≠ "content-length" → r'.header? name = r.header? name
  failsOnLength : v.access.failsOnLength r' = v.access.failsOnLength r
  isTooLarge : v.access.isTooLarge r' = v.access.isTooLarge r

namespace Alike

theorem asksForKey (h : v.Alike r r') : v.access.asksForKey r' = v.access.asksForKey r := by
  unfold Access.asksForKey
  rw [h.method, h.path]

theorem failsOnKey (h : v.Alike r r') : v.access.failsOnKey r' = v.access.failsOnKey r := by
  unfold Access.failsOnKey
  rw [h.asksForKey, h.header "x-api-key" (by decide)]

theorem blocks (h : v.Alike r r') : v.access.blocks r' = v.access.blocks r := by
  unfold Access.blocks
  rw [h.asksForKey, h.header "x-api-key" (by decide)]

theorem reached? (h : v.Alike r r') : v.reached? r' = v.reached? r := by
  unfold Service.reached?
  rw [h.failsOnKey, h.blocks, h.failsOnLength, h.isTooLarge, h.path, h.method]

/-- What the guards let pass, they let pass for both. -/
theorem answer_eq (h : v.Alike r r') (hcarry : ∀ resource, Resource.ofPath? r.path = some resource →
    v.carryOut st r' resource = v.carryOut st r resource) : v.answer st r' = v.answer st r := by
  have hguarded : v.carryOutGuarded st r' = v.carryOutGuarded st r := by
    unfold carryOutGuarded
    rw [h.failsOnKey, h.blocks, h.failsOnLength, h.isTooLarge, h.path, h.method]
    cases hpath : Resource.ofPath? r.path with
    | none => rfl
    | some resource =>
        simp only
        rw [hcarry resource hpath]
  unfold answer
  rw [hguarded, h.method]

end Alike

theorem answer_of_means {ps : List Patch} (hpath : Resource.ofPath? r.path = some (.config id))
    (hsame : v.Alike r r') (h : r.Means ps) (h' : r'.Means ps) : v.answer st r' = v.answer st r := by
  refine hsame.answer_eq fun resource hresource => ?_
  obtain rfl := Option.some.inj (hpath.symm.trans hresource)
  show withBody st r' (patch st id) = withBody st r (patch st id)
  rw [withBody_of_means h', withBody_of_means h]

theorem answer_patch {ps : List Patch} (hreached : v.reached? r = some (.config id)) (h : r.Means ps) :
    v.answer st r = changed st (st.store.patch id ps) (updateAnswer id ps.length) := by
  have hpatch : r.method = "PATCH" := by
    simpa [Resource.methods] using method_mem_of_reached hreached
  rw [answer_of_reached hreached (by rw [hpatch]; decide)]
  exact withBody_of_means h

/-- Patches that can be applied as a batch can be requested one after the other, and lead to the same
state. Induction on the patches. -/
theorem serve_patches {ps : List Patch} {rs : List ServiceRequest}
    (hrs : List.Forall₂ (fun p r => v.reached? r = some (.config id) ∧ r.Means [p]) ps rs) :
    ∀ {st : ServiceState σ μ ν} {store : Store Failure μ ν}, ps ≠ [] → st.store.patch id ps = .ok store →
      (v.serve st rs).2 = { st with store := store }
        ∧ ∀ x ∈ (v.serve st rs).1, x.2 = .of 200 (updateAnswer id 1) := by
  induction hrs with
  | nil => exact fun hne => absurd rfl hne
  | @cons p r ps rs hr hrs ih =>
      intro st store _ hbatch
      obtain ⟨first, hfirst, hrest⟩ := Store.patch_cons hbatch
      -- the first request is answered with success, since the batch applies
      have hanswer : v.answer st r = (.of 200 (updateAnswer id 1), { st with store := first }) := by
        rw [answer_patch hr.1 hr.2, hfirst]
        rfl
      have hserve : v.serve st (r :: rs)
          = ((r, .of 200 (updateAnswer id 1)) :: (v.serve { st with store := first } rs).1,
            (v.serve { st with store := first } rs).2) := by
        rw [serve, hanswer]
      rw [hserve]
      -- the last patch leads to the state of the whole batch
      cases hrs with
      | nil =>
          obtain rfl : first = store := Except.ok.inj (hfirst.symm.trans hbatch)
          exact ⟨rfl, List.forall_mem_singleton.mpr rfl⟩
      | cons hnext hlater =>
          obtain ⟨hstate, hresponses⟩ := @ih { st with store := first } _ (List.cons_ne_nil _ _) hrest
          exact ⟨hstate, List.forall_mem_cons.mpr ⟨rfl, hresponses⟩⟩

/-! ## Spellings -/

/-- The ways to write one patch to an entry of a section: with a point in its path, or step by step. -/
def spellings (operation : Option String) (part name : String) (value : Option Value) :
    List WrittenPatch :=
  [⟨operation, .dotted (part ++ "." ++ name), value⟩, ⟨operation, .steps [part, name], value⟩]

theorem meant_of_mem_spellings {operation : Option String} {part name : String}
    {value : Option Value} (hpart : '.' ∉ part.toList) (hname : '.' ∉ name.toList)
    {p : WrittenPatch} (hp : p ∈ spellings operation part name value) :
    p.operation = operation
      ∧ p.meant = ⟨.str (operation.getD "merge"), [part, name], value.getD .null⟩ := by
  simp only [spellings, List.mem_cons, List.not_mem_nil, or_false] at hp
  rcases hp with rfl | rfl
  · refine ⟨rfl, ?_⟩
    show Patch.mk _ ((part ++ "." ++ name).splitOn ".") _ = _
    rw [splitOn_of_one '.' hpart hname]
  · exact ⟨rfl, rfl⟩

theorem isEncodable_updateAnswer (id : String) (applied : Nat) :
    (updateAnswer id applied).isEncodable = (Value.str id).isEncodable := by
  have hwords : ∀ word ∈ ["model_id", "status", "applied", "updated"],
      (Value.str word).isEncodable = true := by decide +kernel
  have hcount : ∀ n, (Value.int n).isEncodable = true := fun _ => rfl
  simp [updateAnswer, Value.isEncodable_ofFields, hwords, hcount]

/-- A request that gets to no resource is refused, by whichever guard. -/
theorem le_status_of_unreached (h : v.reached? r = none) :
    400 ≤ (v.carryOutGuarded st r).1.status := by
  unfold Service.reached? at h
  unfold carryOutGuarded
  have hcrashed : ∀ f, 400 ≤ (Response.crashed f).status := fun _ => show 400 ≤ 500 by decide
  split_ifs with hkey hblocks hlength hlarge
  · exact hcrashed _
  · exact Response.le_status_written (by decide) _
  · exact hcrashed _
  · exact Response.le_status_written (by decide) _
  · rw [if_neg (by simp [hkey, hblocks, hlength, hlarge]), Option.filter_eq_none_iff] at h
    cases hpath : Resource.ofPath? r.path with
    | none => exact Response.le_status_written (by decide) _
    | some resource =>
        simp only [h resource hpath]
        exact Response.le_status_written (by decide) _

/-- Only a request that gets past the guards is answered with success. -/
theorem reached_of_success (hpath : Resource.ofPath? r.path = some (.config id))
    (hok : (v.answer st r).1.status = 200) : v.reached? r = some (.config id) := by
  cases hreached : v.reached? r with
  | none =>
      have hrefused := @le_status_of_unreached _ _ _ v st r hreached
      rw [answer, Response.status_forMethod] at hok
      omega
  | some resource =>
      unfold Service.reached? at hreached
      split at hreached
      · cases hreached
      · have hfound := (Option.filter_eq_some_iff.mp hreached).1
        rw [← hfound, hpath]

/-- Only patches that can be applied are answered with success. -/
theorem patched_of_success {ps : List Patch} (hreached : v.reached? r = some (.config id))
    (h : r.Means ps) (hok : (v.answer st r).1.status = 200) :
    ∃ store, st.store.patch id ps = .ok store ∧ (v.answer st r).2 = { st with store := store }
      ∧ (Value.str id).isEncodable = true := by
  rw [answer_patch hreached h] at hok ⊢
  cases hpatched : st.store.patch id ps with
  | error e =>
      -- a failure is answered with a status of its own, which is none of success
      have hrefused := e.le_status
      rw [hpatched] at hok
      have hok : (Response.ofFailure e).status = 200 := hok
      omega
  | ok store =>
      refine ⟨store, rfl, rfl, ?_⟩
      rw [hpatched] at hok
      rw [← isEncodable_updateAnswer id ps.length]
      exact (Response.status_of_eq (by decide)).mp hok

/-- They are, if the id can be written. -/
theorem success_of_patches {ps : List Patch} {s : Session Failure μ ν}
    (hreached : v.reached? r = some (.config id)) (h : r.Means ps)
    (hs : st.store.sessions.find? id = some s) (hps : ∀ p ∈ ps, ∃ t, p.apply s.spec = .ok t)
    (hid : (Value.str id).isEncodable = true) : (v.answer st r).1.status = 200 := by
  obtain ⟨t, ht⟩ := Patch.applyAll_succeeds_iff.mpr hps
  obtain ⟨s', hs'⟩ : ∃ s', s.patch ps = .ok s' := ⟨_, Session.patch_eq_ok_iff.mpr ⟨t, ht, rfl⟩⟩
  have hpatched : st.store.patch id ps = .ok (st.store.put id s') :=
    bind_eq_ok.mpr ⟨s, Store.get_of_find? hs, bind_eq_ok.mpr ⟨s', hs', rfl⟩⟩
  rw [answer_patch hreached h, hpatched]
  exact (Response.status_of_eq (by decide)).mpr ((isEncodable_updateAnswer id ps.length).trans hid)

/-- However a patch is spelled, it gets the same answer and leaves the same state; and a batch that is
answered with success leaves the state that its patches leave when they are requested one after the
other, each with success. The requests may differ in their bodies and in the lengths that they declare,
as long as the guards on lengths treat them alike. -/
theorem spellings_agree (v : Service σ μ ν) (st : ServiceState σ μ ν) {r : ServiceRequest}
    {id : String} (hpath : Resource.ofPath? r.path = some (.config id)) :
    (∀ operation part name value, operation ≠ some "" → '.' ∉ part.toList → '.' ∉ name.toList →
      ∀ p ∈ spellings operation part name value, ∀ p' ∈ spellings operation part name value,
      ∀ r', v.Alike r r' → (r.AsksOne p ∨ r.AsksAll [p]) → (r'.AsksOne p' ∨ r'.AsksAll [p']) →
        v.answer st r' = v.answer st r)
    ∧ ∀ ps rs, ps ≠ [] → r.AsksAll ps →
      List.Forall₂ (fun p r' => v.Alike r r' ∧ r'.AsksOne p) ps rs →
      (v.answer st r).1.status = 200 →
        (v.serve st rs).2 = (v.answer st r).2 ∧ ∀ x ∈ (v.serve st rs).1, x.2.status = 200 := by
  constructor
  · intro operation part name value hoperation hpart hname p hp p' hp' r' hsame hr hr'
    have hmeans : ∀ {p : WrittenPatch} {r : ServiceRequest}, p ∈ spellings operation part name value →
        r.AsksOne p ∨ r.AsksAll [p] →
        r.Means [⟨.str (operation.getD "merge"), [part, name], value.getD .null⟩] := by
      intro p r hp hr
      obtain ⟨hwritten, hmeant⟩ := meant_of_mem_spellings hpart hname hp
      rw [← hmeant]
      rcases hr with hone | hall
      · exact hone.means (hwritten ▸ hoperation)
      · exact hall.means
    exact answer_of_means hpath hsame (hmeans hp hr) (hmeans hp' hr')
  · intro ps rs hne hbatch hsingles hok
    have hreached := reached_of_success hpath hok
    obtain ⟨store, hpatched, hstate, hid⟩ := patched_of_success hreached hbatch.means hok
    -- an empty operation would be taken for left out in a single request, but no batch has one
    have hoperation : ∀ p ∈ ps, p.operation ≠ some "" := by
      intro p hp hempty
      obtain ⟨s, s', -, hs', -⟩ := Store.patch_eq_ok hpatched
      obtain ⟨t, ht, -⟩ := Session.patch_eq_ok_iff.mp hs'
      obtain ⟨u, hu⟩ := Patch.applyAll_succeeds_iff.mp ⟨t, ht⟩ p.meant (List.mem_map_of_mem hp)
      have hmerge := Patch.operation_of_apply hu
      rw [WrittenPatch.meant, hempty] at hmerge
      exact absurd hmerge (by simp)
    have hrs : List.Forall₂ (fun p r' => v.reached? r' = some (.config id) ∧ r'.Means [p])
        (ps.map WrittenPatch.meant) rs := by
      rw [List.forall₂_map_left_iff]
      refine ((List.forall₂_and_left _ _).mpr ⟨hoperation, hsingles⟩).imp ?_
      rintro p r' ⟨hne, hsame, hone⟩
      exact ⟨hsame.reached?.trans hreached, hone.means hne⟩
    obtain ⟨hserved, hresponses⟩ := serve_patches hrs (by simpa using hne) hpatched
    refine ⟨hserved.trans hstate.symm, fun x hx => ?_⟩
    rw [hresponses x hx]
    exact (Response.status_of_eq (by decide)).mpr ((isEncodable_updateAnswer id 1).trans hid)

/-! ### Two options in several spellings -/

/-- The body of a request writes a value. -/
theorem content_of_text {text : String} {c : Value} {method path : String}
    (hparse : Json.parse? text = some c) (hsome : text.isEmpty = false)
    (hplain : (⟨method, path, [], text⟩ : ServiceRequest).text = text) :
    (⟨method, path, [], text⟩ : ServiceRequest).content? = some c := by
  have hread : (⟨method, path, [], text⟩ : ServiceRequest).isRead = true := rfl
  unfold ServiceRequest.content?
  rw [hread, hsome, hplain, hparse]
  rfl

/-- A request to change the session, with a body. -/
def changeRequest (body : String) : ServiceRequest :=
  ⟨"PATCH", "/api/models/model_1/config", [], body⟩

/-- The service with a bound on bodies, and a state with one session. -/
def boundedService (bound : Nat) : Service (Loader Unit × World Unit) (Built Model) Solution :=
  .standard ⟨"", bound⟩

/-- A service with one session, of a specification without entries. -/
def oneSession (w : Loader Unit × World Unit) :
    ServiceState (Loader Unit × World Unit) (Built Model) Solution :=
  ⟨(Store.empty.create ⟨"t", .empty, .empty, .empty, .empty⟩).2, w⟩

/-- Two options, written in a batch and one after the other, with a dotted path and step by step:
the answers and the states agree. -/
theorem spellings_agree_of_two_options :
    let v := boundedService 120
    let a : WrittenPatch := ⟨none, .dotted ("options" ++ "." ++ "a"), some (.int 1)⟩
    let a' : WrittenPatch := ⟨none, .steps ["options", "a"], some (.int 1)⟩
    let b : WrittenPatch := ⟨none, .steps ["options", "b"], none⟩
    let dotted := changeRequest "\x7b\"path\": \"options.a\", \"value\": 1\x7d"
    let listed := changeRequest
      "\x7b\"patches\": [\x7b\"path\": [\"options\", \"a\"], \"value\": 1\x7d]\x7d"
    let other := changeRequest "\x7b\"path\": [\"options\", \"b\"]\x7d"
    let both := changeRequest
      ("\x7b\"patches\": [\x7b\"path\": \"options.a\", \"value\": 1\x7d, "
        ++ "\x7b\"path\": [\"options\", \"b\"]\x7d]\x7d")
    dotted.AsksOne a ∧ listed.AsksAll [a'] ∧ other.AsksOne b ∧ both.AsksAll [a, b]
      ∧ ∀ w, v.answer (oneSession w) listed = v.answer (oneSession w) dotted
        ∧ (v.answer (oneSession w) both).1.status = 200
        ∧ (v.serve (oneSession w) [dotted, other]).2 = (v.answer (oneSession w) both).2 := by
  intro v a a' b dotted listed other both
  -- the bodies are parsed once, and from then on they are the patches that they ask for
  have hdotted : dotted.AsksOne a := by
    refine ⟨_, content_of_text ?_ (by decide) (by decide +kernel), PatchRequest.isSingle_entries a⟩
    cbv
  have hlisted : listed.AsksAll [a'] := by
    refine ⟨_, content_of_text ?_ (by decide) (by decide +kernel), PatchRequest.isBatch_entries [a']⟩
    cbv
  have hother : other.AsksOne b := by
    refine ⟨_, content_of_text ?_ (by decide) (by decide +kernel), PatchRequest.isSingle_entries b⟩
    cbv
  have hboth : both.AsksAll [a, b] := by
    refine ⟨_, content_of_text ?_ (by decide) (by decide +kernel), PatchRequest.isBatch_entries [a, b]⟩
    cbv
  refine ⟨hdotted, hlisted, hother, hboth, fun w => ?_⟩
  -- all four go to one path with the same headers, and none is too large
  have halike : ∀ r ∈ [dotted, listed, other, both], ∀ r' ∈ [dotted, listed, other, both],
      v.Alike r r' := by
    have hlarge : ∀ r ∈ [dotted, listed, other, both], v.access.isTooLarge r = false := by
      decide +kernel
    have hsame : ∀ r ∈ [dotted, listed, other, both], r.method = "PATCH" ∧ r.headers = []
        ∧ r.path = "/api/models/model_1/config" := by
      simp [dotted, listed, other, both, changeRequest]
    intro r hr r' hr'
    obtain ⟨hmethod, hheaders, hpath⟩ := hsame r hr
    obtain ⟨hmethod', hheaders', hpath'⟩ := hsame r' hr'
    have hheader : ∀ name, r'.header? name = r.header? name := by
      intro name
      rw [ServiceRequest.header?, ServiceRequest.header?, hheaders, hheaders']
    refine ⟨hmethod'.trans hmethod.symm, hpath'.trans hpath.symm, fun name _ => hheader name, ?_,
      (hlarge r' hr').trans (hlarge r hr).symm⟩
    rw [Access.failsOnLength, Access.failsOnLength, hheader]
  have hpath : ∀ r ∈ [dotted, listed, other, both],
      Resource.ofPath? r.path = some (.config "model_1") := by decide +kernel
  have ha : a ∈ spellings none "options" "a" (some (.int 1)) := List.mem_cons_self
  have ha' : a' ∈ spellings none "options" "a" (some (.int 1)) :=
    List.mem_cons_of_mem _ List.mem_cons_self
  have hmeant : a.meant = ⟨.str "merge", ["options", "a"], .int 1⟩ :=
    (meant_of_mem_spellings (by decide) (by decide) ha).2
  -- an option can always be written
  have hoption : ∀ p ∈ [a, b].map WrittenPatch.meant,
      ∃ t, p.apply ⟨"t", .empty, .empty, .empty, .empty⟩ = .ok t := by
    have hwrites : ∀ name value, name.isEmpty = false →
        ∃ t, (⟨.str "merge", ["options", name], value⟩ : Patch).apply
          ⟨"t", .empty, .empty, .empty, .empty⟩ = .ok t := by
      intro name value hname
      simp only [Patch.apply, Patch.merge_supported, hname]
      exact ⟨_, rfl⟩
    rw [List.map_cons, List.map_singleton, hmeant]
    refine List.forall_mem_cons.mpr ⟨hwrites "a" _ (by decide), List.forall_mem_singleton.mpr ?_⟩
    exact hwrites "b" _ (by decide)
  have hreached : v.reached? both = some (.config "model_1") := by decide +kernel
  have hid : (Value.str "model_1").isEncodable = true := by decide +kernel
  have hok : (v.answer (oneSession w) both).1.status = 200 :=
    success_of_patches hreached hboth.means rfl hoption hid
  obtain ⟨hagree, -⟩ := spellings_agree v (oneSession w) (hpath dotted (by simp))
  obtain ⟨-, hbatch⟩ := spellings_agree v (oneSession w) (hpath both (by simp))
  refine ⟨?_, hok, (hbatch [a, b] [dotted, other] (by simp) hboth ?_ hok).1⟩
  · exact hagree none "options" "a" (some (.int 1)) (by simp) (by decide) (by decide) a ha a' ha' listed
      (halike dotted (by simp) listed (by simp)) (Or.inl hdotted) (Or.inr hlisted)
  · exact .cons ⟨halike both (by simp) dotted (by simp), hdotted⟩
      (.cons ⟨halike both (by simp) other (by simp), hother⟩ .nil)

/-- With a bound of forty bytes the batch is too large, and the single patch is not. -/
theorem answer_of_longer_spelling :
    let v := boundedService 40
    let a : WrittenPatch := ⟨none, .dotted ("options" ++ "." ++ "a"), some (.int 1)⟩
    let single := changeRequest "\x7b\"path\": \"options.a\", \"value\": 1\x7d"
    let batch := changeRequest
      "\x7b\"patches\": [\x7b\"path\": \"options.a\", \"value\": 1\x7d]\x7d"
    single.AsksOne a ∧ batch.AsksAll [a]
      ∧ ∀ w, (v.answer (oneSession w) single).1.status = 200
        ∧ (v.answer (oneSession w) batch).1.status = 413 := by
  intro v a single batch
  have hsingle : single.AsksOne a := by
    refine ⟨_, content_of_text ?_ (by decide) (by decide +kernel), PatchRequest.isSingle_entries a⟩
    cbv
  have hbatch : batch.AsksAll [a] := by
    refine ⟨_, content_of_text ?_ (by decide) (by decide +kernel), PatchRequest.isBatch_entries [a]⟩
    cbv
  refine ⟨hsingle, hbatch, fun w => ⟨?_, ?_⟩⟩
  · have hmeant : a.meant = ⟨.str "merge", ["options", "a"], .int 1⟩ :=
      (meant_of_mem_spellings (by decide) (by decide) (List.mem_cons_self)).2
    have hmeans := hsingle.means (by simp [a])
    rw [hmeant] at hmeans
    have hreached : v.reached? single = some (.config "model_1") := by decide +kernel
    have hid : (Value.str "model_1").isEncodable = true := by decide +kernel
    refine success_of_patches hreached hmeans rfl ?_ hid
    refine List.forall_mem_singleton.mpr ?_
    simp only [Patch.apply, Patch.merge_supported]
    exact ⟨_, rfl⟩
  -- the batch gets through all guards but the last one
  · have hguards : v.access.failsOnKey batch = false ∧ v.access.blocks batch = false
        ∧ v.access.failsOnLength batch = false ∧ v.access.isTooLarge batch = true := by
      decide +kernel
    obtain ⟨hkey, hblocks, hlength, hlarge⟩ := hguards
    rw [answer, Response.status_forMethod, carryOutGuarded]
    simp only [hkey, hblocks, hlength, hlarge, Bool.false_eq_true, if_false, if_true]
    show (Response.detail 413 _).status = 413
    decide +kernel

end Service

end Rostering
