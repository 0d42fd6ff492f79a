import Mathlib.Data.List.DropRight
import Rostering.Proofs.Service.Step

/-!
# Requests without the key have no effect

Where the service has a key, a request that lacks it is refused whatever the sessions are, and the
other requests are answered as if it had never been made (`Service.unnoticed_of_blocks`). What needs
no key changes nothing: no path below the models is open (`Access.not_prefix_of_isOpen`).

Keys are compared only if they are in ASCII. With any other key the guard fails on every request that
offers one, be it the right one (`Access.failsOnKey_of_not_isAscii`).

## The architecture

* **`Resource.ofPath?_cases`** — the resources other than health and description are below the models.
* **`Service.carryOutGuarded_of_blocks`** — a blocked request is refused by the first guard.
* **`Service.serve_filter`** — requests that change nothing can be left out.
-/

namespace Rostering

/-! ## Paths -/

namespace Resource

/-- A path whose steps lead below the models starts with their path. -/
theorem prefix_of_stepsOf {path : String} {rest : List String}
    (h : stepsOf path = "" :: "api" :: "models" :: rest) :
    "/api/models".toList <+: path.toList := by
  have hsteps : path.toList.splitOn '/'
      = [] :: "api".toList :: "models".toList :: rest.map String.toList := by
    have hmap := congrArg (List.map String.toList) h
    simpa [stepsOf, Function.comp_def] using hmap
  have hjoin : ['/'].intercalate ([] :: "api".toList :: "models".toList :: rest.map String.toList)
      = path.toList := by rw [← hsteps, List.intercalate_splitOn]
  cases rest with
  | nil => exact ⟨[], hjoin⟩
  | cons step rest => exact ⟨'/' :: ['/'].intercalate ((step :: rest).map String.toList), hjoin⟩

/-- The paths of resources are those of health and description, and those below the models. -/
theorem ofSteps?_cases {steps : List String} {resource : Resource}
    (h : ofSteps? steps = some resource) :
    resource = .health ∨ resource = .description
      ∨ ∃ rest, steps = "" :: "api" :: "models" :: rest := by
  unfold ofSteps? at h
  split at h
  · exact Or.inr (Or.inl (Option.some.inj h).symm)
  · exact Or.inl (Option.some.inj h).symm
  · exact Or.inr (Or.inr ⟨_, rfl⟩)
  · exact Or.inr (Or.inr ⟨_, rfl⟩)
  · exact Or.inr (Or.inr ⟨_, rfl⟩)
  · cases h

/-- A resource is health or the description of the service, or else it is below the models. -/
theorem ofPath?_cases {path : String} {resource : Resource} (h : ofPath? path = some resource) :
    resource = .health ∨ resource = .description ∨ "/api/models".toList <+: path.toList := by
  rcases Option.or_eq_some_iff.mp h with h | ⟨-, h⟩
  · rcases ofSteps?_cases h with hhealth | hdescription | ⟨rest, hsteps⟩
    · exact Or.inl hhealth
    · exact Or.inr (Or.inl hdescription)
    · exact Or.inr (Or.inr (prefix_of_stepsOf hsteps))
  · -- without the slashes at its end the path starts with the same steps
    rcases ofSteps?_cases h with hhealth | hdescription | ⟨rest, hsteps⟩
    · exact Or.inl hhealth
    · exact Or.inr (Or.inl hdescription)
    · obtain ⟨more, hmore⟩ : withoutTrailing (stepsOf path) <+: stepsOf path :=
        List.rdropWhile_prefix _ _
      rw [hsteps] at hmore
      exact Or.inr (Or.inr (prefix_of_stepsOf hmore.symm))

end Resource

namespace Access

/-- No path below the models is open. -/
theorem not_prefix_of_isOpen {path : String} (h : isOpen path) :
    ¬ "/api/models".toList <+: path.toList := by
  intro hmodels
  have hpaths : ∀ p ∈ openPaths, ¬ "/api/models".toList <+: p.toList := by decide +kernel
  have hroots : ∀ root ∈ openRoots, ¬ (root.toList <+: "/api/models".toList
      ∨ "/api/models".toList <+: root.toList) := by decide +kernel
  unfold isOpen at h
  rw [Bool.or_eq_true, List.contains_iff_mem, List.any_eq_true] at h
  rcases h with hpath | ⟨root, hroot, hprefix⟩
  · exact hpaths path hpath hmodels
  · -- two that start the same path: one of them starts the other
    rw [String.startsWith_string_iff] at hprefix
    exact hroots root hroot (List.prefix_or_prefix_of_prefix hprefix hmodels)

theorem ofPath?_of_isOpen {path : String} {resource : Resource} (h : isOpen path)
    (hpath : Resource.ofPath? path = some resource) :
    resource = .health ∨ resource = .description := by
  rcases Resource.ofPath?_cases hpath with hhealth | hdescription | hmodels
  · exact Or.inl hhealth
  · exact Or.inr hdescription
  · exact absurd hmodels (not_prefix_of_isOpen h)

/-! ## The guards -/

variable {a : Access} {r : ServiceRequest}

theorem blocks_iff (hkey : a.key ≠ "") :
    a.blocks r = true ↔ r.method ≠ "OPTIONS" ∧ isOpen r.path = false
      ∧ r.header? "x-api-key" ≠ some a.key := by
  simp [blocks, asksForKey, hkey, and_assoc]

/-- The keys of a request in ASCII can be compared with a key in ASCII. -/
theorem failsOnKey_eq_false (hkey : isAscii a.key) (hr : ∀ h ∈ r.headers, isAscii h.2) :
    a.failsOnKey r = false := by
  unfold failsOnKey
  split
  · next offered hoffered =>
      obtain ⟨h, hfind, rfl⟩ := Option.map_eq_some_iff.mp hoffered
      simp [hr h (List.mem_of_find?_eq_some hfind), hkey]
  · exact Bool.and_false _

/-- A key that is not in ASCII lets no request pass that offers one, be it the same. -/
theorem failsOnKey_of_not_isAscii (hkey : ¬ isAscii a.key) (hr : a.asksForKey r) {offered : String}
    (hoffered : r.header? "x-api-key" = some offered) (hne : offered ≠ "") :
    a.failsOnKey r = true := by
  simp [failsOnKey, hr, hoffered, hne, hkey]

end Access

/-! ## Requests that change nothing -/

namespace Service

variable {σ μ ν : Type} {v : Service σ μ ν} {r : ServiceRequest}

/-- A request that needs no key changes nothing. -/
theorem Step.eq_of_no_key {st st' : ServiceState σ μ ν} {response : Response}
    (h : Step v st r response st') (hr : r.method = "OPTIONS" ∨ Access.isOpen r.path) :
    st' = st := by
  have hresource : ∀ {resource}, Resource.ofPath? r.path = some resource → r.method ≠ "OPTIONS" →
      resource = .health ∨ resource = .description := fun hpath hmethod =>
    Access.ofPath?_of_isOpen (hr.resolve_left hmethod) hpath
  cases h with
  | kept => rfl
  | created hmethod hpath => simpa using hresource hpath (by simp [hmethod])
  | patched hmethod hpath => simpa using hresource hpath (by simp [hmethod])
  | deleted hmethod hpath => simpa using hresource hpath (by simp [hmethod])
  | solved hmethod hpath => simpa using hresource hpath (by simp [hmethod])

/-- A blocked request gets no further than the guard that asks for the key. -/
theorem carryOutGuarded_of_blocks (h : v.access.blocks r) (st : ServiceState σ μ ν) :
    v.carryOutGuarded st r
      = (if v.access.failsOnKey r then .crashed .mistyped else .unauthorized, st) := by
  rw [carryOutGuarded, if_pos h]
  split <;> rfl

theorem answer_of_blocks (h : v.access.blocks r) (st : ServiceState σ μ ν) :
    v.answer st r
      = ((if v.access.failsOnKey r then .crashed .mistyped else .unauthorized : Response).forMethod r.method,
        st) := by
  rw [answer, carryOutGuarded_of_blocks h]

/-- Requests that change nothing can be left out: the others are answered in the same way, and lead to
the same state. Induction on the requests. -/
theorem serve_filter (p : ServiceRequest → Bool)
    (hp : ∀ r st, p r = false → (v.answer st r).2 = st) (st : ServiceState σ μ ν)
    (rs : List ServiceRequest) :
    v.serve st (rs.filter p) = ((v.serve st rs).1.filter fun x => p x.1, (v.serve st rs).2) := by
  induction rs generalizing st with
  | nil => rfl
  | cons r rest ih =>
      cases hr : p r with
      | true => simp [serve, hr, ih]
      | false => simp [serve, hr, ih, hp r st hr]

end Service

end Rostering
