import Rostering.Proofs.Session.Run

/-!
# What the status of a session says

Whatever has been done with a store, the status of each of its sessions decides which of model,
solution and failure the session has, and a solution is always one of a model of the specification
as it is now (`status_decides`).

## The architecture

* **`sinceReset`** — the part of a history that counts for a session: what has happened since it
  was created, last patched, or last failed to be solved.
* **`Session.Sound`** — the ways in which status, model, solution and failure go together.
* **`Session.Backed`** — the invariant: the session is sound, and it keeps a model exactly if a
  solving has succeeded since the reset.
* **`Store.Step.backed`** — each step keeps the invariant; the rest is `Run.induction`.
-/

namespace Rostering

variable {σ ε μ ν : Type}

/-! ## The part of a history that counts -/

/-- The event is a successful solving of the session. -/
def Event.solves (id : String) : Event ε ν → Bool
  | ⟨.solve i, .ok _⟩ => i == id
  | _ => false

/-- The event is the creation of the session, a successful patch of it, or a failure to solve
it. -/
def Event.resets (id : String) : Event ε ν → Bool
  | ⟨.create _, .ok (.session i _)⟩ => i == id
  | ⟨.patch i _, .ok _⟩ => i == id
  | ⟨.solve i, .error _⟩ => i == id
  | _ => false

/-- The events after the latest reset of the session. -/
def sinceReset (id : String) (history : List (Event ε ν)) : List (Event ε ν) :=
  (history.reverse.takeWhile fun event => !event.resets id).reverse

/-- A solving of the session has succeeded since its latest reset. -/
def SolvedSinceReset (id : String) (history : List (Event ε ν)) : Prop :=
  ∃ event ∈ sinceReset id history, event.solves id

theorem sinceReset_concat (id : String) (history : List (Event ε ν)) (event : Event ε ν) :
    sinceReset id (history ++ [event])
      = if event.resets id then [] else sinceReset id history ++ [event] := by
  unfold sinceReset
  cases h : event.resets id <;> simp [h]

/-- After a reset nothing has been solved. -/
theorem not_solvedSinceReset_of_resets {id : String} {history : List (Event ε ν)}
    {event : Event ε ν} (h : event.resets id) :
    ¬ SolvedSinceReset id (history ++ [event]) := by
  simp [SolvedSinceReset, sinceReset_concat, h]

/-- After a success something has been solved. -/
theorem solvedSinceReset_of_solves {id : String} {history : List (Event ε ν)} {event : Event ε ν}
    (hsolves : event.solves id) (hresets : event.resets id = false) :
    SolvedSinceReset id (history ++ [event]) := by
  refine ⟨event, ?_, hsolves⟩
  simp [sinceReset_concat, hresets]

/-- Other events make no difference. -/
theorem solvedSinceReset_concat_iff {id : String} {history : List (Event ε ν)} {event : Event ε ν}
    (hsolves : event.solves id = false) (hresets : event.resets id = false) :
    SolvedSinceReset id (history ++ [event]) ↔ SolvedSinceReset id history := by
  simp [SolvedSinceReset, sinceReset_concat, hresets, or_and_right, exists_or, hsolves]

/-! ## What a session has -/

/-- The three ways in which status, model, solution and failure of a session go together, `made`
being the calls that the engine has answered. A model and a solution are there only together, and
then the model was made of the specification and the solution came of that model. -/
inductive Session.Sound (made : Call ε μ ν → Prop) (s : Session ε μ ν) : Prop where
  | fresh (hstate : s.state = .created ∨ s.state = .updated) (hmodel : s.model? = none)
      (hsolution : s.solution? = none) (herror : s.error? = none)
  | solved {m v} (hstate : s.state = .solved) (hmodel : s.model? = some m)
      (hsolution : s.solution? = some v) (herror : s.error? = none)
      (hbuild : made (.build s.spec (.ok m))) (hsolve : made (.solve m (.ok v)))
  | failed {reason} (hstate : s.state = .error) (hmodel : s.model? = none)
      (hsolution : s.solution? = none) (herror : s.error? = some reason)

/-- More calls do no harm. -/
theorem Session.Sound.mono {made made' : Call ε μ ν → Prop} {s : Session ε μ ν}
    (hmade : ∀ call, made call → made' call) (h : s.Sound made) : s.Sound made' := by
  cases h with
  | fresh hstate hmodel hsolution herror => exact .fresh hstate hmodel hsolution herror
  | solved hstate hmodel hsolution herror hbuild hsolve =>
      exact .solved hstate hmodel hsolution herror (hmade _ hbuild) (hmade _ hsolve)
  | failed hstate hmodel hsolution herror => exact .failed hstate hmodel hsolution herror

/-- A model that a sound session keeps was made of its specification. -/
theorem Session.Sound.made_build {made : Call ε μ ν → Prop} {s : Session ε μ ν} {m : μ}
    (h : s.Sound made) (hm : s.model? = some m) : made (.build s.spec (.ok m)) := by
  cases h with
  | fresh _ hmodel => simp [hmodel] at hm
  | solved _ hmodel _ _ hbuild =>
      rw [hmodel, Option.some.injEq] at hm
      exact hm ▸ hbuild
  | failed _ hmodel => simp [hmodel] at hm

theorem Session.Sound.of_new {made : Call ε μ ν → Prop} (spec : Specification) :
    (ofSpecification spec).Sound made :=
  .fresh (Or.inl rfl) rfl rfl rfl

theorem Session.Sound.of_failed {made : Call ε μ ν → Prop} (s : Session ε μ ν) (reason : ε)
    (builds : Nat) : Sound made { s.failed reason with builds := builds } :=
  .failed rfl rfl rfl rfl

theorem Session.Sound.of_updated {made : Call ε μ ν → Prop} (s : Session ε μ ν)
    (spec : Specification) : (s.updated spec).Sound made :=
  .fresh (Or.inr rfl) rfl rfl rfl

/-- What one solving with a recorded engine adds to the calls, and what that makes of the session:
it keeps a model exactly if it has been solved, and the engine is asked for a model exactly if none
was kept. -/
theorem Session.Solving.recorded {e : Engine σ ε μ ν} {s s' : Session ε μ ν}
    {w w' : σ × List (Call ε μ ν)} {result : Except ε ν}
    (h : s.Solving e.recorded w result s' w') (hs : s.Sound (· ∈ w.2)) :
    ∃ more, w'.2 = w.2 ++ more ∧ s'.Sound (· ∈ w'.2)
      ∧ (s'.model?.isSome ↔ ∃ v, result = .ok v)
      ∧ ((∃ spec made, .build spec made ∈ more) ↔ s.model? = none) := by
  cases h with
  | unbuilt hmodel hbuild =>
      simp only [Engine.recorded, Prod.mk.injEq] at hbuild
      obtain ⟨-, rfl⟩ := hbuild
      exact ⟨_, rfl, .of_failed s _ _, by simp [failed, invalidated], by simp [hmodel]⟩
  | builtFailed hmodel hbuild hsolve =>
      simp only [Engine.recorded, Prod.mk.injEq] at hbuild hsolve
      obtain ⟨-, rfl⟩ := hbuild
      obtain ⟨-, rfl⟩ := hsolve
      exact ⟨_, List.append_assoc _ _ _, .of_failed s _ _, by simp [failed, invalidated],
        by simp [hmodel]⟩
  | builtSolved hmodel hbuild hsolve =>
      simp only [Engine.recorded, Prod.mk.injEq] at hbuild hsolve
      obtain ⟨hbuilt, rfl⟩ := hbuild
      obtain ⟨hsolved, rfl⟩ := hsolve
      refine ⟨_, List.append_assoc _ _ _, ?_, by simp, by simp [hmodel]⟩
      exact .solved rfl rfl rfl rfl (by simp [hbuilt]) (by simp [hsolved])
  | keptFailed hmodel hsolve =>
      simp only [Engine.recorded, Prod.mk.injEq] at hsolve
      obtain ⟨-, rfl⟩ := hsolve
      exact ⟨_, rfl, .of_failed s _ _, by simp [failed, invalidated], by simp [hmodel]⟩
  | keptSolved hmodel hsolve =>
      simp only [Engine.recorded, Prod.mk.injEq] at hsolve
      obtain ⟨hsolved, rfl⟩ := hsolve
      refine ⟨_, rfl, ?_, by simp, by simp [hmodel]⟩
      -- the model is an old one, so it was made of this specification before
      exact .solved rfl rfl rfl rfl (List.mem_append_left _ (hs.made_build hmodel))
        (by simp [hsolved])

/-! ## What a history says -/

/-- A sound session that keeps a model exactly if it has been solved since its latest reset. -/
structure Session.Backed (id : String) (calls : List (Call ε μ ν)) (history : List (Event ε ν))
    (s : Session ε μ ν) : Prop where
  sound : s.Sound (· ∈ calls)
  keeps_iff : s.model?.isSome ↔ SolvedSinceReset id history

/-- An event that neither solves nor resets a session leaves it backed. -/
theorem Session.Backed.concat {id : String} {calls : List (Call ε μ ν)}
    {history : List (Event ε ν)} {event : Event ε ν} {s : Session ε μ ν} (more : List (Call ε μ ν))
    (h : s.Backed id calls history) (hsolves : event.solves id = false)
    (hresets : event.resets id = false) : s.Backed id (calls ++ more) (history ++ [event]) where
  sound := h.sound.mono fun _ hcall => List.mem_append_left more hcall
  keeps_iff := h.keeps_iff.trans (solvedSinceReset_concat_iff hsolves hresets).symm

/-- A sound session without a model is backed right after a reset. -/
theorem Session.Backed.of_resets {id : String} {calls : List (Call ε μ ν)}
    {history : List (Event ε ν)} {event : Event ε ν} {s : Session ε μ ν} (hsound : s.Sound (· ∈ calls))
    (hmodel : s.model? = none) (hresets : event.resets id) :
    s.Backed id calls (history ++ [event]) where
  sound := hsound
  keeps_iff := by
    have hnot : ¬ SolvedSinceReset id (history ++ [event]) :=
      not_solvedSinceReset_of_resets hresets
    simp [hmodel, hnot]

/-! ## Steps and runs -/

variable [StoreFailure ε]

/-- Every session of a store is backed. -/
def Store.Backed (t : Store ε μ ν) (calls : List (Call ε μ ν)) (history : List (Event ε ν)) : Prop :=
  ∀ id s, t.sessions.find? id = some s → s.Backed id calls history

/-- Each step of a store keeps its sessions backed. One case for each kind of step. Calls are only
added, so whatever was backed by one stays so. -/
theorem Store.Step.backed {e : Engine σ ε μ ν} {t t' : Store ε μ ν} {w w' : σ × List (Call ε μ ν)}
    {event : Event ε ν} {history : List (Event ε ν)} (h : t.Step e.recorded w event t' w')
    (ht : t.Backed w.2 history) : t'.Backed w'.2 (history ++ [event]) := by
  intro id s hs
  -- the calls stay the same in all steps but a solving
  have hconcat : t.sessions.find? id = some s → event.solves id = false →
      event.resets id = false → s.Backed id w.2 (history ++ [event]) := by
    intro hold hsolves hresets
    simpa using (ht id s hold).concat [] hsolves hresets
  cases h with
  | @missing op i hop hi =>
      have hid : i ≠ id := by
        rintro rfl
        simp [hi] at hs
      refine hconcat hs (by cases op <;> rfl) ?_
      cases op <;> simp_all [Event.resets, Operation.target?]
  | created spec =>
      rw [find?_create] at hs
      by_cases hid : id = (t.create spec).1
      · rw [if_pos hid, Option.some.injEq] at hs
        subst hs
        exact .of_resets (.of_new spec) rfl (by simp [Event.resets, hid])
      · rw [if_neg hid] at hs
        exact hconcat hs rfl (by simpa [Event.resets] using Ne.symm hid)
  | @patched i ps s₀ spec hs₀ hps =>
      rw [find?_put] at hs
      by_cases hid : id = i
      · rw [if_pos hid, Option.some.injEq] at hs
        subst hs
        exact .of_resets (.of_updated s₀ spec) rfl (by simp [Event.resets, hid])
      · rw [if_neg hid] at hs
        exact hconcat hs rfl (by simpa [Event.resets] using Ne.symm hid)
  | @solved i s₀ result s' w' hs₀ hsolving =>
      obtain ⟨more, hmore, hsound, hkeeps, -⟩ := hsolving.recorded (ht i s₀ hs₀).sound
      rw [find?_put] at hs
      by_cases hid : id = i
      · rw [if_pos hid, Option.some.injEq] at hs
        subst hs hid
        cases result with
        -- a success is a solving, a failure is a reset
        | ok v =>
            have hsolved : SolvedSinceReset id
                (history ++ [(⟨.solve id, .ok (.solution v)⟩ : Event ε ν)]) :=
              solvedSinceReset_of_solves (by simp [Event.solves]) rfl
            exact ⟨hsound, iff_of_true (hkeeps.mpr ⟨v, rfl⟩) hsolved⟩
        | error reason =>
            exact .of_resets hsound (by simpa using hkeeps) (by simp [Event.resets, Except.map])
      · rw [if_neg hid] at hs
        rw [hmore]
        have hne : (i == id) = false := by simpa using Ne.symm hid
        cases result with
        | ok v => exact (ht id s hs).concat more hne rfl
        | error reason => exact (ht id s hs).concat more rfl hne
  | @deleted i s₀ hs₀ =>
      -- a session that is still there is another one
      rw [Named.find?_erase] at hs
      by_cases hid : id = i
      · simp [hid] at hs
      · rw [if_neg hid] at hs
        exact hconcat hs rfl rfl
  | _ => exact hconcat hs rfl rfl

/-- In every run with a recorded engine the sessions are backed by the calls and the history. -/
theorem Run.backed_of (e : Engine σ ε μ ν) (w : σ) (ops : List Operation) :
    (of e.recorded (w, []) ops).store.Backed (of e.recorded (w, []) ops).world.2
      (of e.recorded (w, []) ops).history := by
  refine induction e.recorded (w, [])
    (fun r => r.store.Backed r.world.2 r.history) ?_ ?_ ops
  · intro id s hs
    simp [start, Store.empty] at hs
  · intro r op hr
    exact (r.store.perform_step e.recorded r.world op).backed hr

/-! ## The status -/

/-- What the status of a session says about the rest of it, `calls` being what the engine has been
asked so far. -/
structure Session.StatusDecides (calls : List (Call ε μ ν)) (s : Session ε μ ν) : Prop where
  known : s.status = "created" ∨ s.status = "updated" ∨ s.status = "solved" ∨ s.status = "error"
  fresh : s.status = "created" ∨ s.status = "updated" →
    s.model? = none ∧ s.solution? = none ∧ s.error? = none
  solved : s.status = "solved" → s.error? = none ∧ ∃ m v, s.model? = some m
    ∧ s.solution? = some v ∧ .build s.spec (.ok m) ∈ calls ∧ .solve m (.ok v) ∈ calls
  failed : s.status = "error" → s.model? = none ∧ s.solution? = none ∧ s.error?.isSome

omit [StoreFailure ε] in
theorem Session.Sound.statusDecides {calls : List (Call ε μ ν)} {s : Session ε μ ν}
    (h : s.Sound (· ∈ calls)) : s.StatusDecides calls := by
  cases h with
  | fresh hstate hmodel hsolution herror =>
      rcases hstate with hstate | hstate <;> constructor <;>
        simp [status, Status.name, hstate, hmodel, hsolution, herror]
  | solved hstate hmodel hsolution herror hbuild hsolve =>
      constructor <;>
        simp [status, Status.name, hstate, hmodel, hsolution, herror, hbuild, hsolve]
  | failed hstate hmodel hsolution herror =>
      constructor <;> simp [status, Status.name, hstate, hmodel, hsolution, herror]

/-- There is a solution of a sound session exactly if the status says so. -/
theorem Store.solution_isOk_iff {made : Call ε μ ν → Prop} {t : Store ε μ ν} {id : String}
    {s : Session ε μ ν} (hs : t.sessions.find? id = some s) (hsound : s.Sound made) :
    (∃ v, t.solution id = .ok v) ↔ s.status = "solved" := by
  have hget : t.get id = .ok s := get_of_find? hs
  have hsolution : (∃ v, t.solution id = .ok v) ↔ s.solution?.isSome := by
    cases h : s.solution? <;>
      simp [solution, hget, h, bind, Except.bind, pure, Except.pure, throw, throwThe,
        MonadExceptOf.throw]
  rw [hsolution]
  cases hsound with
  | fresh hstate _ hnone =>
      rcases hstate with hstate | hstate <;> simp [hnone, Session.status, Status.name, hstate]
  | solved hstate _ hsome => simp [hsome, Session.status, Status.name, hstate]
  | failed hstate _ hnone => simp [hnone, Session.status, Status.name, hstate]

/-- Solving a backed session asks for a model exactly if it has not been solved since its latest
reset. -/
theorem Store.solve_builds_iff {e : Engine σ ε μ ν} {t : Store ε μ ν} {w : σ × List (Call ε μ ν)}
    {history : List (Event ε ν)} {id : String} {s : Session ε μ ν}
    (hs : t.sessions.find? id = some s) (hbacked : s.Backed id w.2 history) :
    ∃ more, (t.solve e.recorded id w).2.2.2 = w.2 ++ more
      ∧ ((∃ spec made, .build spec made ∈ more) ↔ ¬ SolvedSinceReset id history) := by
  obtain ⟨more, hmore, -, -, hbuilds⟩ :=
    (s.solve_solving e.recorded w).recorded hbacked.sound
  refine ⟨more, ?_, ?_⟩
  · simpa [solve, get_of_find? hs] using hmore
  · rw [hbuilds, ← hbacked.keeps_iff]
    cases s.model? <;> simp

/-- An engine that numbers the models it makes, and solves each of them to its number. -/
def countingEngine : Engine Nat Failure Nat Nat := ⟨fun _ n => (.ok n, n + 1), fun m n => (.ok m, n)⟩

end Rostering
