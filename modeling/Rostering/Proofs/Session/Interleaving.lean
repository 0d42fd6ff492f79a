import Rostering.Proofs.Session.Independence

/-!
# Requests that overlap

Requests on a store may be served at the same time. To create or delete a session takes one step.
Any other request takes two: the session is looked up, and then the action is carried out on the
session that was found, even if it has been deleted meanwhile. The steps of all requests happen in
some order, the schedule.

## The architecture

* **`Race`**, **`Race.of`** — sessions in memory, the table in which they are looked up, how far each
  request has got, and where a schedule leads.
* **`Race.Step`** — what one step can do, one constructor for each kind of step.
* **`Race.Sound`** — the invariant of a schedule: ids tell where their sessions stand, and whoever
  has found a session looked it up before it was deleted.
* **`Race.single_build`** — while a session is not patched and no solving of it fails, at most one
  model is built of it.
-/

namespace Rostering

variable {ι ε μ ν : Type}
variable [StoreFailure ε]

open StoreFailure (own)

theorem Store.idOf_inj {m n : Nat} : Store.idOf m = Store.idOf n ↔ m = n := by
  constructor
  · intro h
    rw [Store.idOf, Store.idOf, String.append_right_inj] at h
    exact Nat.repr_injective h
  · rintro rfl
    rfl

/-! ## Models made of a session -/

/-- How many models will have been made of a session once it has been solved. -/
def Session.buildsOnceSolved (s : Session ε μ ν) : Nat :=
  s.builds + if s.model?.isSome then 0 else 1

/-- Neither a patch that succeeds nor a solving that fails. -/
def Action.Keeps : Action → Except ε (Answer ε ν) → Prop
  | .patch _, .ok _ => False
  | .solve, .error _ => False
  | _, _ => True

/-- Solving makes the model that is missing, and other actions that keep it make none. -/
theorem Session.buildsOnceSolved_act {σ : Type} {e : Engine σ ε μ ν} {id : String}
    {s : Session ε μ ν} {w : σ} {a : Action} (h : a.Keeps (s.act e id w a).1) :
    ((s.act e id w a).2.1.getD s).buildsOnceSolved = s.buildsOnceSolved := by
  cases a with
  | get | delete => rfl
  | solution =>
      unfold act
      cases s.solution? <;> rfl
  | patch ps =>
      cases hps : s.patch ps with
      | error reason => simp only [act, hps, Option.getD_some]
      | ok s' => simp [act, hps, Action.Keeps] at h
  | solve =>
      have hsolving := s.solve_solving e w
      simp only [act, Option.getD_some] at h ⊢
      generalize s.solve e w = outcome at h hsolving ⊢
      obtain ⟨result, s', w'⟩ := outcome
      -- solving that succeeds made a model or had one; the failures are no way to keep it
      cases hsolving with
      | builtSolved hmodel => simp [buildsOnceSolved, hmodel]
      | keptSolved hmodel => simp [buildsOnceSolved, hmodel]
      | _ => exact h.elim

/-! ## Requests and their steps -/

/-- What is asked of a store while others ask as well. -/
inductive StoreRequest where
  | create (spec : Specification)
  | on (id : String) (a : Action)

/-- The operation that a request asks for. -/
def StoreRequest.operation : StoreRequest → Operation
  | .create spec => .create spec
  | .on id a => a.on id

/-- The steps that a request takes at most. -/
def StoreRequest.steps : StoreRequest → Nat
  | .create _ => 1
  | .on _ .delete => 1
  | .on _ _ => 2

theorem StoreRequest.steps_pos (q : StoreRequest) : 0 < q.steps := by
  unfold steps
  split <;> decide

theorem StoreRequest.steps_on {id : String} {a : Action} (ha : a ≠ .delete) :
    (on id a).steps = 2 := by
  cases a with
  | delete => exact absurd rfl ha
  | _ => rfl

/-- How far a request has got. A place is where a session stands in memory. -/
inductive Stage (ε ν : Type) where
  | waiting
  /-- The session has been found, and what is asked for is still to be done to it. -/
  | found (id : String) (a : Action) (place : Nat)
  | answered (place? : Option Nat) (answer : Except ε (Answer ε ν))

/-- How many steps a request has taken that has got this far. Once it is answered, any further ones
do nothing. -/
def Stage.Took : Stage ε ν → Nat → Prop
  | .waiting, n => n = 0
  | .found _ _ _, n => n = 1
  | .answered _ _, n => 0 < n

/-- Sessions in use by several requests. -/
structure Race (ι ε μ ν : Type) where
  /-- All sessions that there have been, oldest first. -/
  memory : List (Session ε μ ν)
  /-- The places of the sessions that can be found. -/
  table : Named Nat
  progress : ι → Stage ε ν

namespace Race

/-- Nothing has happened yet. -/
def start : Race ι ε μ ν := ⟨[], .empty, fun _ => .waiting⟩

/-- The session of an id, if it can be found. -/
def find? (r : Race ι ε μ ν) (id : String) : Option (Session ε μ ν) :=
  (r.table.find? id).bind fun place => r.memory[place]?

variable [DecidableEq ι]

/-- A request is answered; `place?` is where the session stands that it is about. -/
def answer (r : Race ι ε μ ν) (i : ι) (place? : Option Nat) (a : Except ε (Answer ε ν)) :
    Race ι ε μ ν :=
  { r with progress := Function.update r.progress i (.answered place? a) }

/-- The next step of a request. -/
def step (e : Engine Unit ε μ ν) (requests : ι → StoreRequest) (r : Race ι ε μ ν) (i : ι) :
    Race ι ε μ ν :=
  match r.progress i with
  | .waiting =>
    match requests i with
    | .create spec =>
      let s := Session.ofSpecification spec
      let id := Store.idOf (r.memory.length + 1)
      { r with
        memory := r.memory ++ [s]
        table := r.table.insert id r.memory.length }.answer i (some r.memory.length)
          (.ok (.session id s.view))
    | .on id a =>
      match r.table.find? id with
      | none => r.answer i none (.error (own (.noSession id)))
      | some place =>
        match a with
        | .delete => { r with table := r.table.erase id }.answer i (some place) (.ok .deleted)
        | a => { r with progress := Function.update r.progress i (.found id a place) }
  | .found id a place =>
    match r.memory[place]? with
    | none => r
    | some s =>
      let (answer, left?, _) := s.act e id () a
      { r with memory := r.memory.set place (left?.getD s) }.answer i (some place) answer
  | .answered _ _ => r

/-- Where a schedule leads from an empty store. -/
def of (e : Engine Unit ε μ ν) (requests : ι → StoreRequest) (schedule : List ι) : Race ι ε μ ν :=
  schedule.foldl (step e requests) start

/-- What one step can do. -/
inductive Step (e : Engine Unit ε μ ν) (requests : ι → StoreRequest) (r : Race ι ε μ ν) (i : ι) :
    Race ι ε μ ν → Prop where
  | created {spec} (hi : r.progress i = .waiting) (hreq : requests i = .create spec) :
      Step e requests r i ({ r with
        memory := r.memory ++ [Session.ofSpecification spec]
        table := r.table.insert (Store.idOf (r.memory.length + 1)) r.memory.length }.answer i
          (some r.memory.length) (.ok (.session (Store.idOf (r.memory.length + 1))
            (Session.ofSpecification spec : Session ε μ ν).view)))
  | missing {id a} (hi : r.progress i = .waiting) (hreq : requests i = .on id a)
      (hplace : r.table.find? id = none) :
      Step e requests r i (r.answer i none (.error (own (.noSession id))))
  | deleted {id place} (hi : r.progress i = .waiting) (hreq : requests i = .on id .delete)
      (hplace : r.table.find? id = some place) :
      Step e requests r i
        ({ r with table := r.table.erase id }.answer i (some place) (.ok .deleted))
  | found {id a place} (hi : r.progress i = .waiting) (hreq : requests i = .on id a)
      (ha : a ≠ .delete) (hplace : r.table.find? id = some place) :
      Step e requests r i
        { r with progress := Function.update r.progress i (.found id a place) }
  | acted {id a place s} (hi : r.progress i = .found id a place) (hs : r.memory[place]? = some s) :
      Step e requests r i
        ({ r with memory := r.memory.set place ((s.act e id () a).2.1.getD s) }.answer i
          (some place) (s.act e id () a).1)
  | lost {id a place} (hi : r.progress i = .found id a place) (hs : r.memory[place]? = none) :
      Step e requests r i r
  | done {place? a} (hi : r.progress i = .answered place? a) : Step e requests r i r

/-- Every step is one of the kinds. -/
theorem step_step (e : Engine Unit ε μ ν) (requests : ι → StoreRequest) (r : Race ι ε μ ν) (i : ι) :
    Step e requests r i (r.step e requests i) := by
  unfold step
  -- the step depends on how far the request has got, and then on what it finds there
  cases hi : r.progress i with
  | answered place? a => exact .done hi
  | found id a place =>
      cases hs : r.memory[place]? with
      | none => simpa [hs] using Step.lost hi hs
      | some s => simpa [hs] using Step.acted hi hs
  | waiting =>
      cases hreq : requests i with
      | create spec => exact Step.created hi hreq
      | on id a =>
          cases hplace : r.table.find? id with
          | none => simpa [hplace] using Step.missing hi hreq hplace
          | some place =>
              cases a with
              | delete => simpa [hplace] using Step.deleted hi hreq hplace
              | _ => simpa [hplace] using Step.found hi hreq nofun hplace

section Schedules

variable {e : Engine Unit ε μ ν} {requests : ι → StoreRequest}

theorem of_append (schedule : List ι) (i : ι) :
    of e requests (schedule ++ [i]) = (of e requests schedule).step e requests i := by
  rw [of, List.foldl_append]
  rfl

omit [StoreFailure ε] in
@[simp] theorem progress_answer (r : Race ι ε μ ν) (i j : ι) (place? : Option Nat)
    (a : Except ε (Answer ε ν)) :
    (r.answer i place? a).progress j = if j = i then .answered place? a else r.progress j :=
  Function.update_apply r.progress i _ j

omit [StoreFailure ε] in
@[simp] theorem memory_answer (r : Race ι ε μ ν) (i : ι) (place? : Option Nat)
    (a : Except ε (Answer ε ν)) : (r.answer i place? a).memory = r.memory := rfl

omit [StoreFailure ε] in
@[simp] theorem table_answer (r : Race ι ε μ ν) (i : ι) (place? : Option Nat)
    (a : Except ε (Answer ε ν)) : (r.answer i place? a).table = r.table := rfl

/-- Only the request that takes the step gets further. -/
theorem Step.progress_of_ne {r r' : Race ι ε μ ν} {i j : ι} (h : Step e requests r i r')
    (hj : j ≠ i) : r'.progress j = r.progress j := by
  cases h with
  | lost | done => rfl
  | found => exact Function.update_of_ne hj _ _
  | _ => exact (progress_answer ..).trans (if_neg hj)

/-- No session leaves memory. -/
theorem Step.length_le {r r' : Race ι ε μ ν} {i : ι} (h : Step e requests r i r') :
    r.memory.length ≤ r'.memory.length := by
  cases h with
  | created => simp
  | acted => simp
  | _ => exact le_rfl

/-- A session that can be found after a step could be found before, or is the newest one. -/
theorem Step.table_eq {r r' : Race ι ε μ ν} {i : ι} (h : Step e requests r i r') {id : String}
    {place : Nat} (hplace : r'.table.find? id = some place) :
    r.table.find? id = some place
      ∨ id = Store.idOf (place + 1) ∧ place < r'.memory.length := by
  -- only a creation and a deletion write to the table
  cases h with
  | created hi hreq =>
      simp only [table_answer, Named.find?_insert] at hplace
      split at hplace
      · next hid =>
          cases hplace
          exact Or.inr ⟨hid, by simp⟩
      · exact Or.inl hplace
  | deleted hi hreq hfound =>
      simp only [table_answer, Named.find?_erase] at hplace
      split at hplace
      · cases hplace
      · exact Or.inl hplace
  | _ => exact Or.inl hplace

/-- An id that cannot be found after a step could not be found before, or has just been deleted. -/
theorem Step.table_ne {r r' : Race ι ε μ ν} {i : ι} (h : Step e requests r i r') {id : String}
    (hid : r.table.find? id = none) (hnew : id ≠ Store.idOf (r.memory.length + 1)) :
    r'.table.find? id = none := by
  cases h with
  | created => simpa [Named.find?_insert, hnew] using hid
  | deleted => simp [Named.find?_erase, hid]
  | _ => exact hid

/-- A request that has found a session after a step had found it before, or finds it now. -/
theorem Step.found_cases {r r' : Race ι ε μ ν} {i j : ι} (h : Step e requests r i r') {id : String}
    {a : Action} {place : Nat} (hj : r'.progress j = .found id a place) :
    r.progress j = .found id a place
      ∨ requests j = .on id a ∧ a ≠ .delete ∧ r.table.find? id = some place
        ∧ r'.table = r.table ∧ j = i := by
  by_cases hji : j = i
  · subst hji
    -- the step is the request's own: it has just looked up its session
    cases h with
    | found hi hreq ha hplace =>
        simp only [Function.update_self, Stage.found.injEq] at hj
        obtain ⟨rfl, rfl, rfl⟩ := hj
        exact Or.inr ⟨hreq, ha, hplace, rfl, rfl⟩
    | lost | done => exact Or.inl hj
    | _ => simp at hj
  · rw [h.progress_of_ne hji] at hj
    exact Or.inl hj

/-! ## Answers and their order -/

/-- The request has been answered. -/
def Finished (r : Race ι ε μ ν) (i : ι) : Prop := ∃ place? a, r.progress i = .answered place? a

/-- An answer is final. -/
theorem progress_answered_append {i : ι} {place? : Option Nat} {a : Except ε (Answer ε ν)}
    {before : List ι} (h : (of e requests before).progress i = .answered place? a)
    (after : List ι) : (of e requests (before ++ after)).progress i = .answered place? a := by
  induction after using List.reverseRecOn with
  | nil => rwa [List.append_nil]
  | append_singleton after j ih =>
      rw [← List.append_assoc, of_append]
      by_cases hj : i = j
      · subst hj
        rw [step, ih]
        exact ih
      · rw [(step_step e requests _ j).progress_of_ne hj, ih]

theorem Finished.append {i : ι} {before : List ι} (h : (of e requests before).Finished i)
    (after : List ι) : (of e requests (before ++ after)).Finished i := by
  obtain ⟨place?, a, ha⟩ := h
  exact ⟨place?, a, progress_answered_append ha after⟩

/-- At some moment one request had been answered and the other had not been looked at: they do not
overlap. -/
def Precedes (e : Engine Unit ε μ ν) (requests : ι → StoreRequest) (schedule : List ι)
    (i j : ι) : Prop :=
  ∃ before after, schedule = before ++ after ∧ (of e requests before).Finished i ∧ j ∉ before

theorem Precedes.finished {schedule : List ι} {i j : ι}
    (h : Precedes e requests schedule i j) : (of e requests schedule).Finished i := by
  obtain ⟨before, after, rfl, hi, -⟩ := h
  exact hi.append after

/-- What precedes a request is settled with its first step. -/
theorem precedes_append_iff {schedule : List ι} {i j k : ι} (hj : j ∈ schedule ++ [k]) :
    Precedes e requests (schedule ++ [k]) i j ↔ Precedes e requests schedule i j := by
  constructor
  · rintro ⟨before, after, hsplit, hi, hbefore⟩
    rcases List.eq_nil_or_concat after with rfl | ⟨rest, l, rfl⟩
    · -- the moment is not the end, for by then the request has started
      rw [List.append_nil] at hsplit
      exact absurd (hsplit ▸ hj) hbefore
    · rw [List.concat_eq_append, ← List.append_assoc] at hsplit
      exact ⟨before, rest, (List.append_inj' hsplit rfl).1, hi, hbefore⟩
  · rintro ⟨before, after, rfl, hi, hbefore⟩
    exact ⟨before, after ++ [k], List.append_assoc .., hi, hbefore⟩

/-! ## The invariant of a schedule -/

/-- What a schedule leads to: the id of a session tells where it stands, requests have got as far as
their steps take them, a deleted session is not found again, and whoever found it had started
before it was deleted. -/
structure Sound (e : Engine Unit ε μ ν) (requests : ι → StoreRequest) (schedule : List ι) :
    Prop where
  placed : ∀ {id place}, (of e requests schedule).table.find? id = some place →
    id = Store.idOf (place + 1) ∧ place < (of e requests schedule).memory.length
  found : ∀ {i id a place}, (of e requests schedule).progress i = .found id a place →
    requests i = .on id a ∧ a ≠ .delete ∧ id = Store.idOf (place + 1)
      ∧ place < (of e requests schedule).memory.length
  took : ∀ i, ((of e requests schedule).progress i).Took (schedule.count i)
  gone : ∀ {d id place?}, requests d = .on id .delete →
    (of e requests schedule).progress d = .answered place? (.ok .deleted) →
    (of e requests schedule).table.find? id = none
      ∧ ∃ place, id = Store.idOf (place + 1) ∧ place < (of e requests schedule).memory.length
  inTime : ∀ {i id a place d place?}, (of e requests schedule).progress i = .found id a place →
    requests d = .on id .delete →
    (of e requests schedule).progress d = .answered place? (.ok .deleted) →
    ¬ Precedes e requests schedule d i

theorem sound_nil : Sound e requests ([] : List ι) where
  placed h := by simp [of, start] at h
  found h := by simp [of, start] at h
  took i := rfl
  gone _ h := by simp [of, start] at h
  inTime h := by simp [of, start] at h

namespace Sound

variable {schedule : List ι} {i : ι}

/-- A request that has got anywhere has taken a step. -/
theorem mem_of_progress_ne (h : Sound e requests schedule)
    (hi : (of e requests schedule).progress i ≠ .waiting) : i ∈ schedule := by
  have htook := h.took i
  cases hp : (of e requests schedule).progress i with
  | waiting => exact absurd hp hi
  | found id a place =>
      rw [hp] at htook
      exact List.count_pos_iff.mp (by rw [show schedule.count i = 1 from htook]; omega)
  | answered place? a =>
      rw [hp] at htook
      exact List.count_pos_iff.mp htook

/-- A request is answered once it has taken its steps. -/
theorem finished_of_steps_le (h : Sound e requests schedule)
    (hi : (requests i).steps ≤ schedule.count i) : (of e requests schedule).Finished i := by
  have htook := h.took i
  -- a request that waits has taken no step, and one that has found its session has taken one
  cases hp : (of e requests schedule).progress i with
  | waiting =>
      rw [hp] at htook
      have hnone : schedule.count i = 0 := htook
      have := (requests i).steps_pos
      omega
  | found id a place =>
      rw [hp] at htook
      have hone : schedule.count i = 1 := htook
      obtain ⟨hreq, ha, -⟩ := h.found hp
      rw [hreq, StoreRequest.steps_on ha] at hi
      omega
  | answered place? a => exact ⟨place?, a, hp⟩

/-- A request for a deletion is answered with its first step. -/
theorem finished_of_delete (h : Sound e requests schedule) {d : ι} {id : String}
    (hreq : requests d = .on id .delete) (hd : d ∈ schedule) :
    (of e requests schedule).Finished d :=
  h.finished_of_steps_le (by rw [hreq]; exact List.count_pos_iff.mpr hd)

/-- A request for a deletion that is answered after a step had been answered before, or has just
found the session and deleted it. -/
theorem deleted_cases (h : Sound e requests schedule) {r' : Race ι ε μ ν}
    (hstep : Step e requests (of e requests schedule) i r') {d : ι} {id : String}
    {place? : Option Nat} (hreq : requests d = .on id .delete)
    (hd : r'.progress d = .answered place? (.ok .deleted)) :
    (of e requests schedule).progress d = .answered place? (.ok .deleted)
      ∨ ∃ place, (of e requests schedule).table.find? id = some place
        ∧ (of e requests schedule).progress d = .waiting ∧ r'.table.find? id = none ∧ d = i := by
  by_cases hdi : d = i
  · subst hdi
    -- of the steps of this request, only the deletion itself gives the answer
    cases hstep with
    | created hi hreq' => simp [hreq] at hreq'
    | missing => simp at hd
    | @deleted id' place hi hreq' hplace =>
        rw [hreq] at hreq'
        cases hreq'
        exact Or.inr ⟨place, hplace, hi, by simp [Named.find?_erase], rfl⟩
    | found => simp at hd
    | acted hi =>
        obtain ⟨hreq', ha, -⟩ := h.found hi
        rw [hreq] at hreq'
        cases hreq'
        exact absurd rfl ha
    | lost | done => exact Or.inl hd
  · rw [hstep.progress_of_ne hdi] at hd
    exact Or.inl hd

/-- Each step is counted for the request that takes it. Once it is answered, further steps only add
to the count. -/
theorem took_append (h : Sound e requests schedule) (i j : ι) :
    ((of e requests (schedule ++ [i])).progress j).Took ((schedule ++ [i]).count j) := by
  have hstep := step_step e requests (of e requests schedule) i
  rw [← of_append] at hstep
  have htook := h.took j
  rw [List.count_append]
  by_cases hji : j = i
  · subst hji
    rw [List.count_singleton_self]
    generalize of e requests (schedule ++ [j]) = r' at hstep ⊢
    cases hstep with
    | found hi =>
        rw [hi] at htook
        simp only [Function.update_self, Stage.Took]
        rw [show schedule.count j = 0 from htook]
    | lost hi hs =>
        -- what has been found is in memory
        obtain ⟨-, -, -, hlt⟩ := h.found hi
        exact absurd (List.getElem?_eq_none_iff.mp hs) (by omega)
    | done hi =>
        rw [hi]
        exact Nat.succ_pos _
    | _ =>
        rw [progress_answer, if_pos rfl]
        exact Nat.succ_pos _
  · rw [hstep.progress_of_ne hji, List.count_singleton, if_neg (by simpa using Ne.symm hji)]
    exact htook

/-- The steps of a schedule keep the invariant. One case for each kind of step; the ids are the
numbers of the places in memory, and these only grow. -/
theorem append (h : Sound e requests schedule) (i : ι) :
    Sound e requests (schedule ++ [i]) := by
  have hstep := step_step e requests (of e requests schedule) i
  rw [← of_append] at hstep
  have hle := hstep.length_le
  -- a request that had found its session or deleted it had taken a step
  have hmem : ∀ {j}, (of e requests schedule).progress j ≠ .waiting → j ∈ schedule ++ [i] :=
    fun hj => List.mem_append_left _ (h.mem_of_progress_ne hj)
  exact {
    placed := by
      intro id place hplace
      rcases hstep.table_eq hplace with hold | hnew
      · obtain ⟨hid, hlt⟩ := h.placed hold
        exact ⟨hid, by omega⟩
      · exact hnew
    found := by
      intro j id a place hj
      rcases hstep.found_cases hj with hold | ⟨hreq, ha, hplace, -, -⟩
      · obtain ⟨hreq, ha, hid, hlt⟩ := h.found hold
        exact ⟨hreq, ha, hid, by omega⟩
      · obtain ⟨hid, hlt⟩ := h.placed hplace
        exact ⟨hreq, ha, hid, by omega⟩
    took := h.took_append i
    gone := by
      intro d id place? hreq hd
      rcases h.deleted_cases hstep hreq hd with hold | ⟨place, hplace, -, hnone, -⟩
      · -- ids are not given twice, so a deleted one does not come back
        obtain ⟨hnone, place, hid, hlt⟩ := h.gone hreq hold
        refine ⟨hstep.table_ne hnone fun hnew => ?_, place, hid, by omega⟩
        have := Store.idOf_inj.mp (hid.symm.trans hnew)
        omega
      · obtain ⟨hid, hlt⟩ := h.placed hplace
        exact ⟨hnone, place, hid, by omega⟩
    inTime := by
      intro j id a place d place? hj hreq hd hprec
      rcases hstep.found_cases hj with hold | ⟨-, -, hplace, htable, -⟩
      · rw [precedes_append_iff (hmem (by simp [hold]))] at hprec
        rcases h.deleted_cases hstep hreq hd with hdold | ⟨-, -, hwaiting, -, -⟩
        · exact h.inTime hold hreq hdold hprec
        · -- the deletion is answered now, so it precedes no request that has started
          obtain ⟨place', a', hfinished⟩ := hprec.finished
          simp [hwaiting] at hfinished
      · -- the session is found now, so it has not been deleted
        rcases h.deleted_cases hstep hreq hd with hdold | ⟨-, -, -, hnone, -⟩
        · simp [(h.gone hreq hdold).1] at hplace
        · simp [htable, hplace] at hnone }

end Sound

/-- The invariant holds of every schedule. -/
theorem sound (e : Engine Unit ε μ ν) (requests : ι → StoreRequest) (schedule : List ι) :
    Sound e requests schedule := by
  induction schedule using List.reverseRecOn with
  | nil => exact sound_nil
  | append_singleton schedule i ih => exact ih.append i

/-! ## One model for many -/

/-- A step changes a session in memory only by the action that it answers. -/
theorem Step.memory_cases {r r' : Race ι ε μ ν} {i : ι} (h : Step e requests r i r') {place : Nat}
    {s : Session ε μ ν} (hs : r.memory[place]? = some s) :
    r'.memory[place]? = some s
      ∨ ∃ id a, r.progress i = .found id a place
        ∧ r'.progress i = .answered (some place) (s.act e id () a).1
        ∧ r'.memory[place]? = some ((s.act e id () a).2.1.getD s) := by
  obtain ⟨hlt, -⟩ := List.getElem?_eq_some_iff.mp hs
  -- a creation puts its session behind the others, and an action replaces the one that it was
  -- carried out on
  cases h with
  | created => exact Or.inl (by simpa [List.getElem?_append_left hlt] using hs)
  | @acted id a place' s' hi hs' =>
      by_cases hplace : place' = place
      · subst hplace
        rw [hs] at hs'
        cases hs'
        exact Or.inr ⟨id, a, hi, by simp, by simp [hlt]⟩
      · exact Or.inl (by simpa [List.getElem?_set_ne hplace] using hs)
  | _ => exact Or.inl hs

/-- During a part of a schedule the session in one place is neither patched successfully nor fails
to be solved. -/
def Undisturbed (e : Engine Unit ε μ ν) (requests : ι → StoreRequest) (before during : List ι)
    (place : Nat) : Prop :=
  ∀ i id a answer, requests i = .on id a → ¬ (of e requests before).Finished i →
    (of e requests (before ++ during)).progress i = .answered (some place) answer →
    a.Keeps answer

/-- As long as a session is undisturbed, it stays as many models away from being solved. Induction
on the schedule, last step first. -/
theorem buildsOnceSolved_of_undisturbed {before during : List ι} {place : Nat} {s : Session ε μ ν}
    (hs : (of e requests before).memory[place]? = some s)
    (h : Undisturbed e requests before during place) :
    ∃ s', (of e requests (before ++ during)).memory[place]? = some s'
      ∧ s'.buildsOnceSolved = s.buildsOnceSolved := by
  induction during using List.reverseRecOn with
  | nil => exact ⟨s, by rwa [List.append_nil], rfl⟩
  | append_singleton during j ih =>
      rw [Undisturbed, ← List.append_assoc] at h
      obtain ⟨s', hs', hbuilds⟩ := ih fun i id a answer hreq hi hanswer =>
        h i id a answer hreq hi (progress_answered_append hanswer [j])
      have hstep := step_step e requests (of e requests (before ++ during)) j
      rw [← of_append] at hstep
      rw [← List.append_assoc]
      rcases hstep.memory_cases hs' with hsame | ⟨id, a, hfound, hanswer, hacted⟩
      · exact ⟨s', hsame, hbuilds⟩
      · obtain ⟨hreq, -⟩ := (sound e requests (before ++ during)).found hfound
        -- the request is still at work, so it had not been answered before
        have hunfinished : ¬ (of e requests before).Finished j := by
          intro hj
          obtain ⟨place?, answer, hj⟩ := hj.append during
          simp [hfound] at hj
        have hkeeps := h j id a _ hreq hunfinished hanswer
        exact ⟨_, hacted, (Session.buildsOnceSolved_act hkeeps).trans hbuilds⟩

/-- However many requests try to solve a session, at most one model is made of it as long as it is
undisturbed. -/
theorem single_build {before during : List ι} {place : Nat} {s : Session ε μ ν}
    (hs : (of e requests before).memory[place]? = some s)
    (h : Undisturbed e requests before during place) :
    ∃ s', (of e requests (before ++ during)).memory[place]? = some s'
      ∧ s'.builds ≤ s.builds + 1 := by
  obtain ⟨s', hs', hbuilds⟩ := buildsOnceSolved_of_undisturbed hs h
  refine ⟨s', hs', ?_⟩
  unfold Session.buildsOnceSolved at hbuilds
  split at hbuilds <;> split at hbuilds <;> omega

end Schedules

end Race

end Rostering
