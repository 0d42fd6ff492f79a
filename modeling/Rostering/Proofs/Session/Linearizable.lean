import Rostering.Proofs.Session.Interleaving

/-!
# Requests that overlap take effect one after the other

Whatever the schedule, the answers to all requests and the store in the end are those of some
execution of the same requests one after the other, in which a request that had been answered before
another one was looked at comes first (`Race.linearizable`).

A request takes effect with its last step. The exception is an action on a session that has been
deleted since it was looked up: nobody will see that session again, and the action takes effect just
before the deletion.

## The architecture

* **`Store.Explains`**, **`Store.after`** — answers that a store gives one after the other, and where
  that leads.
* **`Race.Linearizes`** — the invariant: an order of the answered requests that explains the answers
  and leads to the store, and in which each deletion finds the session as it is now in memory.
* **`Race.Linearizes.extend`**, **`Race.Linearizes.insert`** — the two ways to add a request, at the
  end and before a deletion.
-/

namespace Rostering

variable {ι ε μ ν : Type}
variable [StoreFailure ε]

open StoreFailure (own)

/-- An action other than a deletion leaves a session. -/
theorem Session.exists_left {σ : Type} {e : Engine σ ε μ ν} {id : String} {s : Session ε μ ν} {w : σ}
    {a : Action} (ha : a ≠ .delete) : ∃ s', (s.act e id w a).2.1 = some s' := by
  cases a with
  | get | solve => exact ⟨_, rfl⟩
  | patch ps =>
      cases hps : s.patch ps with
      | ok s' => exact ⟨s', by simp only [act, hps]⟩
      | error reason => exact ⟨s, by simp only [act, hps]⟩
  | solution => cases hv : s.solution? <;> exact ⟨s, by simp only [act, hv]⟩
  | delete => exact absurd rfl ha

/-- What comes before an element of a list without duplicates is on its left. -/
theorem mem_of_sublist_of_nodup {left right : List ι} {i j : ι}
    (h : [i, j].Sublist (left ++ j :: right)) (hdistinct : (left ++ j :: right).Nodup) :
    i ∈ left := by
  have hright : j ∉ right := (List.nodup_cons.mp (List.nodup_append.mp hdistinct).2.1).1
  obtain ⟨xs, ys, hsplit, hxs, hys⟩ := List.sublist_append_iff.mp h
  -- if nothing of the pair were on the left, `j` would come twice
  cases xs with
  | nil =>
      rw [List.nil_append] at hsplit
      subst hsplit
      cases hys with
      | cons _ hys => exact absurd (hys.subset (by simp)) hright
      | cons_cons _ hys => exact absurd (hys.subset (by simp)) hright
  | cons x xs =>
      obtain ⟨rfl, -⟩ := List.cons_eq_cons.mp hsplit
      exact hxs.subset (List.mem_cons_self ..)

/-! ## One after the other -/

namespace Store

variable {e : Engine Unit ε μ ν}

/-- The store after the operations of some events. -/
def after (e : Engine Unit ε μ ν) (t : Store ε μ ν) (events : List (Event ε ν)) : Store ε μ ν :=
  events.foldl (fun t event => (t.perform e () event.operation).2.1) t

/-- The answers in the events are those that the store gives to the operations, one after the
other. -/
def Explains (e : Engine Unit ε μ ν) (t : Store ε μ ν) : List (Event ε ν) → Prop
  | [] => True
  | event :: rest => (t.perform e () event.operation).1 = event.answer
      ∧ Explains e (t.perform e () event.operation).2.1 rest

theorem after_append (t : Store ε μ ν) (xs ys : List (Event ε ν)) :
    t.after e (xs ++ ys) = (t.after e xs).after e ys :=
  List.foldl_append

theorem after_cons (t : Store ε μ ν) (x : Event ε ν) (ys : List (Event ε ν)) :
    t.after e (x :: ys) = (t.perform e () x.operation).2.1.after e ys := rfl

theorem explains_append {t : Store ε μ ν} {xs ys : List (Event ε ν)} :
    t.Explains e (xs ++ ys) ↔ t.Explains e xs ∧ (t.after e xs).Explains e ys := by
  induction xs generalizing t with
  | nil => exact (and_iff_right trivial).symm
  | cons x xs ih =>
      rw [List.cons_append, Explains, Explains, ih, and_assoc]
      rfl

/-- To act on a session just before it is deleted makes no difference to its deletion. -/
theorem perform_delete_of_perform {t : Store ε μ ν} {id : String} {s : Session ε μ ν}
    (hs : t.sessions.find? id = some s) {a : Action} (ha : a ≠ .delete) :
    (t.perform e () (a.on id)).2.1.perform e () (Action.delete.on id)
      = t.perform e () (Action.delete.on id) := by
  obtain ⟨s', hs'⟩ : ∃ s', (s.act e id () a).2.1 = some s' := Session.exists_left ha
  have hleft : (t.perform e () (a.on id)).2.1 = t.put id s' := by
    rw [perform_on, hs, Action.perform, hs']
    rfl
  have hfind : (t.put id s').sessions.find? id = some s' := by rw [find?_put, if_pos rfl]
  have herase : (t.put id s').settle id none = t.settle id none := by
    simp only [settle, put, Named.erase_insert]
  rw [hleft, perform_on, perform_on, hfind, hs]
  simp only [Action.perform, Session.act, herase]

end Store

/-- Events that are explained are the history of a run. -/
theorem Run.of_explains {e : Engine Unit ε μ ν} {events : List (Event ε ν)}
    (h : Store.empty.Explains e events) :
    of e () (events.map Event.operation) = ⟨Store.empty.after e events, (), events⟩ := by
  -- for any run so far, since the induction takes events from the front and a run grows at its end
  have hfold : ∀ (events : List (Event ε ν)) (r : Run Unit ε μ ν), r.store.Explains e events →
      (events.map Event.operation).foldl (step e) r
        = ⟨r.store.after e events, (), r.history ++ events⟩ := by
    intro events
    induction events with
    | nil => exact fun r _ => by simp [Store.after]
    | cons event rest ih =>
        intro r hr
        obtain ⟨hanswer, hrest⟩ := hr
        rw [List.map_cons, List.foldl_cons, ih _ hrest]
        simp only [step, hanswer, List.append_assoc, List.singleton_append]
        rfl
  exact hfold events (start ()) h

namespace Race

/-! ## What a race shows -/

/-- The sessions that can be found in a race are those of a store, in the same order. -/
structure Shows (r : Race ι ε μ ν) (t : Store ε μ ν) : Prop where
  created : t.created = r.memory.length
  names : t.sessions.names = r.table.names
  find?_eq : ∀ id, t.sessions.find? id = r.find? id

variable {r : Race ι ε μ ν} {t u : Store ε μ ν}

omit [StoreFailure ε] in
theorem find?_of_place {id : String} {place : Nat} (h : r.table.find? id = some place) :
    r.find? id = r.memory[place]? := by
  rw [find?, h, Option.bind_some]

omit [StoreFailure ε] in
theorem find?_of_no_place {id : String} (h : r.table.find? id = none) : r.find? id = none := by
  rw [find?, h, Option.bind_none]

section Steps

variable [DecidableEq ι] {i : ι} {place? : Option Nat} {a : Except ε (Answer ε ν)}

omit [StoreFailure ε] in
/-- A new session is shown as one that the store creates. -/
theorem Shows.create (h : r.Shows t)
    (hlt : ∀ {id place}, r.table.find? id = some place → place < r.memory.length)
    (spec : Specification) :
    ({ r with
      memory := r.memory ++ [Session.ofSpecification spec]
      table := r.table.insert (Store.idOf (r.memory.length + 1)) r.memory.length }.answer i place?
        a).Shows (t.create spec).2 where
  created := by simp [Store.create, h.created]
  names := by simp only [Store.create, table_answer, Named.names_insert, h.names, h.created]
  find?_eq id := by
    simp only [Store.create, h.created, h.find?_eq, find?, table_answer,
      memory_answer, Named.find?_insert]
    split
    · simp
    -- older sessions stand before the new one
    · cases hplace : r.table.find? id with
      | none => rfl
      | some place => simp [List.getElem?_append_left (hlt hplace)]

omit [StoreFailure ε] in
/-- A session that is taken from the table is shown as one that the store deletes. -/
theorem Shows.delete (h : r.Shows t) (id : String) :
    ({ r with table := r.table.erase id }.answer i place? a).Shows (t.settle id none) where
  created := h.created
  names := by simp only [Store.settle, table_answer, Named.names_erase, h.names]
  find?_eq other := by
    simp only [Store.find?_settle, find?, table_answer, memory_answer, Named.find?_erase]
    split
    · rfl
    · exact h.find?_eq other

omit [StoreFailure ε] in
/-- A change in memory of a session that can be found is shown as a change in the store. -/
theorem Shows.act (h : r.Shows t) {id : String} {place : Nat} {s : Session ε μ ν}
    (hplace : r.table.find? id = some place) (hlt : place < r.memory.length)
    (honly : ∀ {other}, r.table.find? other = some place → other = id) :
    ({ r with memory := r.memory.set place s }.answer i place? a).Shows (t.settle id (some s)) where
  created := by simp [h.created]
  names := by
    have hfound : (t.sessions.find? id).isSome := by
      simp [h.find?_eq, find?_of_place hplace, hlt]
    rw [Store.names_settle fun _ => hfound, if_pos Option.isSome_some, h.names]
    rfl
  find?_eq other := by
    simp only [Store.find?_settle, h.find?_eq, find?, table_answer, memory_answer]
    split
    · next hother =>
        subst hother
        simp [hplace, hlt]
    · next hother =>
        cases hother' : r.table.find? other with
        | none => rfl
        | some place' =>
            -- no other id leads to this place
            have hne : place ≠ place' := fun heq => hother (honly (heq ▸ hother'))
            simp [List.getElem?_set_ne hne]

omit [StoreFailure ε] in
/-- A change in memory of a session that cannot be found is not shown. -/
theorem Shows.act_orphan (h : r.Shows t) {place : Nat} {s : Session ε μ ν}
    (horphan : ∀ {other}, r.table.find? other ≠ some place) :
    ({ r with memory := r.memory.set place s }.answer i place? a).Shows t where
  created := by simp [h.created]
  names := h.names
  find?_eq other := by
    simp only [h.find?_eq, find?, table_answer, memory_answer]
    cases hother : r.table.find? other with
    | none => rfl
    | some place' =>
        have hne : place ≠ place' := fun heq => horphan (heq ▸ hother)
        simp [List.getElem?_set_ne hne]

end Steps

/-! ## Orders that explain a schedule -/

/-- A request with its answer, as an event. -/
def event (requests : ι → StoreRequest) (x : ι × Except ε (Answer ε ν)) : Event ε ν :=
  ⟨(requests x.1).operation, x.2⟩

/-- Where requests lead one after the other, from an empty store. -/
def storeAfter (e : Engine Unit ε μ ν) (requests : ι → StoreRequest)
    (order : List (ι × Except ε (Answer ε ν))) : Store ε μ ν :=
  Store.empty.after e (order.map (event requests))

section Orders

variable {e : Engine Unit ε μ ν} {requests : ι → StoreRequest}
  {order before after : List (ι × Except ε (Answer ε ν))}

theorem storeAfter_append :
    storeAfter e requests (before ++ after)
      = (storeAfter e requests before).after e (after.map (event requests)) := by
  rw [storeAfter, List.map_append, Store.after_append]
  rfl

theorem storeAfter_append_singleton (i : ι) (a : Except ε (Answer ε ν)) :
    storeAfter e requests (before ++ [(i, a)])
      = ((storeAfter e requests before).perform e () (requests i).operation).2.1 :=
  storeAfter_append

omit [StoreFailure ε] in
theorem not_finished_of_waiting {r : Race ι ε μ ν} {i : ι} (hi : r.progress i = .waiting) :
    ¬ r.Finished i := by
  rintro ⟨place?, a, ha⟩
  simp [hi] at ha

omit [StoreFailure ε] in
theorem not_finished_of_found {r : Race ι ε μ ν} {i : ι} {id : String} {a : Action} {place : Nat}
    (hi : r.progress i = .found id a place) : ¬ r.Finished i := by
  rintro ⟨place?, b, hb⟩
  simp [hi] at hb

/-- Just before some request of the order that deletes the session of an id, the session is as
given. -/
def DeletedAs (e : Engine Unit ε μ ν) (requests : ι → StoreRequest)
    (order : List (ι × Except ε (Answer ε ν))) (id : String) (s : Session ε μ ν) : Prop :=
  ∃ before d after, order = before ++ (d, .ok .deleted) :: after ∧ requests d = .on id .delete
    ∧ (storeAfter e requests before).sessions.find? id = some s

theorem DeletedAs.append {id : String} {s : Session ε μ ν} (h : DeletedAs e requests order id s)
    (more : List (ι × Except ε (Answer ε ν))) :
    DeletedAs e requests (order ++ more) id s := by
  obtain ⟨before, d, after, rfl, hd, hs⟩ := h
  exact ⟨before, d, after ++ more, by simp, hd, hs⟩

/-! ## An action on a session that has been deleted -/

section Orphan

variable {i d : ι} {id : String} {a : Action} {s : Session ε μ ν}
  (hreq : requests i = .on id a) (ha : a ≠ .delete) (hd : requests d = .on id .delete)
  (hs : (storeAfter e requests before).sessions.find? id = some s)

include hreq ha hd hs

/-- The action before the deletion is not seen after it. -/
theorem storeAfter_insert (b : Except ε (Answer ε ν)) :
    storeAfter e requests (before ++ (i, b) :: (d, .ok .deleted) :: after)
      = storeAfter e requests (before ++ (d, .ok .deleted) :: after) := by
  have hdelete := Store.perform_delete_of_perform (e := e) hs ha
  simp only [storeAfter_append, List.map_cons, Store.after_cons, event, hreq, hd,
    StoreRequest.operation, hdelete]

/-- The action is answered before the deletion as it is on what is in memory. -/
theorem explains_insert (h : Store.empty.Explains e
      ((before ++ (d, .ok .deleted) :: after).map (event requests))) :
    Store.empty.Explains e
      ((before ++ (i, (s.act e id () a).1) :: (d, .ok .deleted) :: after).map
        (event requests)) := by
  -- the deletion leaves the same store, whether or not the action came before it, and it is
  -- answered alike
  have hdelete := Store.perform_delete_of_perform (e := e) hs ha
  have hact : ((storeAfter e requests before).perform e () (a.on id)).1 = (s.act e id () a).1 := by
    rw [Store.perform_on, hs]
    rfl
  rw [List.map_append, Store.explains_append] at h ⊢
  refine ⟨h.1, ?_⟩
  have hrest := h.2
  simp only [List.map_cons, Store.Explains, event, hreq, hd, StoreRequest.operation] at hrest ⊢
  rw [storeAfter] at hdelete hact
  rw [hdelete]
  exact ⟨hact, hrest⟩

/-- The other deletions find the same sessions. Their sessions are others than the one that is acted
on, since no session is deleted twice. -/
theorem DeletedAs.insert {b : Except ε (Answer ε ν)} {other : String} {s' : Session ε μ ν}
    (hother : other ≠ id)
    (h : DeletedAs e requests (before ++ (d, .ok .deleted) :: after) other s') :
    DeletedAs e requests (before ++ (i, b) :: (d, .ok .deleted) :: after) other s' := by
  obtain ⟨before', d', after', hsplit, hd', hs'⟩ := h
  -- the deletions are of different sessions, so they are different requests
  have hne : d ≠ d' := by
    rintro rfl
    rw [hd] at hd'
    cases hd'
    exact hother rfl
  rcases List.append_eq_append_iff.mp hsplit with ⟨between, hbefore, hrest⟩ | ⟨between, hbefore, hrest⟩
  · -- the other deletion comes after this one
    cases between with
    | nil => simp [hne] at hrest
    | cons x between =>
        obtain ⟨rfl, rfl⟩ := List.cons_eq_cons.mp hrest
        refine ⟨before ++ (i, b) :: (d, .ok .deleted) :: between, d', after', by simp, hd', ?_⟩
        rw [storeAfter_insert hreq ha hd hs]
        rwa [hbefore] at hs'
  · -- the other deletion comes before this one
    cases between with
    | nil => simp [Ne.symm hne] at hrest
    | cons x between =>
        obtain ⟨rfl, rfl⟩ := List.cons_eq_cons.mp hrest
        exact ⟨before', d', between ++ (i, b) :: (d, .ok .deleted) :: after, by simp [hbefore], hd',
          hs'⟩

end Orphan

/-! ## The invariant -/

variable [DecidableEq ι] {schedule : List ι}

/-- One after the other in this order, the answered requests are answered as in the schedule, and
lead to a store that shows the same sessions. Sessions that have been deleted are in memory as
their deletions found them. Requests that do not overlap are in order. -/
structure Linearizes (e : Engine Unit ε μ ν) (requests : ι → StoreRequest) (schedule : List ι)
    (order : List (ι × Except ε (Answer ε ν))) : Prop where
  distinct : (order.map Prod.fst).Nodup
  answers : ∀ i a, (i, a) ∈ order
    ↔ ∃ place?, (of e requests schedule).progress i = .answered place? a
  explained : Store.empty.Explains e (order.map (event requests))
  shows : (of e requests schedule).Shows (storeAfter e requests order)
  orphans : ∀ place s, (of e requests schedule).memory[place]? = some s →
    (of e requests schedule).table.find? (Store.idOf (place + 1)) = none →
    DeletedAs e requests order (Store.idOf (place + 1)) s
  ordered : ∀ i j, j ∈ order.map Prod.fst → Precedes e requests schedule i j →
    [i, j].Sublist (order.map Prod.fst)

theorem linearizes_nil : Linearizes e requests ([] : List ι) [] where
  distinct := List.nodup_nil
  answers i a := by simp [of, start]
  explained := trivial
  shows := ⟨rfl, rfl, fun _ => rfl⟩
  orphans place s hs := by simp [of, start] at hs
  ordered i j hj := by simp at hj

namespace Linearizes

variable {i d : ι}

/-- The order holds the requests that have been answered. -/
theorem mem_iff (h : Linearizes e requests schedule order) {i : ι} :
    i ∈ order.map Prod.fst ↔ (of e requests schedule).Finished i := by
  simp only [List.mem_map, Prod.exists, exists_and_right, exists_eq_right, h.answers, Finished]
  exact exists_comm

theorem mem_schedule (h : Linearizes e requests schedule order) {i : ι}
    (hi : i ∈ order.map Prod.fst) : i ∈ schedule := by
  obtain ⟨place?, a, ha⟩ := h.mem_iff.mp hi
  exact (sound e requests schedule).mem_of_progress_ne (by simp [ha])

/-- Another step does not change which requests precede the answered ones. -/
theorem ordered_append (h : Linearizes e requests schedule order) {i j k : ι}
    (hj : j ∈ order.map Prod.fst) (hprec : Precedes e requests (schedule ++ [k]) i j) :
    [i, j].Sublist (order.map Prod.fst) :=
  h.ordered i j hj
    ((precedes_append_iff (List.mem_append_left _ (h.mem_schedule hj))).mp hprec)

/-- A step that answers nothing and changes no session needs no other order. -/
theorem keep (h : Linearizes e requests schedule order) {i : ι}
    (hmemory : (of e requests (schedule ++ [i])).memory = (of e requests schedule).memory)
    (htable : (of e requests (schedule ++ [i])).table = (of e requests schedule).table)
    (hprogress : ∀ j place? a, (of e requests (schedule ++ [i])).progress j = .answered place? a
      ↔ (of e requests schedule).progress j = .answered place? a) :
    Linearizes e requests (schedule ++ [i]) order where
  distinct := h.distinct
  answers j a := by simp only [h.answers, hprogress]
  explained := h.explained
  shows :=
    { created := by rw [h.shows.created, hmemory]
      names := by rw [h.shows.names, htable]
      find?_eq := fun id => by rw [h.shows.find?_eq, find?, find?, hmemory, htable] }
  orphans place s := by
    rw [hmemory, htable]
    exact h.orphans place s
  ordered _ _ hj hprec := h.ordered_append hj hprec

section Answered

variable {i : ι} {place? : Option Nat} {a : Except ε (Answer ε ν)}
  (h : Linearizes e requests schedule order) (hi : ¬ (of e requests schedule).Finished i)
  (hprogress : (of e requests (schedule ++ [i])).progress i = .answered place? a)

include h hi hprogress

/-- One more request is answered. -/
theorem answered_append_iff (j : ι) (b : Except ε (Answer ε ν)) :
    (∃ place?, (of e requests (schedule ++ [i])).progress j = .answered place? b)
      ↔ (j, b) ∈ order ∨ (j, b) = (i, a) := by
  by_cases hji : j = i
  · subst hji
    have hnot : (j, b) ∉ order := fun hmem => hi (h.mem_iff.mp (List.mem_map_of_mem hmem))
    simp only [hprogress, Stage.answered.injEq, hnot, false_or, Prod.mk.injEq, true_and,
      exists_eq_left']
    exact eq_comm
  · have hstep := step_step e requests (of e requests schedule) i
    rw [← of_append] at hstep
    rw [hstep.progress_of_ne hji, h.answers]
    simp [hji]

/-- A request is answered as if it came after all others. This is how a request is added whose
answer does not depend on what has been deleted meanwhile. -/
theorem extend
    (hperform : ((storeAfter e requests order).perform e () (requests i).operation).1 = a)
    (hshows : (of e requests (schedule ++ [i])).Shows
      ((storeAfter e requests order).perform e () (requests i).operation).2.1)
    (horphans : ∀ place s, (of e requests (schedule ++ [i])).memory[place]? = some s →
      (of e requests (schedule ++ [i])).table.find? (Store.idOf (place + 1)) = none →
      DeletedAs e requests (order ++ [(i, a)]) (Store.idOf (place + 1)) s) :
    Linearizes e requests (schedule ++ [i]) (order ++ [(i, a)]) where
  distinct := by
    have hnot : i ∉ order.map Prod.fst := fun hmem => hi (h.mem_iff.mp hmem)
    rw [List.map_append, List.nodup_append_comm]
    exact List.nodup_cons.mpr ⟨hnot, h.distinct⟩
  answers j b := by
    rw [h.answered_append_iff hi hprogress, List.mem_append, List.mem_singleton]
  explained := by
    rw [List.map_append, Store.explains_append]
    exact ⟨h.explained, hperform, trivial⟩
  shows := by rwa [storeAfter_append_singleton]
  orphans := horphans
  ordered k j hj hprec := by
    rw [List.map_append, List.mem_append] at hj
    rw [List.map_append]
    rcases hj with hj | hj
    · exact (h.ordered_append hj hprec).trans (List.sublist_append_left _ _)
    · -- the new request comes last, so all that is needed is that the other one is there
      obtain rfl : j = i := by simpa using hj
      obtain ⟨before, after, hsplit, hk, hbefore⟩ := hprec
      have hkj : k ≠ j := by
        rintro rfl
        obtain ⟨place?', b, hb⟩ := hk
        exact hbefore ((sound e requests before).mem_of_progress_ne (by simp [hb]))
      have hfinished : (of e requests (schedule ++ [j])).Finished k := hsplit ▸ hk.append after
      have hmem : k ∈ order.map Prod.fst := by
        have hstep := step_step e requests (of e requests schedule) j
        rw [← of_append] at hstep
        rw [Finished, hstep.progress_of_ne hkj] at hfinished
        exact h.mem_iff.mpr hfinished
      exact (List.singleton_sublist.mpr hmem).append (List.Sublist.refl [j])

end Answered

/-- A request that precedes the action precedes the deletion as well: the deletion was answered in
one step, after the session had been looked up. -/
theorem precedes_deletion {id : String} {a : Action} {place : Nat} {place? : Option Nat} {k : ι}
    (hi : (of e requests schedule).progress i = .found id a place)
    (hd : requests d = .on id .delete)
    (hdeleted : (of e requests schedule).progress d = .answered place? (.ok .deleted))
    (hprec : Precedes e requests schedule k i) : Precedes e requests schedule k d := by
  obtain ⟨before, after, hsplit, hk, hbefore⟩ := hprec
  refine ⟨before, after, hsplit, hk, fun hmem => ?_⟩
  have hfinished := (sound e requests before).finished_of_delete hd hmem
  exact (sound e requests schedule).inTime hi hd hdeleted
    ⟨before, after, hsplit, hfinished, hbefore⟩

/-- An action on a session that has been deleted is answered as if it came just before the
deletion. -/
theorem insert (h : Linearizes e requests schedule (before ++ (d, .ok .deleted) :: after))
    {id : String} {a : Action} {place : Nat} {s : Session ε μ ν}
    (hi : (of e requests schedule).progress i = .found id a place)
    (hd : requests d = .on id .delete)
    (hs : (storeAfter e requests before).sessions.find? id = some s)
    (hplace : (of e requests schedule).table.find? id = none)
    (hstep : of e requests (schedule ++ [i])
      = { of e requests schedule with
          memory := (of e requests schedule).memory.set place ((s.act e id () a).2.1.getD s)
        }.answer i (some place) (s.act e id () a).1) :
    Linearizes e requests (schedule ++ [i])
      (before ++ (i, (s.act e id () a).1) :: (d, .ok .deleted) :: after) := by
  have hsound := sound e requests schedule
  obtain ⟨hreq, ha, hid, hlt⟩ := hsound.found hi
  have hunfinished := not_finished_of_found hi
  have hprogress : (of e requests (schedule ++ [i])).progress i
      = .answered (some place) (s.act e id () a).1 := by simp [hstep]
  have hsub : (before ++ (d, .ok .deleted) :: after).Sublist
      (before ++ (i, (s.act e id () a).1) :: (d, .ok .deleted) :: after) :=
    (List.Sublist.refl before).append (List.sublist_cons_self _ _)
  exact {
    distinct := by
      rw [List.map_append, List.map_cons, List.map_cons, List.nodup_middle, List.nodup_cons]
      refine ⟨fun hmem => hunfinished (h.mem_iff.mp ?_), ?_⟩
      · simpa using hmem
      · simpa using h.distinct
    answers := fun j b => by
      rw [h.answered_append_iff hunfinished hprogress]
      simp only [List.mem_append, List.mem_cons]
      tauto
    explained := explains_insert hreq ha hd hs h.explained
    shows := by
      rw [storeAfter_insert hreq ha hd hs, hstep]
      refine h.shows.act_orphan fun {other} hother => ?_
      rw [(hsound.placed hother).1, ← hid, hplace] at hother
      cases hother
    orphans := by
      intro place' s' hs' hplace'
      rw [hstep, memory_answer] at hs'
      by_cases hsame : place' = place
      · -- the deletion now finds what the action has left
        subst hsame
        obtain ⟨left, hleft⟩ : ∃ left, (s.act e id () a).2.1 = some left :=
          Session.exists_left ha
        refine ⟨before ++ [(i, (s.act e id () a).1)], d, after, by simp, hid ▸ hd, ?_⟩
        rw [storeAfter_append_singleton, hreq, StoreRequest.operation, Store.perform_on, hs,
          ← hid, Store.find?_settle, if_pos rfl, Action.perform, hleft]
        simpa [hlt, hleft] using hs'
      · rw [List.getElem?_set_ne (Ne.symm hsame)] at hs'
        rw [hstep] at hplace'
        refine (h.orphans place' s' hs' hplace').insert hreq ha hd hs fun hother => hsame ?_
        have := Store.idOf_inj.mp (hother.trans hid)
        omega
    ordered := by
      intro k j hj hprec
      by_cases hji : j = i
      · -- whatever precedes the action precedes the deletion, so it comes before both
        subst hji
        obtain ⟨place?, hdeleted⟩ := (h.answers d _).mp
          (List.mem_append_right before (List.mem_cons_self ..))
        rw [precedes_append_iff (List.mem_append_left _
          (hsound.mem_of_progress_ne (by simp [hi])))] at hprec
        have hkd := h.ordered k d (by simp) (precedes_deletion hi hd hdeleted hprec)
        have hk : k ∈ before.map Prod.fst := by
          have hdistinct := h.distinct
          rw [List.map_append, List.map_cons] at hkd hdistinct
          exact mem_of_sublist_of_nodup hkd hdistinct
        rw [List.map_append, List.map_cons]
        exact (List.singleton_sublist.mpr hk).append
          (List.cons_sublist_cons.mpr (List.nil_sublist _))
      · have hold : j ∈ (before ++ (d, .ok .deleted) :: after).map Prod.fst := by
          simpa [hji] using hj
        exact (h.ordered_append hold hprec).trans (hsub.map Prod.fst) }

/-! ## One lemma for each kind of step -/

/-- A session that can be found is in the store as it is in memory. -/
theorem find?_storeAfter (h : Linearizes e requests schedule order) {id : String} {place : Nat}
    (hplace : (of e requests schedule).table.find? id = some place) :
    (storeAfter e requests order).sessions.find? id = (of e requests schedule).memory[place]? :=
  (h.shows.find?_eq id).trans (find?_of_place hplace)

/-- A creation takes effect when it is answered. -/
theorem created (h : Linearizes e requests schedule order) {spec : Specification}
    (hi : (of e requests schedule).progress i = .waiting) (hreq : requests i = .create spec)
    (hstep : of e requests (schedule ++ [i]) = { of e requests schedule with
      memory := (of e requests schedule).memory ++ [Session.ofSpecification spec]
      table := (of e requests schedule).table.insert
        (Store.idOf ((of e requests schedule).memory.length + 1))
        (of e requests schedule).memory.length }.answer i
        (some (of e requests schedule).memory.length)
        (.ok (.session (Store.idOf ((of e requests schedule).memory.length + 1))
          (Session.ofSpecification spec : Session ε μ ν).view))) :
    ∃ order', Linearizes e requests (schedule ++ [i]) order' := by
  have hsound := sound e requests schedule
  refine ⟨_, h.extend (not_finished_of_waiting hi) (by rw [hstep, progress_answer, if_pos rfl])
    ?_ ?_ ?_⟩
  · rw [hreq, ← h.shows.created]
    rfl
  · rw [hstep, hreq]
    exact h.shows.create (fun hplace => (hsound.placed hplace).2) spec
  · intro place s hs hplace
    rw [hstep] at hs hplace
    simp only [memory_answer, table_answer, Named.find?_insert, Store.idOf_inj] at hs hplace
    split at hplace
    · cases hplace
    · next hne =>
        -- the newest session can be found, so this one is older
        have hlt : place < (of e requests schedule).memory.length := by
          have := (List.getElem?_eq_some_iff.mp hs).1
          rw [List.length_append, List.length_singleton] at this
          omega
        rw [List.getElem?_append_left hlt] at hs
        exact (h.orphans place s hs hplace).append _

/-- A request for a session that cannot be found takes effect when it is refused. -/
theorem missing (h : Linearizes e requests schedule order) {id : String} {a : Action}
    (hi : (of e requests schedule).progress i = .waiting) (hreq : requests i = .on id a)
    (hplace : (of e requests schedule).table.find? id = none)
    (hstep : of e requests (schedule ++ [i])
      = (of e requests schedule).answer i none (.error (own (.noSession id)))) :
    ∃ order', Linearizes e requests (schedule ++ [i]) order' := by
  -- the store shows the table, so the id cannot be found there either
  have hfind := (h.shows.find?_eq id).trans (find?_of_no_place hplace)
  have hperform : (storeAfter e requests order).perform e () (requests i).operation
      = (.error (own (.noSession id)), storeAfter e requests order, ()) := by
    rw [hreq]
    exact Store.perform_missing e () (a.target?_on id) hfind
  refine ⟨_, h.extend (not_finished_of_waiting hi) (by rw [hstep, progress_answer, if_pos rfl])
    (congrArg Prod.fst hperform) ?_ ?_⟩
  · rw [hperform, hstep]
    exact ⟨h.shows.created, h.shows.names, h.shows.find?_eq⟩
  · intro place s hs hplace'
    rw [hstep] at hs hplace'
    exact (h.orphans place s hs hplace').append _

/-- A deletion takes effect when it is answered. -/
theorem deleted (h : Linearizes e requests schedule order) {id : String} {place : Nat}
    (hi : (of e requests schedule).progress i = .waiting) (hreq : requests i = .on id .delete)
    (hplace : (of e requests schedule).table.find? id = some place)
    (hstep : of e requests (schedule ++ [i]) = { of e requests schedule with
      table := (of e requests schedule).table.erase id }.answer i (some place) (.ok .deleted)) :
    ∃ order', Linearizes e requests (schedule ++ [i]) order' := by
  obtain ⟨hid, hlt⟩ := (sound e requests schedule).placed hplace
  have hfind := h.find?_storeAfter hplace
  rw [List.getElem?_eq_getElem hlt] at hfind
  have hperform : (storeAfter e requests order).perform e () (requests i).operation
      = (.ok .deleted, (storeAfter e requests order).settle id none, ()) := by
    rw [hreq, StoreRequest.operation, Store.perform_on, hfind]
    rfl
  refine ⟨_, h.extend (not_finished_of_waiting hi) (by rw [hstep, progress_answer, if_pos rfl])
    (congrArg Prod.fst hperform) ?_ ?_⟩
  · rw [hperform, hstep]
    exact h.shows.delete id
  · intro place' s hs hplace'
    rw [hstep] at hs hplace'
    simp only [memory_answer, table_answer, Named.find?_erase] at hs hplace'
    split at hplace'
    · next heq =>
        -- this is the session that is deleted now
        obtain rfl : place' = place := by
          have := Store.idOf_inj.mp (heq.trans hid)
          omega
        have hs' : (storeAfter e requests order).sessions.find? id = some s :=
          (h.find?_storeAfter hplace).trans hs
        exact ⟨order, i, [], rfl, heq ▸ hreq, heq ▸ hs'⟩
    · exact (h.orphans place' s hs hplace').append _

/-- An action on a session that can be found takes effect when it is carried out. -/
theorem acted (h : Linearizes e requests schedule order) {id : String} {a : Action} {place : Nat}
    {s : Session ε μ ν} (hi : (of e requests schedule).progress i = .found id a place)
    (hs : (of e requests schedule).memory[place]? = some s)
    (hplace : (of e requests schedule).table.find? id = some place)
    (hstep : of e requests (schedule ++ [i]) = { of e requests schedule with
      memory := (of e requests schedule).memory.set place ((s.act e id () a).2.1.getD s) }.answer i
        (some place) (s.act e id () a).1) :
    ∃ order', Linearizes e requests (schedule ++ [i]) order' := by
  have hsound := sound e requests schedule
  obtain ⟨hreq, ha, hid, hlt⟩ := hsound.found hi
  -- the store shows the session as it is in memory
  have hfind : (storeAfter e requests order).sessions.find? id = some s :=
    (h.find?_storeAfter hplace).trans hs
  obtain ⟨left, hleft⟩ : ∃ left, (s.act e id () a).2.1 = some left := Session.exists_left ha
  have hperform : (storeAfter e requests order).perform e () (requests i).operation
      = ((s.act e id () a).1, (storeAfter e requests order).settle id (some left), ()) := by
    rw [hreq, StoreRequest.operation, Store.perform_on, hfind, Action.perform, hleft]
  refine ⟨_, h.extend (not_finished_of_found hi) (by rw [hstep, progress_answer, if_pos rfl])
    (congrArg Prod.fst hperform) ?_ ?_⟩
  · rw [hperform, hstep, hleft]
    exact h.shows.act hplace hlt fun hother => (hsound.placed hother).1.trans hid.symm
  · intro place' s' hs' hplace'
    rw [hstep] at hs' hplace'
    -- a session that cannot be found any more stands elsewhere
    have hne : place ≠ place' := by
      rintro rfl
      rw [table_answer, ← hid, hplace] at hplace'
      cases hplace'
    rw [memory_answer, List.getElem?_set_ne hne] at hs'
    exact (h.orphans place' s' hs' hplace').append _

/-- The steps of a schedule keep the invariant, for one order after the other. A request that is
answered is added to the order, at its end or before a deletion, and all other steps leave the order
alone. -/
theorem append (h : Linearizes e requests schedule order) (i : ι) :
    ∃ order', Linearizes e requests (schedule ++ [i]) order' := by
  have hsound := sound e requests schedule
  have hstep := step_step e requests (of e requests schedule) i
  rw [← of_append] at hstep
  generalize hr' : of e requests (schedule ++ [i]) = r' at hstep
  cases hstep with
  | created hi hreq => exact h.created hi hreq hr'
  | missing hi hreq hplace => exact h.missing hi hreq hplace hr'
  | deleted hi hreq hplace => exact h.deleted hi hreq hplace hr'
  | found hi =>
      refine ⟨order, h.keep (by rw [hr']) (by rw [hr']) fun j place? a => ?_⟩
      simp only [hr', Function.update_apply]
      split
      · next hj => simp [hj, hi]
      · rfl
  | @acted id a place s hi hs =>
      cases hplace : (of e requests schedule).table.find? id with
      | some place' =>
          obtain ⟨-, -, hid, -⟩ := hsound.found hi
          obtain rfl : place' = place := by
            have := Store.idOf_inj.mp ((hsound.placed hplace).1.symm.trans hid)
            omega
          exact h.acted hi hs hplace hr'
      | none =>
          -- the session has been deleted meanwhile
          obtain ⟨-, -, rfl, -⟩ := hsound.found hi
          obtain ⟨before, d, after, rfl, hd, hs'⟩ := h.orphans place s hs hplace
          exact ⟨_, h.insert hi hd hs' hplace hr'⟩
  | lost hi hs =>
      obtain ⟨-, -, -, hlt⟩ := hsound.found hi
      exact absurd (List.getElem?_eq_none_iff.mp hs) (by omega)
  | done hi =>
      exact ⟨order, h.keep (by rw [hr']) (by rw [hr']) fun j place? a => by rw [hr']⟩

end Linearizes

/-- Every schedule has an order that explains it. Induction on the schedule, last step first. -/
theorem exists_linearizes (e : Engine Unit ε μ ν) (requests : ι → StoreRequest)
    (schedule : List ι) : ∃ order, Linearizes e requests schedule order := by
  induction schedule using List.reverseRecOn with
  | nil => exact ⟨[], linearizes_nil⟩
  | append_singleton schedule i ih =>
      obtain ⟨order, h⟩ := ih
      exact h.append i

/-- **Overlapping requests are linearizable.** Whatever the schedule, there is an order of the
requests that have been answered, each of them once, such that carrying them out one after the other
gives each of them the same answer and leads to a store with the same sessions; and a request that
had been answered before another one took its first step comes before it. A request that takes
its steps is answered.

In particular, in any part of a schedule in which a session is neither patched successfully nor fails
to be solved, at most one model is built of it. -/
theorem linearizable (build : Specification → Except ε μ) (solve : μ → Except ε ν)
    (requests : ι → StoreRequest) (schedule : List ι) :
    let e := Engine.ofFunctions build solve
    let r := of e requests schedule
    (∃ order : List (ι × Except ε (Answer ε ν)),
      let run := Run.of e () (order.map fun x => (requests x.1).operation)
      (order.map Prod.fst).Nodup
      ∧ (∀ i a, (i, a) ∈ order ↔ ∃ place?, r.progress i = .answered place? a)
      ∧ run.history = order.map (fun x => ⟨(requests x.1).operation, x.2⟩)
      ∧ r.Shows run.store
      ∧ ∀ i j, j ∈ order.map Prod.fst → Precedes e requests schedule i j →
        [i, j].Sublist (order.map Prod.fst))
    ∧ (∀ i, (requests i).steps ≤ schedule.count i → r.Finished i)
    ∧ ∀ before during after place s, schedule = before ++ during ++ after →
      (of e requests before).memory[place]? = some s →
      Undisturbed e requests before during place →
      ∃ s', (of e requests (before ++ during)).memory[place]? = some s'
        ∧ s'.builds ≤ s.builds + 1 := by
  intro e r
  refine ⟨?_, fun _ => (sound e requests schedule).finished_of_steps_le,
    fun before during after place s _ => single_build⟩
  obtain ⟨order, h⟩ := exists_linearizes e requests schedule
  have hrun := Run.of_explains h.explained
  rw [List.map_map] at hrun
  have hrun' : Run.of e () (order.map fun x => (requests x.1).operation)
      = ⟨storeAfter e requests order, (), order.map (event requests)⟩ := hrun
  refine ⟨order, h.distinct, h.answers, ?_, ?_, h.ordered⟩
  · rw [hrun']
    rfl
  · rw [hrun']
    exact h.shows

end Orders

/-- Two requests look up a session to solve it, the session is solved and deleted, and then the
second solving is carried out on what has been deleted. Both give the solution, one model is built,
and nothing can be found in the end. -/
theorem linearizable_of_solved_after_deletion :
    let build : Specification → Except Failure Nat := fun spec => .ok spec.options.size
    let solve : Nat → Except Failure Nat := fun n => .ok (n + 1)
    let e := Engine.ofFunctions build solve
    let requests : Fin 4 → StoreRequest :=
      ![.create ⟨"work", .empty, .empty, .empty, .empty⟩, .on "model_1" .solve,
        .on "model_1" .solve, .on "model_1" .delete]
    let before : List (Fin 4) := [0]
    let during : List (Fin 4) := [1, 2, 1, 3, 2]
    let r := of e requests (before ++ during)
    r.progress 1 = .answered (some 0) (.ok (.solution 1))
      ∧ r.progress 2 = .answered (some 0) (.ok (.solution 1))
      ∧ r.table.names = [] ∧ r.memory.map Session.builds = [1]
      ∧ Undisturbed e requests before during 0
      ∧ (∃ order : List (Fin 4 × Except Failure (Answer Failure Nat)), (2, .ok (.solution 1)) ∈ order
        ∧ r.Shows (Run.of e () (order.map fun x => (requests x.1).operation)).store)
      ∧ ∃ s', r.memory[0]? = some s' ∧ s'.builds ≤ 1 := by
  intro build solve e requests before during r
  -- the schedule is run, and the order is given by the theorem
  have hfirst : r.progress 1 = .answered (some 0) (.ok (.solution 1)) := by
    subst r e; cbv
  have hsecond : r.progress 2 = .answered (some 0) (.ok (.solution 1)) := by
    subst r e; cbv
  have hundisturbed : Undisturbed e requests before during 0 := by
    intro i id a answer hreq _ hanswer
    -- no answer is a failure, and nothing is patched
    fin_cases i
    · cases hreq
    · cases hreq
      obtain ⟨-, rfl⟩ := Stage.answered.inj (hfirst.symm.trans hanswer)
      trivial
    · cases hreq
      obtain ⟨-, rfl⟩ := Stage.answered.inj (hsecond.symm.trans hanswer)
      trivial
    · cases hreq
      trivial
  obtain ⟨⟨order, -, hanswers, -, hshows, -⟩, -, hbuilds⟩ :=
    linearizable build solve requests (before ++ during)
  refine ⟨hfirst, hsecond, ?_, ?_, hundisturbed,
    ⟨order, (hanswers 2 _).mpr ⟨_, hsecond⟩, hshows⟩, ?_⟩
  · subst r e; cbv
  · subst r e; cbv
  · exact hbuilds before during [] 0 _ (List.append_nil _).symm rfl hundisturbed

end Race

end Rostering
