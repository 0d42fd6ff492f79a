import Rostering.Proofs.Service.Effect
import Rostering.Proofs.Service.Refusals
import Rostering.Proofs.Session.Interleaving

/-!
# The table of sessions

What the service shows of its sessions is what its own answers tell. Whoever has kept the requests
and the answers knows which sessions there are, in which order, with which templates and in which
status, and under which ids no session can be found (`Service.keepsLedger_serve`).

Ids are numbered by the sessions that are created, and a session is created whether or not the
answer that gives its id can be written. A creation that fails in this way has taken a number
(`Service.number_taken_by_crash`); one that is refused has not.

## The architecture

* **`Service.Lives`** — what a log of requests and answers tells of a session.
* **`Service.Books`** — the invariant: the table holds what the log tells. `Effect.books` is the
  step, and `books_serve` the run.
* **`Service.KeepsLedger`** — what follows for numbers, lists, counts and ids without a session.
-/

namespace Rostering

variable {σ μ ν : Type}

namespace Service

variable {v : Service σ μ ν} {st st' : ServiceState σ μ ν} {r : ServiceRequest}
  {response : Response} {resource : Resource} {spec : Specification} {id : String}

/-! ## What a log tells -/

/-- How many sessions the requests of a log have created. -/
def creations (v : Service σ μ ν) (log : List (ServiceRequest × Response)) : Nat :=
  log.countP fun x => (v.created? x.1).isSome

/-- What a request and its answer tell of the status of a session. When the service crashes over the
answer to a solving, the session may be solved or not. -/
inductive Tells (v : Service σ μ ν) (id : String) (r : ServiceRequest) (response : Response) :
    Status → Prop where
  | updated (h : v.reached? r = some (.config id)) (hstatus : response.status = 200) :
      Tells v id r response .updated
  | solved (h : v.reached? r = some (.solving id))
      (hstatus : response.status = 200 ∨ response = .crashed .unsendable) : Tells v id r response .solved
  | failed (h : v.reached? r = some (.solving id)) (hstatus : response.status ≠ 200) :
      Tells v id r response .error

/-- What a log, last request first, tells of the session with a number: it has been created with this
template and not been deleted since, and the last that has been told of it is this status. -/
inductive Lives (v : Service σ μ ν) : List (ServiceRequest × Response) → (number : Nat) →
    (template : String) → Status → Prop where
  | created {log : List (ServiceRequest × Response)} {r : ServiceRequest} {response : Response}
      {spec : Specification} (h : v.created? r = some spec) :
      Lives v ((r, response) :: log) (v.creations log + 1) spec.template .created
  | told {log : List (ServiceRequest × Response)} {r : ServiceRequest} {response : Response}
      {number : Nat} {template : String} {before status : Status}
      (h : Lives v log number template before)
      (htold : v.Tells (Store.idOf number) r response status) :
      Lives v ((r, response) :: log) number template status
  | kept {log : List (ServiceRequest × Response)} {r : ServiceRequest} {response : Response}
      {number : Nat} {template : String} {status : Status}
      (h : Lives v log number template status) (hdelete : ¬v.Deletes (Store.idOf number) r)
      (htold : ∀ other, ¬v.Tells (Store.idOf number) r response other) :
      Lives v ((r, response) :: log) number template status

/-- The log, first request first, tells of no session of the id, or of one that has been deleted. -/
def Gone (v : Service σ μ ν) (log : List (ServiceRequest × Response)) (id : String) : Prop :=
  ∀ {before : List (ServiceRequest × Response)} {r : ServiceRequest} {response : Response}
    {after : List (ServiceRequest × Response)}, log = before ++ (r, response) :: after →
    (v.created? r).isSome → id = Store.idOf (v.creations before + 1) → ∃ x ∈ after, v.Deletes id x.1

/-- The table holds what the log tells: all sessions that live, in the order of their numbers. -/
structure Books (v : Service σ μ ν) (log : List (ServiceRequest × Response)) (t : Store Failure μ ν) :
    Prop where
  created : t.created = v.creations log
  names : List.Sublist t.sessions.names ((List.range' 1 t.created).map Store.idOf)
  found : ∀ {number s}, t.sessions.find? (Store.idOf number) = some s →
    v.Lives log number s.spec.template s.state
  listed : ∀ {number template status}, v.Lives log number template status →
    (t.sessions.find? (Store.idOf number)).isSome

variable {log : List (ServiceRequest × Response)}

theorem books_empty (v : Service σ μ ν) : v.Books [] (.empty : Store Failure μ ν) where
  created := rfl
  names := List.nil_sublist _
  found h := by cases h
  listed h := by cases h

/-- The sessions of the table have numbers that have been given. -/
theorem Books.exists_number {t : Store Failure μ ν} (h : v.Books log t) {s : Session Failure μ ν}
    (hs : t.sessions.find? id = some s) :
    ∃ number, number ≤ t.created ∧ id = Store.idOf number := by
  have hmem : id ∈ t.sessions.names := Named.mem_names_iff.mpr (by simp [hs])
  obtain ⟨number, hnumber, rfl⟩ := List.mem_map.mp (h.names.subset hmem)
  have hrange := List.mem_range'_1.mp hnumber
  exact ⟨number, by omega, rfl⟩

theorem Tells.created?_eq_none {status : Status} (h : v.Tells id r response status) :
    v.created? r = none := by
  refine Service.created?_eq_none ?_
  cases h with
  | updated h => simp [h]
  | solved h => simp [h]
  | failed h => simp [h]

theorem Tells.not_deletes {status : Status} (h : v.Tells id r response status) (other : String) :
    ¬v.Deletes other r := by
  rintro ⟨hreached, -⟩
  cases h with
  | updated h => simp [h] at hreached
  | solved h => simp [h] at hreached
  | failed h => simp [h] at hreached

/-- Nothing is told of two sessions at once. -/
theorem Tells.id_eq {other : String} {status status' : Status} (h : v.Tells id r response status)
    (h' : v.Tells other r response status') : other = id := by
  cases h <;> cases h' <;> simp_all

/-- A session that lives has been created, and not been deleted since. -/
theorem Lives.exists_creation {number : Nat} {template : String} {status : Status}
    (h : v.Lives log number template status) :
    ∃ after r response before spec, log = after ++ (r, response) :: before
      ∧ v.created? r = some spec ∧ template = spec.template ∧ number = v.creations before + 1
      ∧ ∀ x ∈ after, ¬v.Deletes (Store.idOf number) x.1 := by
  induction h with
  | created hcreated => exact ⟨[], _, _, _, _, rfl, hcreated, rfl, rfl, by simp⟩
  -- the creation is found further back; what came since does not delete
  | told _ htold ih =>
      obtain ⟨after, r, response, before, spec, rfl, hcreated, htemplate, hnumber, hkept⟩ := ih
      refine ⟨_ :: after, r, response, before, spec, rfl, hcreated, htemplate, hnumber, ?_⟩
      exact List.forall_mem_cons.mpr ⟨htold.not_deletes _, hkept⟩
  | kept _ hdelete _ ih =>
      obtain ⟨after, r, response, before, spec, rfl, hcreated, htemplate, hnumber, hkept⟩ := ih
      refine ⟨_ :: after, r, response, before, spec, rfl, hcreated, htemplate, hnumber, ?_⟩
      exact List.forall_mem_cons.mpr ⟨hdelete, hkept⟩

theorem creations_append (l l' : List (ServiceRequest × Response)) :
    v.creations (l ++ l') = v.creations l + v.creations l' :=
  List.countP_append

theorem creations_reverse (l : List (ServiceRequest × Response)) :
    v.creations l.reverse = v.creations l :=
  List.countP_reverse

/-- No session that lives is gone. -/
theorem Gone.ne_idOf (hgone : v.Gone log id) {number : Nat} {template : String} {status : Status}
    (h : v.Lives log.reverse number template status) : id ≠ Store.idOf number := by
  rintro rfl
  obtain ⟨after, r, response, before, spec, hlog, hcreated, -, hnumber, hkept⟩ := h.exists_creation
  have hsplit : log = before.reverse ++ (r, response) :: after.reverse := by
    rw [← List.reverse_reverse log, hlog]
    simp
  obtain ⟨x, hx, hdeletes⟩ := hgone hsplit (by simp [hcreated])
    (by rw [hnumber, creations_reverse])
  exact hkept x (List.mem_reverse.mp hx) hdeletes

theorem creations_cons_of_none (h : v.created? r = none) :
    v.creations ((r, response) :: log) = v.creations log := by
  simp [creations, h]

/-- The books are right after a session was changed, if the answer tells its status. It holds for
patches and for solving alike, since both leave the specification's template and change one status.
-/
theorem Books.put {t : Store Failure μ ν} (h : v.Books log t) {s s' : Session Failure μ ν}
    (hs : t.sessions.find? id = some s) (htemplate : s'.spec.template = s.spec.template)
    (htold : v.Tells id r response s'.state) :
    v.Books ((r, response) :: log) (t.put id s') where
  created := h.created.trans (creations_cons_of_none htold.created?_eq_none).symm
  names := by
    -- the session is there, so it keeps its place in the list
    have hnames : (t.put id s').sessions.names = t.sessions.names :=
      (Named.names_insert ..).trans (if_pos (Named.mem_names_iff.mpr (by simp [hs])))
    rw [hnames]
    exact h.names
  found := by
    intro number x hx
    rw [Store.find?_put] at hx
    split at hx
    · next heq =>
        cases hx
        subst heq
        rw [htemplate]
        exact .told (h.found hs) htold
    · next hne =>
        exact .kept (h.found hx) (htold.not_deletes _) fun _ hother => hne (htold.id_eq hother)
  listed := by
    intro number template status hlives
    rw [Store.find?_put]
    split
    · rfl
    -- a session that lives now lived before, since this request has created none
    · cases hlives with
      | created hcreated =>
          rw [htold.created?_eq_none] at hcreated
          cases hcreated
      | told hlives => exact h.listed hlives
      | kept hlives => exact h.listed hlives

/-- The number of a new session is new. -/
theorem Books.find?_next {t : Store Failure μ ν} (h : v.Books log t) :
    t.sessions.find? (Store.idOf (t.created + 1)) = none := by
  cases hs : t.sessions.find? (Store.idOf (t.created + 1)) with
  | none => rfl
  | some s =>
      obtain ⟨number, hle, heq⟩ := h.exists_number hs
      have := Store.idOf_inj.mp heq
      omega

theorem Books.find?_gone {t : Store Failure μ ν} (h : v.Books log.reverse t) (hgone : v.Gone log id) :
    t.sessions.find? id = none := by
  cases hs : t.sessions.find? id with
  | none => rfl
  | some s =>
      obtain ⟨number, -, rfl⟩ := h.exists_number hs
      exact absurd rfl (hgone.ne_idOf (h.found hs))

/-- The books are right after a creation: the new session comes last and has the next number. The
number of the session is one more than the creations that the log tells of. -/
theorem Books.create {t : Store Failure μ ν} (h : v.Books log t) (hcreated : v.created? r = some spec) :
    v.Books ((r, response) :: log) (t.create spec).2 where
  created := by
    have hcount : v.creations ((r, response) :: log) = v.creations log + 1 := by
      simp [creations, hcreated]
    rw [hcount, ← h.created]
    rfl
  names := by
    have hnew : Store.idOf (t.created + 1) ∉ t.sessions.names := by
      rw [Named.mem_names_iff, h.find?_next]
      simp
    have hnames : (t.create spec).2.sessions.names
        = t.sessions.names ++ [Store.idOf (t.created + 1)] :=
      (Named.names_insert ..).trans (if_neg hnew)
    have hnumbers : (List.range' 1 (t.create spec).2.created).map Store.idOf
        = (List.range' 1 t.created).map Store.idOf ++ [Store.idOf (t.created + 1)] := by
      show (List.range' 1 (t.created + 1)).map Store.idOf = _
      rw [List.range'_concat, List.map_append]
      simp [Nat.add_comm]
    rw [hnames, hnumbers]
    exact h.names.append (List.Sublist.refl _)
  found := by
    intro number s hs
    rw [Store.find?_create] at hs
    split at hs
    · next heq =>
        cases hs
        obtain rfl := Store.idOf_inj.mp heq
        rw [h.created]
        exact .created hcreated
    · -- a creation tells nothing of older sessions
      have hreached := (created?_eq_some.mp hcreated).1
      refine .kept (h.found hs) (by simp [Deletes, hreached]) fun other htold => ?_
      rw [htold.created?_eq_none] at hcreated
      cases hcreated
  listed := by
    intro number template status hlives
    rw [Store.find?_create]
    split
    · rfl
    · next hne =>
        cases hlives with
        | created => exact absurd (by rw [← h.created]; rfl) hne
        | told hlives => exact h.listed hlives
        | kept hlives => exact h.listed hlives

/-- The books are right after a deletion. The session goes out of the list; its number is not given
again, for creations are still counted. -/
theorem Books.erase {t : Store Failure μ ν} (h : v.Books log t) (hdeletes : v.Deletes id r) :
    v.Books ((r, response) :: log) { t with sessions := t.sessions.erase id } := by
  have hcreated : v.created? r = none := created?_eq_none (by simp [hdeletes.1])
  -- the request deletes, so that it tells of no session
  have huntold : ∀ {other status}, ¬v.Tells other r response status :=
    fun htold => htold.not_deletes _ hdeletes
  refine ⟨h.created.trans (creations_cons_of_none hcreated).symm, ?_, ?_, ?_⟩
  · have hnames : List.Sublist (t.sessions.erase id).names t.sessions.names := by
      rw [Named.names_erase]
      exact List.filter_sublist
    exact hnames.trans h.names
  · intro number s hs
    -- sessions under other ids live on
    simp only [Named.find?_erase] at hs
    split at hs
    · cases hs
    · next hne =>
        refine .kept (h.found hs) ?_ fun _ => huntold
        rintro ⟨hreached, -⟩
        rw [hdeletes.1] at hreached
        cases hreached
        exact hne rfl
  · intro number template status hlives
    simp only [Named.find?_erase]
    -- a session that still lives was not deleted by this request
    cases hlives with
    | created h => simp [hcreated] at h
    | told _ htold => exact absurd htold huntold
    | kept hlives hkept =>
        split
        · next heq => exact absurd (heq ▸ hdeletes) hkept
        · exact h.listed hlives

/-- The step: whatever a request does to the table is told by the request and its answer. One case
for each effect, each by the lemma for that kind of change. -/
theorem Effect.books (h : Effect v st r response st') (hbooks : v.Books log st.store) :
    v.Books ((r, response) :: log) st'.store := by
  cases h with
  | created hcreated => exact hbooks.create hcreated
  | deleted hdeletes _ => exact hbooks.erase hdeletes
  | patched hreached hs htemplate hstatus hbody =>
      refine hbooks.put hs htemplate ?_
      rw [hstatus]
      obtain ⟨number, -, rfl⟩ := hbooks.exists_number hs
      refine .updated hreached ?_
      rw [Response.of_eq _ (hbody (Store.isEncodable_idOf number))]
  | @solved _ s _ _ _ hreached hs hspec hstatus =>
      refine hbooks.put hs (by rw [hspec]) ?_
      rcases hstatus with ⟨hsolved, hanswer⟩ | ⟨hfailed, hanswer⟩
      · rw [hsolved]
        exact .solved hreached hanswer
      · rw [hfailed]
        exact .failed hreached hanswer
  | kept hcreated hdelete hpatch hsolve =>
      refine ⟨hbooks.created.trans (creations_cons_of_none hcreated).symm, hbooks.names, ?_, ?_⟩
      · -- of a session that is there, the request and the answer would have to tell something else
        intro number s hs
        refine .kept (hbooks.found hs) ?_ ?_
        · intro hdeletes
          rw [hdelete _ hdeletes] at hs
          cases hs
        · intro other htold
          cases htold with
          | updated hreached hstatus => exact hpatch _ hreached hstatus
          | solved hreached _ => simp [hsolve _ hreached] at hs
          | failed hreached _ => simp [hsolve _ hreached] at hs
      · intro number template status hlives
        cases hlives with
        | created h => simp [hcreated] at h
        | told hlives => exact hbooks.listed hlives
        | kept hlives => exact hbooks.listed hlives

/-! ## Runs -/

theorem serve_cons (v : Service σ μ ν) (st : ServiceState σ μ ν) (r : ServiceRequest)
    (rest : List ServiceRequest) :
    v.serve st (r :: rest) = ((r, (v.answer st r).1) :: (v.serve (v.answer st r).2 rest).1,
      (v.serve (v.answer st r).2 rest).2) :=
  rfl

theorem serve_append (v : Service σ μ ν) (st : ServiceState σ μ ν) (rs rs' : List ServiceRequest) :
    v.serve st (rs ++ rs')
      = ((v.serve st rs).1 ++ (v.serve (v.serve st rs).2 rs').1,
        (v.serve (v.serve st rs).2 rs').2) := by
  induction rs generalizing st with
  | nil => rfl
  | cons r rest ih =>
      rw [List.cons_append, serve_cons, serve_cons, ih]
      rfl

theorem map_fst_serve (v : Service σ μ ν) (st : ServiceState σ μ ν) (rs : List ServiceRequest) :
    (v.serve st rs).1.map Prod.fst = rs := by
  induction rs generalizing st with
  | nil => rfl
  | cons r rest ih =>
      rw [serve_cons, List.map_cons, ih]

/-- The run: after any requests, the table holds what the log of requests and answers tells. Induction
on the requests, last one first. -/
theorem books_serve (v : Service σ μ ν) (w : σ) (rs : List ServiceRequest) :
    v.Books (v.serve ⟨.empty, w⟩ rs).1.reverse (v.serve ⟨.empty, w⟩ rs).2.store := by
  induction rs using List.reverseRecOn with
  | nil => exact v.books_empty
  | append_singleton rs r ih =>
      rw [serve_append, List.reverse_append]
      exact (v.answer_effect _ r).books ih

/-- What stands in a log was answered after what stands before it. -/
theorem answer_of_serve {rs : List ServiceRequest}
    {before after : List (ServiceRequest × Response)}
    (h : (v.serve st rs).1 = before ++ (r, response) :: after) :
    ∃ rs', (v.serve st rs').1 = before ∧ response = (v.answer (v.serve st rs').2 r).1 := by
  have hrequests : rs = before.map Prod.fst ++ r :: after.map Prod.fst := by
    rw [← map_fst_serve v st rs, h, List.map_append, List.map_cons]
  have hlength : (v.serve st (before.map Prod.fst)).1.length = before.length := by
    rw [← List.length_map Prod.fst, map_fst_serve, List.length_map]
  rw [hrequests, serve_append, serve_cons] at h
  obtain ⟨hbefore, hrest⟩ := List.append_inj h hlength
  obtain ⟨hfirst, -⟩ := List.cons.inj hrest
  exact ⟨_, hbefore, (congrArg Prod.snd hfirst).symm⟩

/-! ## Numbers -/

/-- All but the template can be written in any case. -/
theorem isEncodable_creation (number : Nat) (template : String) :
    (Value.ofFields [("model_id", .str (Store.idOf number)), ("template", .str template),
      ("status", .str "created")]).isEncodable = (Value.str template).isEncodable := by
  have hwords : ∀ word ∈ ["model_id", "template", "status", "created"],
      (Value.str word).isEncodable = true := by decide +kernel
  simp [Value.isEncodable_ofFields, hwords, Store.isEncodable_idOf]

/-- The answer to a creation is a success if the template can be written. -/
theorem status_creationAnswer (number : Nat) (template : String) :
    (creationAnswer number template).status = 201 ↔ (Value.str template).isEncodable := by
  rw [← isEncodable_creation number]
  exact Response.status_of_eq (by decide)

/-- Otherwise the service crashes over it. -/
theorem creationAnswer_eq_crashed (number : Nat) {template : String}
    (h : (Value.str template).isEncodable = false) :
    creationAnswer number template = .crashed .unsendable := by
  unfold creationAnswer Response.of Response.written
  rw [isEncodable_creation, h]
  rfl

/-- Answers that can be written give different ids for different numbers. -/
theorem creationAnswer_inj {m n : Nat} {template : String} (h : (Value.str template).isEncodable)
    (heq : creationAnswer m template = creationAnswer n template) : m = n := by
  have hbody : ∀ number, (creationAnswer number template).body
      = some (.ofFields [("model_id", .str (Store.idOf number)), ("template", .str template),
        ("status", .str "created")]) := by
    intro number
    have hwritten := (isEncodable_creation number template).trans h
    rw [creationAnswer, Response.of_eq 201 hwritten, Value.sent_ofFields]
    simp
  have hbodies := congrArg Response.body heq
  rw [hbody, hbody] at hbodies
  have hid := (List.cons.inj (Value.map.inj (Option.some.inj hbodies))).1
  exact Store.idOf_inj.mp (Value.str.inj (congrArg Prod.snd hid))

/-- The request is answered as a creation that has succeeded. -/
def succeeds (v : Service σ μ ν) (x : ServiceRequest × Response) : Bool :=
  v.reached? x.1 = some .models && x.1.method == "POST" && x.2.status == 201

/-! ## The table -/

/-- The row of a session in the list of sessions. -/
def row (number : Nat) (template : String) (status : Status) : Value :=
  .ofFields [("id", .str (Store.idOf number)), ("template", .str template),
    ("status", .str status.name)]

/-- The rows of the sessions in a table, by their numbers. Their order is that of the creations,
because names that are taken out leave the order of the others. -/
theorem Books.exists_rows {t : Store Failure μ ν} (h : v.Books log t) :
    ∃ rows : List (Nat × String × Status), rows.Pairwise (fun a b => a.1 < b.1)
      ∧ (∀ x ∈ rows, v.Lives log x.1 x.2.1 x.2.2)
      ∧ (∀ number template status, v.Lives log number template status →
        number ∈ rows.map Prod.fst)
      ∧ t.sessions.entries.map (fun e => Value.ofFields (summary e.1 e.2))
        = rows.map fun x => row x.1 x.2.1 x.2.2 := by
  -- the names are those of some numbers, in their order, which are put beside the entries
  obtain ⟨numbers, hnumbers, hnames⟩ := List.sublist_map_iff.mp h.names
  have hpairs : List.Forall₂ (fun e number => e.1 = Store.idOf number) t.sessions.entries
      numbers := by
    have hsame := List.forall₂_eq_eq_eq.symm ▸ hnames
    rwa [List.forall₂_map_right_iff, Named.names, List.forall₂_map_left_iff] at hsame
  obtain ⟨hlength, hzip⟩ := List.forall₂_iff_zip.mp hpairs
  have hids : ∀ p ∈ t.sessions.entries.zip numbers, p.1.1 = Store.idOf p.2 :=
    fun p hp => hzip hp
  have hfirst : (t.sessions.entries.zip numbers).map Prod.fst = t.sessions.entries :=
    List.map_fst_zip (by omega)
  have hsecond : (t.sessions.entries.zip numbers).map Prod.snd = numbers :=
    List.map_snd_zip (by omega)
  let rows := (t.sessions.entries.zip numbers).map fun p => (p.2, p.1.2.spec.template, p.1.2.state)
  have hrows : rows.map Prod.fst = numbers := by
    refine Eq.trans ?_ hsecond
    rw [List.map_map]
    rfl
  refine ⟨rows, ?_, ?_, ?_, ?_⟩
  · rw [← List.pairwise_map, hrows]
    exact (List.pairwise_lt_range' 1).sublist hnumbers
  · intro x hx
    obtain ⟨p, hp, rfl⟩ := List.mem_map.mp hx
    have hentry : (p.1.1, p.1.2) ∈ t.sessions.entries := (List.of_mem_zip hp).1
    have hfound := (t.sessions.mem_entries_iff _ _).mp hentry
    rw [hids p hp] at hfound
    exact h.found hfound
  · intro number template status hlives
    have hmem := Named.mem_names_iff.mpr (h.listed hlives)
    rw [hnames] at hmem
    obtain ⟨other, hother, heq⟩ := List.mem_map.mp hmem
    rw [hrows, ← Store.idOf_inj.mp heq]
    exact hother
  · have hmaps := congrArg (List.map fun e => Value.ofFields (summary e.1 e.2)) hfirst
    rw [List.map_map] at hmaps
    refine hmaps.symm.trans ?_
    rw [List.map_map]
    refine List.map_congr_left fun p hp => ?_
    show Value.ofFields (summary p.1.1 p.1.2) = row p.2 p.1.2.spec.template p.1.2.state
    rw [hids p hp]
    rfl

/-! ## The ledger -/

/-- What a log of requests and answers, first request first, tells of a service and of its next
answers. -/
structure KeepsLedger (v : Service σ μ ν) (log : List (ServiceRequest × Response))
    (st : ServiceState σ μ ν) : Prop where
  /-- A session that is created gets the next number, and its creation succeeds if the name of the
  template can be written. -/
  created : ∀ {before r response after spec}, log = before ++ (r, response) :: after →
    v.created? r = some spec →
    response = creationAnswer (v.creations before + 1) spec.template
      ∧ (response.status = 201 ↔ (Value.str spec.template).isEncodable)
  /-- As long as the names of templates can be written, the creations that succeed are numbered one
  after the other. -/
  numbered : ∀ {before r response after}, log = before ++ (r, response) :: after →
    (∀ x ∈ before, ∀ spec, v.created? x.1 = some spec → (Value.str spec.template).isEncodable) →
    v.succeeds (r, response) →
    ∃ spec, v.created? r = some spec
      ∧ response = creationAnswer (before.countP v.succeeds + 1) spec.template
  /-- No number is given twice, whatever has been deleted in between. -/
  unique : ∀ {before x between y after}, log = before ++ x :: (between ++ y :: after) →
    (v.created? x.1).isSome → (v.created? y.1).isSome →
    Store.idOf (v.creations before + 1) ≠ Store.idOf (v.creations (before ++ x :: between) + 1)
  /-- A creation that is refused takes no number. -/
  refused : ∀ {r}, v.reached? r = some .models → r.method = "POST" → v.created? r = none →
    400 ≤ (v.answer st r).1.status ∧ (v.answer st r).2 = st
  /-- The list of sessions has a row for each session that lives, in the order of their creation, with
  its template and its status, and the number of sessions is the number of these rows. -/
  table : ∃ rows : List (Nat × String × Status), rows.Pairwise (fun a b => a.1 < b.1)
    ∧ (∀ x ∈ rows, v.Lives log.reverse x.1 x.2.1 x.2.2)
    ∧ (∀ number template status, v.Lives log.reverse number template status →
      number ∈ rows.map Prod.fst)
    ∧ (∀ r, v.reached? r = some .models → r.method = "GET" → v.answer st r
      = (.of 200 (.ofFields [("models", .list (rows.map fun x => row x.1 x.2.1 x.2.2))]), st))
    ∧ ∀ r, v.reached? r = some .health → v.answer st r
      = (.of 200 (.ofFields [("status", .str "ok"),
        ("active_models", .int (Int.ofNat rows.length))]), st)
  /-- Under an id that no session has had, or whose session has been deleted, none is found, and
  nothing changes. -/
  missing : ∀ {id r}, v.Gone log id → v.AsksFor id r →
    v.answer st r = (.ofFailure (.noSession id), st)
      ∧ ((Value.str id).isEncodable → (v.answer st r).1.status = 404
        ∧ (v.answer st r).1.body = some (.ofFields [("detail", .ofFields
          [("error", .str "SessionNotFoundError"),
            ("message", .str ("Model '" ++ id ++ "' not found"))])]))

/-- A creation that is answered as a success has created a session. -/
theorem isSome_created_of_succeeds {rs : List ServiceRequest} {x : ServiceRequest × Response}
    (hx : x ∈ (v.serve st rs).1) (h : v.succeeds x) : (v.created? x.1).isSome := by
  obtain ⟨r, response⟩ := x
  simp only [succeeds, Bool.and_eq_true, beq_iff_eq, decide_eq_true_eq] at h
  obtain ⟨⟨hreached, hpost⟩, hstatus⟩ := h
  obtain ⟨before, after, hlog⟩ := List.append_of_mem hx
  obtain ⟨rs', -, hresponse⟩ := answer_of_serve hlog
  cases hcreated : v.created? r with
  | some spec => rfl
  | none =>
      have hrefused : 400 ≤ (v.answer (v.serve st rs').2 r).1.status :=
        (answer_of_uncreated hreached hpost hcreated).1
      rw [← hresponse, hstatus] at hrefused
      omega

/-- A session that is created gets the next number. -/
theorem response_of_created {w : σ} {rs : List ServiceRequest}
    {before after : List (ServiceRequest × Response)}
    (hlog : (v.serve ⟨.empty, w⟩ rs).1 = before ++ (r, response) :: after)
    (hspec : v.created? r = some spec) :
    response = creationAnswer (v.creations before + 1) spec.template := by
  obtain ⟨rs', hbefore, hresponse⟩ := answer_of_serve hlog
  have hcount := (v.books_serve w rs').created
  rw [hbefore, creations_reverse] at hcount
  rw [hresponse, answer_of_created hspec, hcount]

/-- If all templates can be written, as many creations have succeeded as there have been. -/
theorem creations_eq_countP_succeeds {w : σ} {rs : List ServiceRequest}
    {before after : List (ServiceRequest × Response)}
    (hlog : (v.serve ⟨.empty, w⟩ rs).1 = before ++ after)
    (hwritten : ∀ x ∈ before, ∀ spec, v.created? x.1 = some spec →
      (Value.str spec.template).isEncodable) :
    v.creations before = before.countP v.succeeds := by
  refine List.countP_congr fun x hx => ⟨fun hsome => ?_, fun hsucceeds => ?_⟩
  · obtain ⟨spec, hspec⟩ := Option.isSome_iff_exists.mp hsome
    obtain ⟨before', after', rfl⟩ := List.append_of_mem hx
    rw [List.append_assoc, List.cons_append] at hlog
    -- what is created and can be written is answered with success
    have hstatus : x.2.status = 201 := by
      rw [response_of_created hlog hspec, status_creationAnswer]
      exact hwritten x hx spec hspec
    obtain ⟨hreached, hpost, -⟩ := created?_eq_some.mp hspec
    simp [succeeds, hreached, hpost, hstatus]
  · have hmem : x ∈ (v.serve ⟨.empty, w⟩ rs).1 := by simp [hlog, hx]
    exact isSome_created_of_succeeds hmem hsucceeds

/-- Whatever requests are made of a service without sessions, their log tells what the service keeps
and answers. -/
theorem keepsLedger_serve (v : Service σ μ ν) (w : σ) (rs : List ServiceRequest) :
    v.KeepsLedger (v.serve ⟨.empty, w⟩ rs).1 (v.serve ⟨.empty, w⟩ rs).2 := by
  have hbooks := v.books_serve w rs
  refine ⟨?_, ?_, ?_, answer_of_uncreated, ?_, ?_⟩
  · -- the next number
    intro before r response after spec hlog hspec
    have hresponse := response_of_created hlog hspec
    exact ⟨hresponse, by rw [hresponse, status_creationAnswer]⟩
  · -- which is that of the successes, as long as nothing else has been created
    intro before r response after hlog hwritten hsucceeds
    have hmem : (r, response) ∈ (v.serve ⟨.empty, w⟩ rs).1 := by simp [hlog]
    obtain ⟨spec, hspec⟩ :=
      Option.isSome_iff_exists.mp (isSome_created_of_succeeds hmem hsucceeds)
    have hcount := creations_eq_countP_succeeds hlog hwritten
    exact ⟨spec, hspec, hcount ▸ response_of_created hlog hspec⟩
  · -- two creations are counted one after the other
    intro before x between y after hlog hx hy heq
    have hnumber := Store.idOf_inj.mp heq
    have hone : 0 < v.creations (x :: between) :=
      List.countP_pos_iff.mpr ⟨x, List.mem_cons_self, hx⟩
    rw [creations_append] at hnumber
    omega
  · -- the list and the number of its rows
    obtain ⟨rows, hsorted, hlive, hall, hentries⟩ := hbooks.exists_rows
    refine ⟨rows, hsorted, hlive, hall, ?_, ?_⟩
    · intro r hreached hget
      rw [answer_of_reached hreached (by simp [hget]), carryOut, if_neg (by simp [hget])]
      exact congrArg (fun l => (Response.of 200 (.ofFields [("models", .list l)]), _)) hentries
    · intro r hreached
      have hmethod : r.method = "GET" := by
        simpa [Resource.methods] using method_mem_of_reached hreached
      have hsize : (v.serve ⟨.empty, w⟩ rs).2.store.size = rows.length := by
        simpa [Store.size, Named.size] using congrArg List.length hentries
      rw [answer_of_reached hreached (by simp [hmethod]), carryOut, hsize]
      rfl
  · -- ids without a session
    intro id r hgone hasks
    have hnone := hbooks.find?_gone hgone
    have hanswer := answer_of_missing hasks hnone
    refine ⟨hanswer, fun hid => ?_⟩
    rw [hanswer, Response.ofFailure_noSession hid]
    exact ⟨rfl, rfl⟩

/-! ### Three requests, and two -/

/-- A body that holds a template and nothing else creates a session of it. -/
theorem created?_of_isBare {t : String} (hv : v.access = ⟨"", 0⟩) (hmethod : r.method = "POST")
    (hpath : r.path = "/api/models") (hoverlong : r.isOverlong = false)
    (hcontent : r.content?.map (isBare t) = some true) (ht : (Text.stripped t).isEmpty = false) :
    v.created? r = some (.bare t) := by
  have hresource : Resource.ofPath? r.path = some .models := by
    rw [hpath]
    decide +kernel
  have hreached := reached?_of_free hv hresource (by rw [hmethod]; rfl)
  exact created?_eq_some.mpr ⟨hreached, hmethod, hoverlong, _, content_of_isBare hcontent,
    Config.decode_template ht⟩

/-- A session is deleted between two creations: its number is not given again, and nothing is found
under its id. -/
theorem keepsLedger_of_deletion :
    let v : Service (Loader Unit × World Unit) (Built Model) Solution := Service.standard ⟨"", 0⟩
    let creation : ServiceRequest := ⟨"POST", "/api/models", [], "\x7b\"template\": \"t\"\x7d"⟩
    let deletion : ServiceRequest := ⟨"DELETE", "/api/models/model_1", [], ""⟩
    let reading : ServiceRequest := ⟨"GET", "/api/models/model_1", [], ""⟩
    ∀ w, let run := v.serve ⟨.empty, w⟩ [creation, deletion, creation]
      run.1.map Prod.snd = [creationAnswer 1 "t",
          .of 200 (.ofFields [("message", .str "Model deleted"), ("model_id", .str "model_1")]),
          creationAnswer 2 "t"]
        ∧ (v.answer run.2 reading).1.status = 404 := by
  intro v creation deletion reading w run
  have hcreated : v.created? creation = some (.bare "t") :=
    created?_of_isBare rfl rfl rfl (by decide +kernel) (by decide +kernel) (by decide +kernel)
  have hdeletion : v.reached? deletion = some (.model "model_1") :=
    reached?_of_free rfl (by decide +kernel) (by decide)
  have hreading : v.reached? reading = some (.model "model_1") :=
    reached?_of_free rfl (by decide +kernel) (by decide)
  have hnone : v.created? deletion = none := created?_eq_none (by simp [hdeletion])
  have hledger := v.keepsLedger_serve w [creation, deletion, creation]
  -- the session is there when it is deleted
  have hfirst : v.answer ⟨.empty, w⟩ creation
      = (creationAnswer 1 "t", ⟨(Store.empty.create (.bare "t")).2, w⟩) :=
    answer_of_created hcreated
  let deleted := Response.of 200
    (.ofFields [("message", .str "Model deleted"), ("model_id", .str "model_1")])
  have hsecond : (v.answer ⟨(Store.empty.create (.bare "t")).2, w⟩ deletion).1 = deleted := by
    rw [answer_of_reached hdeletion (by decide), carryOut, if_pos (by decide)]
    rfl
  obtain ⟨third, hlog⟩ : ∃ third, run.1 = [(creation, creationAnswer 1 "t"),
      (deletion, deleted), (creation, third)] := by
    refine ⟨(v.answer (v.answer (v.answer ⟨.empty, w⟩ creation).2 deletion).2 creation).1, ?_⟩
    have hanswers : run.1 = [(creation, (v.answer ⟨.empty, w⟩ creation).1),
        (deletion, (v.answer (v.answer ⟨.empty, w⟩ creation).2 deletion).1),
        (creation, (v.answer (v.answer (v.answer ⟨.empty, w⟩ creation).2 deletion).2 creation).1)] :=
      rfl
    rw [hanswers, hfirst, hsecond]
  have hcount : v.creations [(creation, creationAnswer 1 "t"), (deletion, deleted)] = 1 := by
    simp [creations, hcreated, hnone]
  have hthird : third = creationAnswer 2 "t" := by
    have hsplit : run.1 = [(creation, creationAnswer 1 "t"), (deletion, deleted)]
        ++ (creation, third) :: [] := hlog
    have hnumbered := (hledger.created hsplit hcreated).1
    rwa [hcount] at hnumbered
  have hgone : v.Gone run.1 "model_1" := by
    intro before r response after hsplit hr hid
    rw [hlog] at hsplit
    rcases before with _ | ⟨x, _ | ⟨y, _ | ⟨z, rest⟩⟩⟩
    · obtain ⟨-, rfl⟩ := List.cons.inj hsplit
      exact ⟨_, List.mem_cons_self, hdeletion, rfl⟩
    · simp only [List.cons_append, List.nil_append, List.cons.injEq, Prod.mk.injEq] at hsplit
      obtain ⟨-, ⟨rfl, -⟩, -⟩ := hsplit
      simp [hnone] at hr
    · simp only [List.cons_append, List.nil_append, List.cons.injEq] at hsplit
      obtain ⟨rfl, rfl, -⟩ := hsplit
      rw [hcount] at hid
      exact absurd hid (by decide)
    · simp at hsplit
  refine ⟨by rw [hlog, hthird]; rfl, ?_⟩
  exact ((hledger.missing hgone (.model hreading)).2 (by decide +kernel)).1

/-- The template of the first configuration is half of a pair: the service crashes over the answer.
The creation that succeeds first is then the second, and it is answered with the second number. -/
theorem number_taken_by_crash :
    let v : Service (Loader Unit × World Unit) (Built Model) Solution := Service.standard ⟨"", 0⟩
    let half : ServiceRequest :=
      ⟨"POST", "/api/models", [], "\x7b\"template\":\"\\ud800\"\x7d"⟩
    let plain : ServiceRequest := ⟨"POST", "/api/models", [], "\x7b\"template\":\"t\"\x7d"⟩
    ∀ w, let log := (v.serve ⟨.empty, w⟩ [half, plain]).1
      log = [(half, .crashed .unsendable), (plain, creationAnswer 2 "t")]
        ∧ v.succeeds (half, .crashed .unsendable) = false ∧ v.succeeds (plain, creationAnswer 2 "t") = true
        ∧ creationAnswer 2 "t" ≠ creationAnswer 1 "t" := by
  intro v half plain w log
  have hhalf : v.created? half = some (.bare (String.ofList [Json.loneHalf 0xD800])) :=
    created?_of_isBare rfl rfl rfl (by decide +kernel) (by decide +kernel) (by decide +kernel)
  have hplain : v.created? plain = some (.bare "t") :=
    created?_of_isBare rfl rfl rfl (by decide +kernel) (by decide +kernel) (by decide +kernel)
  have hunwritten : (Value.str (String.ofList [Json.loneHalf 0xD800])).isEncodable = false := by
    decide +kernel
  have hwritten : (Value.str "t").isEncodable := by decide +kernel
  -- the crash comes after the creation, so the store has counted it
  have hfirst : v.answer ⟨.empty, w⟩ half
      = (creationAnswer 1 (String.ofList [Json.loneHalf 0xD800]),
        ⟨(Store.empty.create (.bare (String.ofList [Json.loneHalf 0xD800]))).2, w⟩) :=
    answer_of_created hhalf
  have hsecond : ∀ t : Store Failure (Built Model) Solution, t.created = 1 →
      (v.answer ⟨t, w⟩ plain).1 = creationAnswer 2 "t" := by
    intro t ht
    rw [answer_of_created hplain, ht]
    rfl
  have hlog : log = [(half, .crashed .unsendable), (plain, creationAnswer 2 "t")] := by
    have hanswers : log = [(half, (v.answer ⟨.empty, w⟩ half).1),
        (plain, (v.answer (v.answer ⟨.empty, w⟩ half).2 plain).1)] := rfl
    rw [hanswers, hfirst, hsecond _ rfl, creationAnswer_eq_crashed 1 hunwritten]
  refine ⟨hlog, ?_, ?_, fun heq => ?_⟩
  · simp [succeeds, Response.crashed]
  · obtain ⟨hreached, hpost, -⟩ := created?_eq_some.mp hplain
    have hstatus := (status_creationAnswer 2 "t").mpr hwritten
    simp [succeeds, hreached, hpost, hstatus]
  · cases creationAnswer_inj hwritten heq

end Service

end Rostering
