import Rostering.Proofs.Json.Number
import Rostering.Service.Answer

/-!
# What is sent

An answer is written when a request has been carried out. Reports of failures are sent as they are,
since there are no floats in them, and the ids of sessions can always be written. Other texts may have
no bytes, and then the service fails over its answer.

## The architecture

* **`Value.isEncodable_str`**, **`Value.isEncodable_ofFields`** — what can be written.
* **`Failure.sent_report`** — reports are sent as they are.
* **`Response.of_refused`** — an answer that is meant to be good is only refused if it cannot be
  written.
-/

namespace Rostering

/-! ## Texts that can be written -/

theorem Value.isEncodable_str {s : String} (h : ∀ c ∈ s.toList, c.toNat < 0x10D800) :
    (Value.str s).isEncodable = true := by
  rw [isEncodable, List.all_eq_true]
  intro c hc
  have := h c hc
  simp [Json.isLoneHalf]
  omega

theorem Value.isEncodable_append (s t : String) :
    (Value.str (s ++ t)).isEncodable = ((Value.str s).isEncodable && (Value.str t).isEncodable) := by
  simp [isEncodable, String.toList_append, List.all_append]

theorem Value.isEncodable_ofFields (fields : List (String × Value)) :
    (Value.ofFields fields).isEncodable
      = fields.all fun field => (Value.str field.1).isEncodable && field.2.isEncodable := by
  induction fields with
  | nil => rfl
  | cons field fields ih =>
      rw [List.all_cons, ← ih]
      rfl

/-- Ids can always be written, for they are made of ASCII. -/
theorem Store.isEncodable_idOf (n : Nat) : (Value.str (idOf n)).isEncodable = true := by
  refine Value.isEncodable_str fun c hc => ?_
  rw [idOf, String.toList_append, List.mem_append] at hc
  rcases hc with hc | hc
  · have hletters : ∀ c ∈ "model_".toList, c.toNat < 0x80 := by simp
    have := hletters c hc
    omega
  · -- the rest are decimal digits, none above the nine
    have hdigits : c ∈ Nat.toDigits 10 n := by
      simpa [Nat.toString_eq_ofList_toDigits] using hc
    have hdigit := Nat.isDigit_of_mem_toDigits (by decide) (by decide) hdigits
    have hle : c.toNat ≤ '9'.toNat := (Char.isDigit_iff_toNat.mp hdigit).2
    have hnine : '9'.toNat = 57 := rfl
    omega

/-! ## Failures as they are answered -/

@[simp] theorem Value.sent_str (s : String) : (Value.str s).sent = .str s := rfl

@[simp] theorem Value.sent_ofTexts (ts : List String) :
    (Value.ofTexts ts).sent = .ofTexts ts := by
  have hitems : sentItems (ts.map .str) = ts.map .str := by
    induction ts with
    | nil => rfl
    | cons t ts ih => rw [List.map_cons, sentItems, ih, Value.sent_str]
  rw [ofTexts, sent, hitems]

/-- Fields are sent as they are if their values are. -/
theorem Value.sent_ofFields {fields : List (String × Value)}
    (h : ∀ field ∈ fields, field.2.sent = field.2) :
    (Value.ofFields fields).sent = .ofFields fields := by
  have hentries : sentEntries (Entries.ofFields fields) = Entries.ofFields fields := by
    induction fields with
    | nil => rfl
    | cons field fields ih =>
        have hrest := ih fun other hother => h other (List.mem_cons_of_mem _ hother)
        rw [Entries.ofFields, List.map_cons, sentEntries, h field (List.mem_cons_self ..)]
        exact congrArg _ hrest
  rw [ofFields, sent, hentries]

namespace Failure

/-- The report of a failure names it first and gives its wording. -/
theorem exists_report (e : Failure) :
    ∃ more, e.report = .ofFields ([("error", .str e.name), ("message", .str e.message)] ++ more) := by
  cases e with
  | build kind text name cause =>
      cases cause with
      | none => exact ⟨_, rfl⟩
      | some cause => exact ⟨_, rfl⟩
  | _ => exact ⟨_, rfl⟩

theorem sent_optionalField {α : Type} {f : α → Value} (hf : ∀ a, (f a).sent = f a) (key : String)
    (a? : Option α) : ∀ field ∈ optionalField key (a?.map f), field.2.sent = field.2 := by
  cases a? with
  | none => exact fun field hfield => absurd hfield List.not_mem_nil
  | some a =>
      intro field hfield
      obtain rfl := List.mem_singleton.mp hfield
      exact hf a

/-- There are no floats in what a failure has to say. -/
theorem sent_context (e : Failure) : ∀ field ∈ e.context, field.2.sent = field.2 := by
  cases e with
  | config e => exact List.forall_mem_cons.mpr ⟨rfl, sent_optionalField Value.sent_str _ _⟩
  | patch e => exact List.forall_mem_cons.mpr ⟨rfl, sent_optionalField Value.sent_ofTexts _ _⟩
  | source e => exact List.forall_mem_cons.mpr ⟨rfl, sent_optionalField Value.sent_str _ _⟩
  | build => exact List.forall_mem_cons.mpr ⟨rfl, sent_optionalField Value.sent_str _ _⟩
  | capability e => simp [context]
  | fault f =>
      cases f with
      | noField name => simp [context]
      | _ => exact fun field hfield => absurd hfield List.not_mem_nil
  | _ => exact fun field hfield => absurd hfield List.not_mem_nil

theorem sent_head (e : Failure) : ∀ field ∈ [("error", Value.str e.name),
    ("message", Value.str e.message)] ++ e.context, field.2.sent = field.2 := by
  intro field hfield
  rcases List.mem_append.mp hfield with hhead | hcontext
  · simp only [List.mem_cons, List.not_mem_nil, or_false] at hhead
    rcases hhead with rfl | rfl <;> rfl
  · exact e.sent_context field hcontext

/-- Reports are sent as they are. Induction on the causes. -/
theorem sent_report (e : Failure) : e.report.sent = e.report := by
  induction e using report.induct with
  | case1 kind text name cause ih =>
      refine Value.sent_ofFields (List.forall_mem_append.mpr ⟨sent_head _, fun field hfield => ?_⟩)
      obtain rfl := List.mem_singleton.mp hfield
      exact ih
  | case2 e hcause =>
      rw [report]
      · exact Value.sent_ofFields e.sent_head
      · exact hcause

end Failure

namespace Response

theorem written_eq {f : Fault} {v : Value} (status : Nat) (h : v.isEncodable) :
    written f status v = { status := status, body := some v.sent } := if_pos h

theorem of_eq {v : Value} (status : Nat) (h : v.isEncodable) :
    of status v = { status := status, body := some v.sent } := written_eq status h

/-- An answer that is meant to be good is only refused if it cannot be written. -/
theorem of_refused {status : Nat} {v : Value} (hgood : status < 400)
    (h : 400 ≤ (of status v).status) :
    v.isEncodable = false ∧ of status v = .crashed .unsendable := by
  unfold of written at h ⊢
  split at h
  · -- the answer has been written, so it has the status that was meant
    simp only at h
    omega
  · next hv => exact ⟨by simpa using hv, if_neg hv⟩

/-- An answer has the status that is meant exactly if it can be written. -/
theorem status_of_eq {status : Nat} (hstatus : status ≠ 500) {v : Value} :
    (of status v).status = status ↔ v.isEncodable = true := by
  unfold of written
  split
  · next h => exact iff_of_true rfl h
  · next h => exact iff_of_false hstatus.symm h

theorem le_status_written {f : Fault} {status : Nat} (h : 400 ≤ status) (v : Value) :
    400 ≤ (written f status v).status := by
  unfold written
  split
  · exact h
  · show 400 ≤ 500
    decide

theorem status_written (f : Fault) (v : Value) : (written f 500 v).status = 500 := by
  unfold written
  split <;> rfl

@[simp] theorem status_forMethod (method : String) (response : Response) :
    (response.forMethod method).status = response.status := by
  unfold forMethod
  split <;> rfl

theorem forMethod_eq {method : String} (h : method ≠ "HEAD") (response : Response) :
    response.forMethod method = response := if_neg (by simpa using h)

end Response

/-- The failure is answered with its report, if the service has a status for it and the report can
be written. -/
theorem Response.ofFailure_eq {e : Failure} {status : Nat} (h : e.status? = some status)
    (hreport : e.report.isEncodable) :
    ofFailure e = { status := status, body := some (.ofFields [("detail", e.report)]) } := by
  have hbody : (Value.ofFields [("detail", e.report)]).isEncodable := by
    have hkey : (Value.str "detail").isEncodable = true := by decide +kernel
    simp [Value.isEncodable_ofFields, hkey, hreport]
  have hsent : (Value.ofFields [("detail", e.report)]).sent = .ofFields [("detail", e.report)] :=
    Value.sent_ofFields fun field hfield => by
      obtain rfl := List.mem_singleton.mp hfield
      exact e.sent_report
  rw [ofFailure, h]
  simp only [detail, written_eq status hbody, hsent]

theorem Response.body_ofFailure {e : Failure} (h : e.status?.isSome) (hreport : e.report.isEncodable) :
    (ofFailure e).body = some (.ofFields [("detail", e.report)]) := by
  obtain ⟨status, hstatus⟩ := Option.isSome_iff_exists.mp h
  rw [ofFailure_eq hstatus hreport]

/-- A failure is never answered as a success. -/
theorem Failure.le_status (e : Failure) : 400 ≤ (Response.ofFailure e).status := by
  cases e <;> exact Response.le_status_written (by decide) _

/-- Whoever asks for a session that is not there is told so, if the id can be written. -/
theorem Response.ofFailure_noSession {id : String} (h : (Value.str id).isEncodable) :
    ofFailure (.noSession id) = { status := 404, body := some (.ofFields [("detail", .ofFields
      [("error", .str "SessionNotFoundError"),
        ("message", .str ("Model '" ++ id ++ "' not found"))])]) } := by
  have hwords : ∀ word ∈ ["error", "message", "SessionNotFoundError", "Model '", "' not found"],
      (Value.str word).isEncodable = true := by decide +kernel
  have hreport : (Failure.noSession id).report = .ofFields
      [("error", .str "SessionNotFoundError"),
        ("message", .str ("Model '" ++ id ++ "' not found"))] := rfl
  rw [ofFailure_eq rfl (by simp [hreport, Value.isEncodable_ofFields, Value.isEncodable_append,
    hwords, h]), hreport]

end Rostering
