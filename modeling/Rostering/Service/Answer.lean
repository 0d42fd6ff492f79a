import Rostering.Build
import Rostering.Config.Encode
import Rostering.Model.Report
import Rostering.PatchRequest
import Rostering.Presentation
import Rostering.Service.Request
import Rostering.Session.Store

/-!
# Service.Answer — the answers of the service

A `Service` answers requests on a store of sessions. `Service.answer` is one step: a request that
passes the guards and names a resource and one of its methods is carried out, and any other
request leaves the store as it is.

Requests whose bodies do not have the form that is asked for are refused without a reason. An answer
is written after the request has been carried out, and a text in it may turn out to have no bytes
(`Response.written`). Nothing in the service gets hold of the fault then: the client is told no more
than that there was one, and the fault itself goes on to whatever runs the service
(`Response.crashed`).
-/

namespace Rostering

/-! ## Responses -/

mutual

/-- The value as it is sent: floats that are no finite numbers have no written form, and null
stands for them. -/
def Value.sent : Value → Value
  | .float x => if floatIsFinite x then .float x else .null
  | .list items => .list (sentItems items)
  | .map es => .map (sentEntries es)
  | v => v

def sentItems : List Value → List Value
  | [] => []
  | v :: rest => v.sent :: sentItems rest

/-- Entries as they are sent. -/
def sentEntries : List (Value × Value) → List (Value × Value)
  | [] => []
  | (k, v) :: rest => (k, v.sent) :: sentEntries rest

end

mutual

/-- All texts in the value can be written as bytes: none has a half of a pair that stands alone. -/
def Value.isEncodable : Value → Bool
  | .str s => s.toList.all fun c => !Json.isLoneHalf c
  | .list items => areEncodable items
  | .map es => entriesAreEncodable es
  | _ => true

def areEncodable : List Value → Bool
  | [] => true
  | v :: rest => v.isEncodable && areEncodable rest

def entriesAreEncodable : List (Value × Value) → Bool
  | [] => true
  | (k, v) :: rest => k.isEncodable && v.isEncodable && entriesAreEncodable rest

end

/-- A status, and a body if one is sent, or else a plain text. -/
structure Response where
  status : Nat
  body : Option Value
  text : String := ""
  /-- The fault that the service has let through, if any. -/
  escaped : Option Fault := none

namespace Response

/-- The service has failed by a fault that it lets through, and has no answer of its own. -/
def crashed (f : Fault) : Response := ⟨500, none, "Internal Server Error", some f⟩

/-- A response with a body. The service fails over a body that cannot be written, by the fault that
is given, whatever has been done before. -/
def written (f : Fault) (status : Nat) (v : Value) : Response :=
  if v.isEncodable then { status := status, body := some v.sent } else crashed f

/-- An answer. -/
def of (status : Nat) (v : Value) : Response := written .unsendable status v

/-- What is sent of a response: where its head is asked for, no body. -/
def forMethod (method : String) (response : Response) : Response :=
  if method == "HEAD" then { response with body := none, text := "" } else response

/-- A refusal, or the report of a failure. -/
def detail (status : Nat) (v : Value) : Response :=
  written .unencodable status (.ofFields [("detail", v)])

/-- The body of the request does not have the right form. -/
def malformed : Response := of 422 .null

def unauthorized : Response := detail 401 (.str "Unauthorized")

def unreadable : Response := detail 400 (.str "There was an error parsing the body")

/-- Stands for the trace of a failure that nobody foresaw. -/
def undisclosedTrace : String := "<traceback>"

def ofFailure (e : Failure) : Response :=
  match e.status? with
  | some status => detail status e.report
  | none => detail 500 (.str undisclosedTrace)

def ofResult {α : Type} (r : Except Failure α) (f : α → Value) : Response :=
  match r with
  | .ok a => of 200 (f a)
  | .error e => ofFailure e

end Response

/-! ## Descriptions -/

def serviceDescription : Value :=
  let scheme := Value.ofFields [("type", .str "apiKey"), ("in", .str "header"),
    ("name", .str "x-api-key"), ("description", .str "Enter your API key")]
  let needs := fun (resource : Resource) =>
    Value.list (match resource with
      | .health => []
      | _ => [.ofFields [("ApiKeyAuth", .list [])]])
  .ofFields [
    ("info", .ofFields [("title", .str "Optimization Modelling API"),
      ("description", .str "Declarative optimization model API")]),
    ("schemes", .ofFields [("ApiKeyAuth", scheme)]),
    ("security", .ofFields (Resource.described.map fun resource =>
      (resource.pattern, .ofFields (resource.methods.map fun method =>
        (method.map Char.toLower, needs resource)))))]

/-! ## The service -/

/-- How sessions are solved, how solutions are reported, and who may make requests. -/
structure Service (σ μ ν : Type) where
  engine : Engine σ Failure μ ν
  report : ν → Value
  access : Access

/-- What the service keeps: its sessions, and the state of its engine. -/
structure ServiceState (σ μ ν : Type) where
  store : Store Failure μ ν
  engineState : σ

namespace Service

variable {σ μ ν : Type}

def summary (id : String) (s : Session Failure μ ν) : List (String × Value) :=
  [("id", .str id), ("template", .str s.spec.template), ("status", .str s.status)]

/-- A session with its specification and the failure of its last solving. -/
def particulars (id : String) (s : Session Failure μ ν) : Value :=
  .ofFields (summary id s ++ [("spec", Config.encode s.spec),
    ("error", (s.error?.map Failure.report).getD .null)])

/-- An answer that leaves the state as it is. -/
def unchanged (st : ServiceState σ μ ν) (r : Response) : Response × ServiceState σ μ ν := (r, st)

/-- The response to a change of the store, and the state after it. -/
def changed (st : ServiceState σ μ ν) (r : Except Failure (Store Failure μ ν)) (body : Value) :
    Response × ServiceState σ μ ν :=
  match r with
  | .ok store => (.of 200 body, { st with store := store })
  | .error e => unchanged st (.ofFailure e)

/-- Creates a session of the configuration in a body. -/
def create (st : ServiceState σ μ ν) (content : Option Value) :
    Response × ServiceState σ μ ν :=
  match content with
  | some (.map es) =>
    match Config.decode es with
    | .error e => unchanged st (.ofFailure e)
    | .ok spec =>
      let (id, store) := st.store.create spec
      (.of 201 (.ofFields [("model_id", .str id), ("template", .str spec.template),
        ("status", .str "created")]), { st with store := store })
  | _ => unchanged st .malformed

def patch (st : ServiceState σ μ ν) (id : String) (content : Option Value) :
    Response × ServiceState σ μ ν :=
  match content.bind PatchRequest.ofValue? with
  | none => unchanged st .malformed
  | some ps =>
    changed st (st.store.patch id (ps.map RequestedPatch.toPatch))
      (.ofFields [("model_id", .str id), ("status", .str "updated"),
        ("applied", .int (Int.ofNat ps.length))])

def solve (v : Service σ μ ν) (st : ServiceState σ μ ν) (id : String) :
    Response × ServiceState σ μ ν :=
  let (result, store, engineState) := st.store.solve v.engine id st.engineState
  (.ofResult result v.report, ⟨store, engineState⟩)

/-- The query in a body that may be left out. -/
def query? (body : String) (content : Option Value) : Option String :=
  if body.isEmpty then some ""
  else
    match content with
    | some .null => some ""
    | some (.map es) =>
      match Entries.field? es "query" with
      | none => some ""
      | some (.str s) => some s
      | some _ => none
    | _ => none

def present (st : ServiceState σ μ ν) (id : String) (r : ServiceRequest) : Response :=
  match query? r.body r.content? with
  | none => .malformed
  | some query =>
    .ofResult (st.store.get id) fun s => (Presentation.ofSpecification s.spec query).report

/-- Carries out what is asked for with a body, unless the body cannot be read. -/
def withBody (st : ServiceState σ μ ν) (r : ServiceRequest)
    (f : Option Value → Response × ServiceState σ μ ν) : Response × ServiceState σ μ ν :=
  if r.isOverlong then unchanged st .unreadable else f r.content?

/-- Carries out a request for a resource by one of its methods. -/
def carryOut (v : Service σ μ ν) (st : ServiceState σ μ ν) (r : ServiceRequest) :
    Resource → Response × ServiceState σ μ ν
  | .health => unchanged st (.of 200 (.ofFields [("status", .str "ok"),
      ("active_models", .int (Int.ofNat st.store.size))]))
  | .description => unchanged st (.of 200 serviceDescription)
  | .models =>
    if r.method == "POST" then withBody st r (create st)
    else
      unchanged st (.of 200 (.ofFields [("models",
        .list (st.store.sessions.entries.map fun (id, s) => .ofFields (summary id s)))]))
  | .model id =>
    if r.method == "DELETE" then
      changed st (st.store.delete id)
        (.ofFields [("message", .str "Model deleted"), ("model_id", .str id)])
    else unchanged st (.ofResult (st.store.get id) (particulars id))
  | .config id => withBody st r (patch st id)
  | .solving id => v.solve st id
  | .solution id => unchanged st (.ofResult (st.store.solution id) v.report)
  | .presentation id => withBody st r fun _ => unchanged st (present st id r)

/-- Carries out a request that gets past the guards. -/
def carryOutGuarded (v : Service σ μ ν) (st : ServiceState σ μ ν) (r : ServiceRequest) :
    Response × ServiceState σ μ ν :=
  if v.access.failsOnKey r then unchanged st (.crashed .mistyped)
  else if v.access.blocks r then unchanged st .unauthorized
  else if v.access.failsOnLength r then unchanged st (.crashed .malformed)
  else if v.access.isTooLarge r then unchanged st (.detail 413 (.str "Payload too large"))
  else
    match Resource.ofPath? r.path with
    | none => unchanged st (.detail 404 (.str "Not Found"))
    | some resource =>
      if resource.methods.contains r.method then v.carryOut st r resource
      else unchanged st (.detail 405 (.str "Method Not Allowed"))

def answer (v : Service σ μ ν) (st : ServiceState σ μ ν) (r : ServiceRequest) :
    Response × ServiceState σ μ ν :=
  let (response, st) := v.carryOutGuarded st r
  (response.forMethod r.method, st)

end Service

end Rostering
