import Rostering.Patch

/-!
# Session.Basic — a specification with what has been made of it

A session holds a specification, the model and the solution that have been made of it, and the
failure of the last solving. Its status says what has happened last. A model is kept for the next
solving; a change of the specification, and a failure, drop both model and solution.

How models are made and solved is given by an `Engine`; it may keep a state of type `σ`. What it
fails with may be anything: a session keeps the failure of its engine and never looks into it. The
failures that are found without the engine have their places among the others (`StoreFailure`).
-/

namespace Rostering

/-- How models of type `μ` are made of specifications and solved to solutions of type `ν`. Both may
fail with anything of type `ε`. -/
structure Engine (σ ε μ ν : Type) where
  build : Specification → σ → Except ε μ × σ
  solve : μ → σ → Except ε ν × σ

/-- A type of failures in which there is a place for the failures of the service itself, such as an
id that no session has or a patch that cannot be applied. -/
class StoreFailure (ε : Type) where
  own : Failure → ε

instance : StoreFailure Failure := ⟨id⟩

/-- What has happened to a session last. -/
inductive Status where
  | created
  | updated
  | solved
  | error
  deriving DecidableEq

def Status.name : Status → String
  | .created => "created"
  | .updated => "updated"
  | .solved => "solved"
  | .error => "error"

/-- A specification with what has been made of it, and how many models have been made. -/
structure Session (ε μ ν : Type) where
  spec : Specification
  state : Status
  /-- The model that the next solving takes. -/
  model? : Option μ
  solution? : Option ν
  /-- The failure of the last solving. -/
  error? : Option ε
  builds : Nat

namespace Session

variable {σ ε μ ν : Type}

def status (s : Session ε μ ν) : String := s.state.name

/-! ## Steps -/

def ofSpecification (spec : Specification) : Session ε μ ν := ⟨spec, .created, none, none, none, 0⟩

def invalidated (s : Session ε μ ν) : Session ε μ ν := { s with model? := none, solution? := none }

/-- Applies patches, all of them or none. -/
def patch [StoreFailure ε] (s : Session ε μ ν) (ps : List Patch) : Except ε (Session ε μ ν) :=
  match Patch.applyAll ps s.spec with
  | .ok spec => pure { s.invalidated with spec := spec, error? := none, state := .updated }
  | .error e => throw (StoreFailure.own e)

/-- The model of a session: the one that it keeps, or else a new one, which it keeps from now
on. -/
def modelWith (e : Engine σ ε μ ν) (s : Session ε μ ν) (w : σ) :
    Except ε μ × Session ε μ ν × σ :=
  match s.model? with
  | some m => (.ok m, s, w)
  | none =>
    match e.build s.spec w with
    | (.ok m, w) => (.ok m, { s with model? := some m, builds := s.builds + 1 }, w)
    | (.error reason, w) => (.error reason, s, w)

def failed (s : Session ε μ ν) (reason : ε) : Session ε μ ν :=
  { s.invalidated with error? := some reason, state := .error }

/-- Solves the model of a session and keeps what came of it. -/
def solve (e : Engine σ ε μ ν) (s : Session ε μ ν) (w : σ) :
    Except ε ν × Session ε μ ν × σ :=
  match s.modelWith e w with
  | (.error reason, s, w) => (.error reason, s.failed reason, w)
  | (.ok m, s, w) =>
    match e.solve m w with
    | (.ok v, w) => (.ok v, { s with solution? := some v, error? := none, state := .solved }, w)
    | (.error reason, w) => (.error reason, s.failed reason, w)

end Session

end Rostering
