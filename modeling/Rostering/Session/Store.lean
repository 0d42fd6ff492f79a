import Rostering.Session.Basic

/-!
# Session.Store — sessions by id

Ids are numbered in the order of creation, whatever has been deleted since. An operation on an id
changes the session of that id and no other.
-/

namespace Rostering

/-- Sessions by id, oldest first, and how many there have been. -/
structure Store (ε μ ν : Type) where
  sessions : Named (Session ε μ ν)
  created : Nat

namespace Store

variable {σ ε μ ν : Type}

def empty : Store ε μ ν := ⟨.empty, 0⟩

/-- The id of the session with a number. -/
def idOf (number : Nat) : String := "model_" ++ toString number

def create (t : Store ε μ ν) (spec : Specification) : String × Store ε μ ν :=
  let number := t.created + 1
  (idOf number, ⟨t.sessions.insert (idOf number) (.ofSpecification spec), number⟩)

def get [StoreFailure ε] (t : Store ε μ ν) (id : String) : Except ε (Session ε μ ν) :=
  match t.sessions.find? id with
  | some s => pure s
  | none => throw (StoreFailure.own (.noSession id))

def size (t : Store ε μ ν) : Nat := t.sessions.size

def put (t : Store ε μ ν) (id : String) (s : Session ε μ ν) : Store ε μ ν :=
  { t with sessions := t.sessions.insert id s }

def delete [StoreFailure ε] (t : Store ε μ ν) (id : String) : Except ε (Store ε μ ν) := do
  let _ ← t.get id
  pure { t with sessions := t.sessions.erase id }

def patch [StoreFailure ε] (t : Store ε μ ν) (id : String) (ps : List Patch) : Except ε (Store ε μ ν) := do
  let s ← t.get id
  pure (t.put id (← s.patch ps))

def solve [StoreFailure ε] (e : Engine σ ε μ ν) (t : Store ε μ ν) (id : String) (w : σ) :
    Except ε ν × Store ε μ ν × σ :=
  match t.get id with
  | .error reason => (.error reason, t, w)
  | .ok s =>
    let (result, s, w) := s.solve e w
    (result, t.put id s, w)

def solution [StoreFailure ε] (t : Store ε μ ν) (id : String) : Except ε ν := do
  match (← t.get id).solution? with
  | some v => pure v
  | none => throw (StoreFailure.own (.noSolution id))

end Store

end Rostering
