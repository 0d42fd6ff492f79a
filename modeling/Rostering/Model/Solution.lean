import Rostering.Model.Outcome

/-!
# Model.Solution — what is reported of a solved model

The values of a family are reported as mappings within mappings, one level for each member of a
key, under the labels of the members. A family that has a single variable without members is
reported as its value. `nested` fails where keys of different lengths get into each other's way.
-/

namespace Rostering

/-! ## Values under labels -/

/-- Puts a value under labels, one level for each. -/
def nestAt (value : Value) : List String → Entries → Except Fault Entries
  | [], _ => throw .outOfRange
  | [label], es => pure (Entries.put (.str label) value es)
  | label :: rest, es =>
    match Entries.field? es label with
    | none => do pure (Entries.put (.str label) (.map (← nestAt value rest [])) es)
    | some (.map inner) => do pure (Entries.put (.str label) (.map (← nestAt value rest inner)) es)
    | some _ => throw (if rest.length = 1 then .mistyped else .noField label)

abbrev FamilyValues := List (Key × Value)

namespace FamilyValues

/-- Sets the value of a key. A key that is there keeps its place and its spelling. -/
def put (key : Key) (value : Value) : FamilyValues → FamilyValues
  | [] => [(key, value)]
  | (k, v) :: rest =>
    if Value.sameItems k key then (k, value) :: rest else (k, v) :: put key value rest

/-- The values of keys in the order of their first mention; a later mention wins. -/
def ofList (entries : List (Key × Value)) : FamilyValues :=
  entries.foldl (fun values e => values.put e.1 e.2) []

end FamilyValues

/-- The values of a family under the labels of its keys. -/
def nested (values : FamilyValues) : Except Fault Value :=
  match values with
  | [([], value)] => pure value
  | values =>
    (values.foldlM (fun es e => nestAt e.2 (e.1.map Value.label) es) []).map .map

/-! ## Solutions -/

/-- What is reported: how solving ended, the value of the goal, and the values of all variables by
family. -/
structure Solution where
  status : String
  objective : Option Float
  values : Named Value

namespace Solution

def ofValues (status : String) (objective : Option Float) (values : Named FamilyValues) :
    Except Fault Solution := do
  pure ⟨status, objective, ← values.mapExcept fun _ => nested⟩

end Solution

namespace Model

def valuesAt (m : Model) (point : Array Int) : Named FamilyValues :=
  m.families.map fun _ f => f.map fun (key, i) => (key, .int (point.getD i 0))

/-- Solves a model and reports the result. Without a point there are no variables to report. -/
def solve (m : Model) : Except Fault Solution :=
  match m.outcome with
  | .optimal point goal => Solution.ofValues (Outcome.optimal point goal).status goal
      (m.valuesAt point)
  | o => pure ⟨o.status, none, .empty⟩

end Model

end Rostering
