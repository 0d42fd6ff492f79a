import Rostering.Failure
import Rostering.Model.Linear
import Rostering.Named

/-!
# Model.Basic — variables in families, constraints and a goal

A `Model` is built up by adding to it. Variables are created in order and numbered by it; a family
gives the variables of one kind by their keys, which are tuples of index members. Two variables
that are created for the same key both exist, but the family finds only the later one.
-/

namespace Rostering

/-! ## Families -/

/-- Index members that tell the variables of a family apart. A single variable has no members in
its key. -/
abbrev Key := List Value

/-- Numbers of variables under their keys, in the order of the keys. -/
abbrev Family := List (Key × Nat)

namespace Family

/-- Gives a key a variable. An old key keeps its place. -/
def put (key : Key) (number : Nat) : Family → Family
  | [] => [(key, number)]
  | (k, n) :: rest =>
    if Value.sameItems k key then (k, number) :: rest else (k, n) :: put key number rest

def ofPairs (l : List (Key × Nat)) : Family := l.foldl (fun f e => put e.1 e.2 f) []

def find? (f : Family) (key : Key) : Option Nat :=
  (List.find? (fun e => Value.sameItems key e.1) f).map Prod.snd

/-- The variable of a key that the family has. -/
def number (f : Family) (key : Key) : Nat := (f.find? key).getD 0

def keys (f : Family) : List Key := f.map Prod.fst

def numbers (f : Family) : List Nat := f.map Prod.snd

end Family

/-! ## Models -/

/-- A whole number to be found, with its bounds. -/
structure Variable where
  name : String
  lower : Int
  upper : Int
  deriving DecidableEq

namespace Variable

/-- The variable of a family for a key. -/
def ofKey (family : String) (lower upper : Int) (key : Key) : Variable :=
  ⟨family ++ "[" ++ String.intercalate "_" (key.map Value.shown) ++ "]", lower, upper⟩

end Variable

/-- Which way a goal is to be pushed. -/
inductive Sense where
  | minimize
  | maximize
  deriving DecidableEq

def Sense.name : Sense → String
  | .minimize => "minimize"
  | .maximize => "maximize"

/-- What is to be made small or large, and what asked for it. -/
structure Objective where
  sense : Sense
  source : String
  terms : List (Nat × Coefficient)

/-- Variables, what they have to keep to, and what they are wanted for. -/
structure Model where
  vars : List Variable
  families : Named Family
  constraints : List Constraint
  objective : Option Objective
  /-- Members of the indexes that the model was made from. -/
  members : List (String × List Value)
  /-- Remarks on how the model was made. -/
  notices : List String

namespace Model

def empty : Model := ⟨[], .empty, [], none, [], []⟩

def size (m : Model) : Nat × Nat := (m.constraints.length, m.vars.length)

/-! ## Variables -/

def create (m : Model) (l : List Variable) : Model := { m with vars := m.vars ++ l }

/-- Makes a family known under a name that is still free. -/
def register (m : Model) (name : String) (f : Family) : Except Fault Model :=
  if m.families.contains name then throw (.familyExists name)
  else pure { m with families := m.families.insert name f }

/-- The family of variables that come next, one for each key. -/
def nextFamily (m : Model) (keys : List Key) : Family :=
  Family.ofPairs (keys.zipIdx m.vars.length)

def createFamily (m : Model) (name : String) (keys : List Key) (lower upper : Int) : Model :=
  m.create (keys.map (Variable.ofKey name lower upper))

/-- Creates a variable for each key and makes the family known. -/
def addFamily (m : Model) (name : String) (keys : List Key) (lower upper : Int) :
    Except Fault Model :=
  (m.createFamily name keys lower upper).register name (m.nextFamily keys)

/-- Creates a single variable and makes it known. -/
def addSingle (m : Model) (name : String) (lower upper : Int) : Except Fault Model :=
  (m.create [⟨name, lower, upper⟩]).register name [([], m.vars.length)]

def hasFamily (m : Model) (name : String) : Bool := m.families.contains name

def family (m : Model) (name : String) : Except Fault Family :=
  match m.families.find? name with
  | some f => pure f
  | none => throw (.noFamily name m.families.names)

/-! ## Constraints and goals -/

def require (m : Model) (l : List Constraint) : Model :=
  { m with constraints := m.constraints ++ l }

def pursue (m : Model) (sense : Sense) (source : String) (terms : List (Nat × Coefficient)) :
    Model :=
  { m with objective := some ⟨sense, source, terms⟩ }

/-- Sets a goal that is to be made large, which is that its reverse be made small. -/
def maximize (m : Model) (source : String) (terms : List (Nat × Coefficient)) :
    Except Fault Model :=
  if Coefficient.isReversible terms then pure (m.pursue .maximize source terms)
  else throw .mistyped

/-- Adds a constraint by which a sum is at most so much. Nothing is at most the least word. -/
def limit (m : Model) (terms : Terms) (bound : Int) : Except Fault Model :=
  if bound = leastWord then throw .noBound else pure (m.require [.atMost terms bound])

def remark (m : Model) (text : String) : Model := { m with notices := m.notices ++ [text] }

/-! ## Meaning -/

/-- A valuation keeps every variable within its bounds and satisfies all constraints. -/
structure IsFeasible (m : Model) (v : Valuation) : Prop where
  lower_le : ∀ i x, m.vars[i]? = some x → x.lower ≤ v i
  le_upper : ∀ i x, m.vars[i]? = some x → v i ≤ x.upper
  holds : ∀ c ∈ m.constraints, c.Holds v

end Model

end Rostering
