import Rostering.Failure
import Rostering.Named

/-!
# Registry — capabilities by name

Three tables that have nothing to do with each other: templates, constraints and objectives. The
last capability registered under a name counts, and names are listed in the order in which they
came first.
-/

namespace Rostering

/-- The tables of a registry. -/
inductive Space where
  | template
  | constraint
  | objective
  deriving DecidableEq

def Space.name : Space → String
  | .template => "template"
  | .constraint => "constraint"
  | .objective => "objective"

/-- Capabilities by name: templates of type `τ`, rules of type `ρ`. -/
structure Registry (τ ρ : Type) where
  templates : Named τ
  constraints : Named ρ
  objectives : Named ρ

namespace Registry

variable {τ ρ : Type}

def empty : Registry τ ρ := ⟨.empty, .empty, .empty⟩

/-- Looks a name up in the table of a space. -/
def lookup {α : Type} (space : Space) (table : Named α) (name : String) :
    Except MissingCapability α :=
  match table.find? name with
  | some a => pure a
  | none => throw ⟨space.name, name, table.names⟩

def registerTemplate (r : Registry τ ρ) (name : String) (t : τ) : Registry τ ρ :=
  { r with templates := r.templates.insert name t }

def registerConstraint (r : Registry τ ρ) (name : String) (c : ρ) : Registry τ ρ :=
  { r with constraints := r.constraints.insert name c }

def registerObjective (r : Registry τ ρ) (name : String) (o : ρ) : Registry τ ρ :=
  { r with objectives := r.objectives.insert name o }

def template (r : Registry τ ρ) (name : String) : Except MissingCapability τ :=
  lookup .template r.templates name

def constraint (r : Registry τ ρ) (name : String) : Except MissingCapability ρ :=
  lookup .constraint r.constraints name

def objective (r : Registry τ ρ) (name : String) : Except MissingCapability ρ :=
  lookup .objective r.objectives name

def names (r : Registry τ ρ) : Space → List String
  | .template => r.templates.names
  | .constraint => r.constraints.names
  | .objective => r.objectives.names

end Registry

end Rostering
