import Rostering.Service.Answer

/-!
# Service.Standard — the service that plans schedules

Models are built by capabilities from the data that a loader finds, and solved by the search. The
loader and what it reads from are the state that the engine keeps.
-/

namespace Rostering

variable {σ η ν : Type}

/-- The engine that builds models by capabilities and solves them. -/
def Engine.ofCapabilities (c : Capabilities η) (solve : η → Except Fault ν) :
    Engine (Loader σ × World σ) Failure (Built η) ν where
  build s w :=
    let (result, l, world) := Build.run c w.1 w.2 s
    (result, l, world)
  solve b w := ((solve b.handle).mapError .fault, w)

def Service.standard (access : Access) :
    Service (Loader σ × World σ) (Built Model) Solution where
  engine := Engine.ofCapabilities Build.builtins Model.solve
  report := Solution.report
  access := access

end Rostering
