import Rostering.Arguments
import Rostering.Loader
import Rostering.Registry
import Rostering.Staffing.Goals

/-!
# Build — from a specification to a model

Building has three stages: the data of all parameters are loaded, the template makes a handle of
the specification, and the overrides change the handle: all constraints in their order, then the
first objective. What a handle is depends on the templates; for the built-in one it is a `Model`.

Each stage has its own kind of failure. Faults of a kind that no template or rule should have are
passed on as they are.
-/

namespace Rostering

/-- Makes a handle of a specification whose data have been loaded. -/
abbrev Template (η : Type) := Specification → Except Failure η

abbrev Rule (η : Type) := η → Specification → Arguments → Except Failure η

abbrev Capabilities (η : Type) := Registry (Template η) (Rule η)

/-- A finished handle, and the labels of the overrides that were applied to it. -/
structure Built (η : Type) where
  handle : η
  applied : List String

namespace Build

variable {η σ : Type}

/-! ## Failures of the stages -/

/-- A fault by which a template rejects its specification. -/
def rejectsSpecification : Failure → Bool
  | .fault f => f.cls = .missingKey || f.cls = .badType || f.cls = .badValue
  | _ => false

/-- A fault by which a rule rejects its arguments. -/
def rejectsArguments : Failure → Bool
  | .argument _ => true
  | e => rejectsSpecification e

def loadFailure : Failure → Failure
  | .source e =>
    .build .sourceLoad ("Failed to load parameter data: " ++ e.fault.text) e.source
      (some (.source e))
  | e => e

def templateFailure (name : String) (e : Failure) : Failure :=
  if rejectsSpecification e then
    .build .templateFailed
      ("Template '" ++ name ++ "' rejected the specification: " ++ e.message) (some name) (some e)
  else e

def ruleFailure (o : Override) (e : Failure) : Failure :=
  if rejectsArguments e then
    .build .invalidOverrideArgs
      ("Invalid args for override '" ++ o.label ++ "' (" ++ o.target ++ "): " ++ e.message)
      (some o.label) (some e)
  else e

def needed {α : Type} (name : String) (r : Except MissingCapability α) : Except Failure α :=
  r.mapError fun e => .build .missingCapability e.message (some name) (some (.capability e))

/-! ## Stages -/

/-- Applies one override. -/
def applyOverride (lookup : String → Except MissingCapability (Rule η)) (s : Specification)
    (b : Built η) (o : Override) : Except Failure (Built η) := do
  let rule ← needed o.target (lookup o.target)
  let handle ← (rule b.handle s o.args).mapError (ruleFailure o)
  pure ⟨handle, b.applied ++ [o.label]⟩

/-- Makes a handle of a specification whose data have been loaded. -/
def assemble (r : Capabilities η) (s : Specification) : Except Failure (Built η) := do
  let template ← needed s.template (r.template s.template)
  let handle ← (template s).mapError (templateFailure s.template)
  let b ← (s.overridesFor "constraints").foldlM (applyOverride r.constraint s) ⟨handle, []⟩
  match s.overridesFor "objective" with
  | [] => pure b
  | o :: _ => applyOverride r.objective s b o

/-- Loads the data of a specification and makes a handle of it. -/
def run (r : Capabilities η) (l : Loader σ) (w : World σ) (s : Specification) :
    Except Failure (Built η) × Loader σ × World σ :=
  let (result, l, w) := l.materializeAll w s
  ((result.mapError loadFailure).bind (assemble r), l, w)

/-! ## Built-in capabilities -/

def workScheduling : Template Model := fun s =>
  ((Staffing.Problem.ofSpecification s).bind Staffing.Problem.model).mapError .fault

def registerScheduling (r : Capabilities Model) : Capabilities Model :=
  let r := r.registerTemplate "work_scheduling" workScheduling
  let r := r.registerConstraint "time_window" Staffing.timeWindow
  let r := r.registerConstraint "max_consecutive_days" Staffing.consecutiveDays
  let r := r.registerConstraint "min_rest_days" Staffing.restDays
  let r := r.registerObjective "minimize_cost" Staffing.minimizeCost
  let r := r.registerObjective "maximize_coverage" Staffing.maximizeCoverage
  r.registerObjective "balance_workload" Staffing.balanceWorkload

/-- What is there from the start. -/
def builtins : Capabilities Model := registerScheduling .empty

end Build

end Rostering
