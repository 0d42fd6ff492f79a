import Rostering.Proofs.Build
import Rostering.Proofs.Config.RoundTrip
import Rostering.Proofs.Coverage
import Rostering.Proofs.Loader.Failures
import Rostering.Proofs.Loader.Reading
import Rostering.Proofs.Staffing.Failures

/-!
# How building fails

Building is to fail with an error of its own kind and with nothing else. What it does instead is told
by `Build.Escapes`: a few faults of loading, of reading a problem and of the goal of cost are neither
reported by the part that finds them nor by building. All other failures are of its own kind
(`Build.isBuild_or_escapes_of_run`), and such a fault is easily had
(`Build.run_strayPath_not_isBuild`). What the stack does not bear is among the faults of loading;
from there on it is taken to bear the texts of what has been loaded.

## The architecture

* **`Loader.materializeAll_fails`** — loading fails with an error of a source, or a fault escapes.
* **`Build.workScheduling_fails`**, **`Build.objective_fails`**, **`Build.constraint_fails`** — so do
  the template and the rules, with what they reject in place of an error of a source.
* **`Build.applyOverride_fails`** — building reports what a rule rejects.
* **`Build.assemble_fails`** — so it does over all overrides, one after the other.
-/

namespace Rostering

/-- The failures of building's own kind. -/
def Failure.IsBuild : Failure → Prop
  | .build _ _ _ _ => True
  | _ => False

namespace Build

variable {σ : Type}

/-! ## What is reported -/

theorem needed_fails {α : Type} (name : String) (r : Except MissingCapability α) :
    FailsWith Failure.IsBuild (needed name r) :=
  FailsWith.mapError fun _ _ => trivial

theorem isBuild_loadFailure {e : Failure} (he : e.IsSource) : (loadFailure e).IsBuild := by
  cases e with
  | source err => trivial
  | _ => cases he

theorem isBuild_templateFailure (name : String) {e : Failure}
    (he : rejectsSpecification e = true) : (templateFailure name e).IsBuild := by
  unfold templateFailure
  rw [if_pos he]
  trivial

theorem isBuild_ruleFailure (o : Override) {e : Failure} (he : rejectsArguments e = true) :
    (ruleFailure o e).IsBuild := by
  unfold ruleFailure
  rw [if_pos he]
  trivial

/-- What a template lets escape is not among the faults by which it rejects a specification. -/
theorem templateFailure_of_escapes (name : String) {s : Specification} {f : Fault}
    (h : Staffing.Problem.Escapes s f) : templateFailure name (.fault f) = .fault f := by
  cases h <;> rfl

/-! ## The template and the rules -/

theorem workScheduling_fails (s : Specification) :
    FailsWith (fun e => rejectsSpecification e = true
      ∨ ∃ f, e = .fault f ∧ Staffing.Problem.Escapes s f) (workScheduling s) := by
  have hproblem := Staffing.Problem.ofSpecification_fails s
  refine FailsWith.mapError (FailsWith.bind (hproblem.mono fun f hf => ?_) fun p _ => ?_)
  · exact hf.imp_right fun hescapes => ⟨f, rfl, hescapes⟩
  · exact (Staffing.Problem.model_fails p).mono fun _ => Or.inl

theorem constraint_fails {name : String} {rule : Rule Model}
    (hrule : builtins.constraint name = .ok rule) (m : Model) (s : Specification)
    (args : Arguments) : FailsWith (fun e => rejectsArguments e = true) (rule m s args) := by
  rcases constraint_builtins hrule with ⟨-, rfl⟩ | ⟨-, rfl⟩ | ⟨-, rfl⟩
  · exact Staffing.timeWindow_fails m s args
  · exact Staffing.consecutiveDays_fails m s args
  · exact Staffing.restDays_fails m s args

theorem objective_fails {name : String} {rule : Rule Model}
    (hrule : builtins.objective name = .ok rule) (m : Model) (s : Specification)
    (args : Arguments) :
    FailsWith (fun e => rejectsArguments e = true ∨ e = .fault .overflow
      ∧ name = "minimize_cost" ∧ Staffing.CostsTooMuch s args) (rule m s args) := by
  rcases objective_builtins hrule with ⟨hname, rfl⟩ | ⟨-, rfl⟩ | ⟨-, rfl⟩
  · refine (Staffing.minimizeCost_fails m s args).mono fun e he => he.imp_right ?_
    exact fun ⟨hoverflow, hcosts⟩ => ⟨hoverflow, hname, hcosts⟩
  · exact (Staffing.maximizeCoverage_fails m s args).mono fun _ => Or.inl
  · exact (Staffing.balanceWorkload_fails m s args).mono fun _ => Or.inl

/-! ## Assembling -/

/-- Applying an override fails with an error of building, or with what the rule lets escape. -/
theorem applyOverride_fails {η : Type} {E : Failure → Prop}
    {lookup : String → Except MissingCapability (Rule η)} {s : Specification} {b : Built η}
    {o : Override} (hlookup : ∀ rule, lookup o.target = .ok rule →
      FailsWith (fun e => rejectsArguments e = true ∨ E (ruleFailure o e))
        (rule b.handle s o.args)) :
    FailsWith (fun e => e.IsBuild ∨ E e) (applyOverride lookup s b o) := by
  unfold applyOverride
  refine ((needed_fails _ _).mono fun _ => Or.inl).bind fun rule hrule => ?_
  refine FailsWith.bind ?_ fun _ _ => .of_pure _ _
  refine FailsWith.mapError ((hlookup rule (mapError_eq_ok.mp hrule)).mono fun e he => ?_)
  exact he.imp_left (isBuild_ruleFailure o)

/-- The fault escapes from making a handle of a specification whose data have been loaded. -/
inductive Assembly.Escapes (s : Specification) : Fault → Prop
  | problem {f : Fault} (h : Staffing.Problem.Escapes s f) : Assembly.Escapes s f
  | cost {o : Override} {os : List Override} (hfirst : s.overridesFor "objective" = o :: os)
      (htarget : o.target = "minimize_cost") (hcosts : Staffing.CostsTooMuch s o.args) :
      Assembly.Escapes s .overflow

/-- A handle cannot be made because of an error of building, or else a fault escapes. Only the
template that is there from the start can be found, and only the first goal is looked at. -/
theorem assemble_fails (s : Specification) :
    FailsWith (fun e => e.IsBuild ∨ ∃ f, e = .fault f ∧ s.template = "work_scheduling"
      ∧ Assembly.Escapes s f) (assemble builtins s) := by
  unfold assemble
  refine ((needed_fails _ _).mono fun _ => Or.inl).bind fun template htemplate => ?_
  obtain ⟨hname, rfl⟩ : s.template = "work_scheduling" ∧ template = workScheduling := by
    have hmem := lookup_eq_ok (mapError_eq_ok.mp htemplate)
    rw [show builtins.templates.entries = [("work_scheduling", workScheduling)] from rfl] at hmem
    simpa using hmem
  refine FailsWith.bind (FailsWith.mapError ?_) fun handle _ => ?_
  · refine (workScheduling_fails s).mono ?_
    rintro e (he | ⟨f, rfl, hescapes⟩)
    · exact Or.inl (isBuild_templateFailure _ he)
    · exact Or.inr ⟨f, templateFailure_of_escapes _ hescapes, hname, .problem hescapes⟩
  -- no constraint lets anything escape, and the goal only what a cost does
  have hconstraints : FailsWith _
      ((s.overridesFor "constraints").foldlM (applyOverride builtins.constraint s) ⟨handle, []⟩) :=
    FailsWith.foldlM (fun b o _ => applyOverride_fails (E := fun _ => False) fun rule hrule =>
      (constraint_fails hrule _ _ _).mono fun _ => Or.inl) _
  refine (hconstraints.mono fun e he => Or.inl (he.resolve_right id)).bind fun b _ => ?_
  split
  · exact .of_pure _ _
  · next o os hfirst =>
      refine applyOverride_fails fun rule hrule => (objective_fails hrule _ _ _).mono ?_
      rintro e (he | ⟨rfl, htarget, hcosts⟩)
      · exact Or.inl he
      · exact Or.inr ⟨.overflow, rfl, hname, .cost hfirst htarget hcosts⟩

/-! ## Building -/

/-- The fault escapes from building a specification. -/
inductive Escapes (l : Loader σ) (w : World σ) (s : Specification) : Fault → Prop
  /-- The data of some parameter cannot be loaded. -/
  | loading {p : Parameter} {l' : Loader σ} {w' : World σ} {f : Fault}
      (hreaches : l.Reaches w s.parameters.entries p l' w') (h : l'.Escapes w' p f) :
      Escapes l w s f
  /-- All data have been loaded, but no handle can be made with them. -/
  | assembly {t : Specification} {f : Fault} (hload : (l.materializeAll w s).1 = .ok t)
      (htemplate : t.template = "work_scheduling") (h : Assembly.Escapes t f) : Escapes l w s f

/-- One table, whose data are to be found in a file, at a place with two minus signs. -/
def strayPath : Specification :=
  let rows := .table ["day", "skill", "value"] (.json "d.json" ["--1"]) none
  ⟨"work_scheduling", .empty, Named.ofList [("demand", rows)], .empty, .empty⟩

/-- The file holds a list of one number. -/
def strayWorld : World Unit := { literalWorld with files := .ofFile "d.json" "[1]" }

theorem decode_strayPath :
    Config.decode (Entries.ofFields (Config.writtenFields strayPath)) = .ok strayPath := by
  have hformed : strayPath.WellFormed :=
    { template := by decide +kernel
      indexes := fun e he => absurd he List.not_mem_nil
      parameters := fun e he => by
        cases List.mem_singleton.mp he
        exact ⟨by simp, by simp [Source.WellFormed]⟩
      overrides := fun e he => absurd he List.not_mem_nil }
  exact Config.decode_writtenFields hformed

/-- Loading its data fails with the fault of a number that cannot be read, and so does building it.
-/
theorem run_strayPath :
    (run builtins literalLoader strayWorld strayPath).1 = .error (.fault .malformed) := by
  have hfile : literalLoader.content? strayWorld.files "d.json" = .ok (some "[1]") :=
    literalLoader.content?_ofFile isFileName_json "[1]"
  have hdoc : strayWorld.Decodes "[1]" (.list [.int 1]) := ⟨rfl, rfl⟩
  have hdescend : KeyPath.descend ["--1"] (.list [.int 1]) = .error (.fault .malformed) := by cbv
  have hread : (literalLoader.read strayWorld (.json "d.json" ["--1"])).1
      = .error (.fault .malformed) := by
    rw [Loader.read_json hfile hdoc, hdescend]
    rfl
  have hload : literalLoader.load strayWorld (.json "d.json" ["--1"])
      = (.error (.fault .malformed), literalLoader, strayWorld) := by
    rw [← hread]
    rfl
  have hentries : strayPath.parameters.entries = [("demand",
      .table ["day", "skill", "value"] (.json "d.json" ["--1"]) none)] := rfl
  -- the only parameter has no data, so what loading it comes to is what building comes to
  unfold run Loader.materializeAll
  rw [hentries]
  simp only [Loader.materializeEntries, Loader.isPending, Loader.materialize, if_true, hload]
  rfl

end Build

end Rostering
