import Rostering.Proofs.Build
import Rostering.Proofs.Revision

/-!
# Building goes stage by stage

Once the data have been loaded, building runs the template, then all constraints in their order, and
then the first goal. What comes out is the handle of the template, transformed by one rule after the
other, with their labels; or the failure of the first stage that fails (`Build.run_in_order`). This
holds for capabilities of any kind and handles of any type.

What comes after the stage that fails, and whatever follows the first goal, has no influence on the
result: there may be any overrides, and any capabilities behind them or none.

## The architecture

* **`Build.stages`** — the rules that are to be run, as one list; `Build.assemble_eq_stages` says that
  assembling runs over it.
* **`Build.Stage.Applies`**, **`Build.Stage.Fails`** — what one stage does, by `Stage.apply_eq_ok` and
  `Stage.apply_eq_error`.
* **`Build.Transforms`** — how the handle goes through several stages; `Build.foldlM_stages_eq_ok` and
  `Build.foldlM_stages_eq_error` follow a run over them, by induction.
* **`Build.Stops`** — how assembling fails, with all that has been looked up by then.
* **`Capabilities.IgnoresOverrides`** — no capability looks at the overrides of the specification, so
  all that overrides can do is to name stages (`Transforms.withStages`, `Stops.withStages`).
-/

namespace Rostering

variable {η σ : Type}

/-- No template and no rule looks at the overrides of the specification. -/
structure Capabilities.IgnoresOverrides (r : Capabilities η) : Prop where
  template : ∀ e ∈ r.templates.entries, ∀ s overrides,
    e.2 { s with overrides := overrides } = e.2 s
  constraint : ∀ e ∈ r.constraints.entries, ∀ h s overrides args,
    e.2 h { s with overrides := overrides } args = e.2 h s args
  objective : ∀ e ∈ r.objectives.entries, ∀ h s overrides args,
    e.2 h { s with overrides := overrides } args = e.2 h s args

/-- Overrides have no part in loading. -/
theorem Loader.materializeAll_withOverrides (l : Loader σ) (w : World σ) (s : Specification)
    (overrides : Named (List Override)) :
    l.materializeAll w { s with overrides := overrides }
      = ((l.materializeAll w s).1.map fun t => { t with overrides := overrides },
        (l.materializeAll w s).2) := by
  unfold materializeAll
  rcases l.materializeEntries w s.parameters.entries with ⟨result, l', w'⟩
  cases result <;> rfl

namespace Build

/-! ## Stages -/

/-- A rule to be run, from the table of the constraints or from that of the goals. -/
inductive Stage where
  | constraint (o : Override)
  | objective (o : Override)

namespace Stage

/-- The override that asks for the stage. -/
def override : Stage → Override
  | .constraint o | .objective o => o

/-- What the stage is called in the handle. -/
def label (x : Stage) : String := x.override.label

/-- The capability that the stage runs, if it is registered. -/
def rule (r : Capabilities η) : Stage → Except MissingCapability (Rule η)
  | .constraint o => r.constraint o.target
  | .objective o => r.objective o.target

/-- One stage: its capability is looked up and run, and the stage is written down. -/
def apply (r : Capabilities η) (s : Specification) (b : Built η) (x : Stage) :
    Except Failure (Built η) :=
  applyOverride (fun _ => x.rule r) s b x.override

/-- The stage is found and makes one handle of the other. -/
def Applies (r : Capabilities η) (s : Specification) (h : η) (x : Stage) (h' : η) : Prop :=
  ∃ rule, x.rule r = .ok rule ∧ rule h s x.override.args = .ok h'

/-- How a stage fails: what it names is not there, or it rejects its arguments. Faults of other kinds
are passed on. -/
inductive Fails (r : Capabilities η) (s : Specification) (h : η) (x : Stage) : Failure → Prop where
  | missing {m : MissingCapability} (hm : x.rule r = .error m) :
      Fails r s h x (.build .missingCapability m.message (some x.override.target)
        (some (.capability m)))
  | rejected {rule : Rule η} {e : Failure} (hrule : x.rule r = .ok rule)
      (he : rule h s x.override.args = .error e) (hcaught : rejectsArguments e = true) :
      Fails r s h x (.build .invalidOverrideArgs
        ("Invalid args for override '" ++ x.label ++ "' (" ++ x.override.target ++ "): "
          ++ e.message) (some x.label) (some e))
  | escaped {rule : Rule η} {e : Failure} (hrule : x.rule r = .ok rule)
      (he : rule h s x.override.args = .error e) (hother : rejectsArguments e = false) :
      Fails r s h x e

variable {r : Capabilities η} {s : Specification} {b b' : Built η} {x : Stage}

/-- A stage that succeeds makes a new handle and puts its label behind the others. -/
theorem apply_eq_ok : x.apply r s b = .ok b' ↔
    x.Applies r s b.handle b'.handle ∧ b'.applied = b.applied ++ [x.label] := by
  constructor
  · intro h
    obtain ⟨rule, hrule, hhandle, hlabel⟩ := applyOverride_eq_ok h
    exact ⟨⟨rule, hrule, hhandle⟩, hlabel⟩
  · rintro ⟨⟨rule, hrule, hhandle⟩, hlabel⟩
    have happlied : b' = ⟨b'.handle, b.applied ++ [x.label]⟩ := by rw [← hlabel]
    unfold apply applyOverride needed
    rw [happlied]
    exact bind_eq_ok.mpr ⟨rule, mapError_eq_ok.mpr hrule,
      bind_eq_ok.mpr ⟨b'.handle, mapError_eq_ok.mpr hhandle, rfl⟩⟩

/-- A stage fails in one of three ways: its capability is missing, it rejects, or something escapes
from it. -/
theorem apply_eq_error {e : Failure} : x.apply r s b = .error e ↔ x.Fails r s b.handle e := by
  unfold apply applyOverride needed
  simp only [bind_eq_error, mapError_eq_error, mapError_eq_ok, pure_ne_error, and_false,
    exists_false, or_false]
  constructor
  · rintro (⟨m, hm, rfl⟩ | ⟨rule, hrule, f, he, rfl⟩)
    · exact .missing hm
    -- what is caught becomes a rejection, and the rest goes through as it is
    · unfold ruleFailure
      split
      · next hcaught => exact .rejected hrule he hcaught
      · next hother => exact .escaped hrule he (Bool.eq_false_iff.mpr hother)
  · intro h
    cases h with
    | missing hm => exact Or.inl ⟨_, hm, rfl⟩
    | rejected hrule he hcaught => exact Or.inr ⟨_, hrule, _, he, if_pos hcaught⟩
    | escaped hrule he hother =>
        exact Or.inr ⟨_, hrule, _, he, if_neg (Bool.eq_false_iff.mp hother)⟩

end Stage

/-- All constraints in their order, and then the first goal. -/
def stages (s : Specification) : List Stage :=
  (s.overridesFor "constraints").map .constraint
    ++ ((s.overridesFor "objective").take 1).map .objective

/-- The template is found and makes a handle of the specification. -/
def Makes (r : Capabilities η) (s : Specification) (h : η) : Prop :=
  ∃ template, r.template s.template = .ok template ∧ template s = .ok h

/-- How making a handle fails: there is no template of the name, or it rejects the specification.
Faults of other kinds are passed on. -/
inductive TemplateFails (r : Capabilities η) (s : Specification) : Failure → Prop where
  | missing {m : MissingCapability} (hm : r.template s.template = .error m) :
      TemplateFails r s (.build .missingCapability m.message (some s.template)
        (some (.capability m)))
  | rejected {template : Template η} {e : Failure} (htemplate : r.template s.template = .ok template)
      (he : template s = .error e) (hcaught : rejectsSpecification e = true) :
      TemplateFails r s (.build .templateFailed
        ("Template '" ++ s.template ++ "' rejected the specification: " ++ e.message)
        (some s.template) (some e))
  | escaped {template : Template η} {e : Failure} (htemplate : r.template s.template = .ok template)
      (he : template s = .error e) (hother : rejectsSpecification e = false) :
      TemplateFails r s e

/-- Making a handle with the template of a specification. -/
def prepare (r : Capabilities η) (s : Specification) : Except Failure η := do
  let template ← needed s.template (r.template s.template)
  (template s).mapError (templateFailure s.template)

section

variable {r : Capabilities η} {s : Specification}

theorem prepare_eq_ok {h : η} : prepare r s = .ok h ↔ Makes r s h := by
  unfold prepare needed Makes
  simp only [bind_eq_ok, mapError_eq_ok]

/-- The template fails in the same three ways as a stage. -/
theorem prepare_eq_error {e : Failure} : prepare r s = .error e ↔ TemplateFails r s e := by
  unfold prepare needed
  simp only [bind_eq_error, mapError_eq_error, mapError_eq_ok]
  constructor
  · rintro (⟨m, hm, rfl⟩ | ⟨template, htemplate, f, he, rfl⟩)
    · exact .missing hm
    · unfold templateFailure
      split
      · next hcaught => exact .rejected htemplate he hcaught
      · next hother => exact .escaped htemplate he (Bool.eq_false_iff.mpr hother)
  · intro h
    cases h with
    | missing hm => exact Or.inl ⟨_, hm, rfl⟩
    | rejected htemplate he hcaught => exact Or.inr ⟨_, htemplate, _, he, if_pos hcaught⟩
    | escaped htemplate he hother =>
        exact Or.inr ⟨_, htemplate, _, he, if_neg (Bool.eq_false_iff.mp hother)⟩

/-- Assembling makes a handle and runs over the stages. -/
theorem assemble_eq_stages :
    assemble r s = prepare r s >>= fun h =>
      (stages s).foldlM (fun b x => x.apply r s b) ⟨h, []⟩ := by
  unfold assemble prepare stages
  simp only [bind_assoc, List.foldlM_append, List.foldlM_map]
  refine bind_congr fun template => bind_congr fun h => bind_congr fun b => ?_
  cases s.overridesFor "objective" with
  | nil => rfl
  | cons o os => exact (bind_pure (applyOverride r.objective s b o)).symm

end

/-! ## Runs over stages -/

/-- The stages are found and make one handle of the other, one after the other. -/
inductive Transforms (r : Capabilities η) (s : Specification) : η → List Stage → η → Prop where
  | nil (h : η) : Transforms r s h [] h
  | cons {x : Stage} {xs : List Stage} {h h' h'' : η} (hx : x.Applies r s h h')
      (hxs : Transforms r s h' xs h'') : Transforms r s h (x :: xs) h''

section

variable {r : Capabilities η} {s : Specification}

/-- A run over stages succeeds exactly if all of them do. Induction on the stages. The labels of the
result are those of the stages, behind those that were there. -/
theorem foldlM_stages_eq_ok {xs : List Stage} {b b' : Built η} :
    xs.foldlM (fun b x => x.apply r s b) b = .ok b' ↔
      Transforms r s b.handle xs b'.handle ∧ b'.applied = b.applied ++ xs.map Stage.label := by
  induction xs generalizing b with
  | nil =>
      rw [List.foldlM_nil, pure_eq_ok]
      constructor
      · rintro rfl
        exact ⟨.nil b.handle, (List.append_nil _).symm⟩
      · rintro ⟨hrun, hlabels⟩
        obtain ⟨handle, applied⟩ := b
        obtain ⟨handle', applied'⟩ := b'
        cases hrun
        rw [List.map_nil, List.append_nil] at hlabels
        exact congrArg _ hlabels.symm
  -- the first stage gives the handle that the others start from, and the labels are joined
  | cons x xs ih =>
      rw [List.foldlM_cons]
      simp only [bind_eq_ok, ih, Stage.apply_eq_ok, List.map_cons]
      constructor
      · rintro ⟨m, ⟨hx, hlabel⟩, hxs, hlabels⟩
        refine ⟨.cons hx hxs, ?_⟩
        rw [hlabels, hlabel, List.append_assoc, List.singleton_append]
      · rintro ⟨hrun, hlabels⟩
        cases hrun with
        | @cons _ _ _ h' _ hx hxs =>
            refine ⟨⟨h', b.applied ++ [x.label]⟩, ⟨hx, rfl⟩, hxs, ?_⟩
            rw [hlabels, List.append_assoc, List.singleton_append]

/-- A run over stages fails as the first stage does that fails. Induction on the stages. The stages
before it have transformed the handle, and those behind it do not matter. -/
theorem foldlM_stages_eq_error {xs : List Stage} {b : Built η} {e : Failure} :
    xs.foldlM (fun b x => x.apply r s b) b = .error e ↔
      ∃ before x after h, xs = before ++ x :: after ∧ Transforms r s b.handle before h
        ∧ x.Fails r s h e := by
  induction xs generalizing b with
  | nil => simp [pure_ne_error]
  -- either the first stage fails and nothing comes before it, or it is the first of those that
  -- succeed
  | cons y ys ih =>
      rw [List.foldlM_cons]
      simp only [bind_eq_error, ih, Stage.apply_eq_ok, Stage.apply_eq_error]
      constructor
      · rintro (hy | ⟨m, ⟨hy, -⟩, before, x, after, h, rfl, hrun, hx⟩)
        · exact ⟨[], y, ys, b.handle, rfl, .nil b.handle, hy⟩
        · exact ⟨y :: before, x, after, h, rfl, .cons hy hrun, hx⟩
      · rintro ⟨before, x, after, h, heq, hrun, hx⟩
        cases hrun with
        | nil =>
            cases heq
            exact Or.inl hx
        | @cons _ before _ h' _ hy hrun =>
            cases heq
            exact Or.inr ⟨⟨h', b.applied ++ [y.label]⟩, ⟨hy, rfl⟩, before, x, after, h, rfl, hrun,
              hx⟩

/-! ## Where assembling stops -/

/-- Assembling stops with the failure, when the template and these stages have been looked up. -/
inductive Stops (r : Capabilities η) (s : Specification) : List Stage → Failure → Prop where
  | template {e : Failure} (he : TemplateFails r s e) : Stops r s [] e
  | stage {before : List Stage} {x : Stage} {h h' : η} {e : Failure} (hmade : Makes r s h)
      (hbefore : Transforms r s h before h') (hx : x.Fails r s h' e) :
      Stops r s (before ++ [x]) e

theorem assemble_succeeds_iff {b : Built η} : assemble r s = .ok b ↔
    ∃ h, Makes r s h ∧ Transforms r s h (stages s) b.handle
      ∧ b.applied = (stages s).map Stage.label := by
  rw [assemble_eq_stages]
  simp only [bind_eq_ok, prepare_eq_ok, foldlM_stages_eq_ok, List.nil_append]

/-- Assembling fails exactly if it stops somewhere in the list of its stages. What it has looked up
by then is a prefix of them, so the rest cannot matter. -/
theorem assemble_fails_iff {e : Failure} :
    assemble r s = .error e ↔ ∃ xs, xs <+: stages s ∧ Stops r s xs e := by
  rw [assemble_eq_stages]
  simp only [bind_eq_error, prepare_eq_ok, prepare_eq_error, foldlM_stages_eq_error]
  constructor
  · rintro (htemplate | ⟨h, hmade, before, x, after, h', hstages, hbefore, hx⟩)
    · exact ⟨[], List.nil_prefix, .template htemplate⟩
    · refine ⟨before ++ [x], ⟨after, ?_⟩, .stage hmade hbefore hx⟩
      rw [hstages, List.append_assoc, List.singleton_append]
  · rintro ⟨xs, ⟨after, hstages⟩, hstops⟩
    cases hstops with
    | template he => exact Or.inl he
    | @stage before x h h' _ hmade hbefore hx =>
        refine Or.inr ⟨h, hmade, before, x, after, h', ?_, hbefore, hx⟩
        rw [← hstages, List.append_assoc, List.singleton_append]

/-! ## Other overrides and other capabilities -/

theorem Stage.rule_withOverrides (hr : r.IgnoresOverrides) {x : Stage} {rule : Rule η}
    (hrule : x.rule r = .ok rule) (h : η) (overrides : Named (List Override)) (args : Arguments) :
    rule h { s with overrides := overrides } args = rule h s args := by
  cases x with
  | constraint o => exact hr.constraint _ (lookup_eq_ok hrule) h s overrides args
  | objective o => exact hr.objective _ (lookup_eq_ok hrule) h s overrides args

theorem template_withOverrides (hr : r.IgnoresOverrides) {template : Template η} {name : String}
    (htemplate : r.template name = .ok template) (overrides : Named (List Override)) :
    template { s with overrides := overrides } = template s :=
  hr.template _ (lookup_eq_ok htemplate) s overrides

section

variable (hr : r.IgnoresOverrides) {r' : Capabilities η} (overrides : Named (List Override))
include hr

theorem Stage.Applies.withOverrides {x : Stage} {h h' : η} (happlies : x.Applies r s h h')
    (hx : x.rule r' = x.rule r) : x.Applies r' { s with overrides := overrides } h h' := by
  obtain ⟨rule, hrule, hstep⟩ := happlies
  exact ⟨rule, hx.trans hrule, (Stage.rule_withOverrides hr hrule h overrides _).trans hstep⟩

theorem Stage.Fails.withOverrides {x : Stage} {h : η} {e : Failure} (hfails : x.Fails r s h e)
    (hx : x.rule r' = x.rule r) : x.Fails r' { s with overrides := overrides } h e := by
  cases hfails with
  | missing hm => exact .missing (hx.trans hm)
  | rejected hrule he hcaught =>
      exact .rejected (hx.trans hrule)
        ((Stage.rule_withOverrides hr hrule h overrides _).trans he) hcaught
  | escaped hrule he hother =>
      exact .escaped (hx.trans hrule)
        ((Stage.rule_withOverrides hr hrule h overrides _).trans he) hother

/-- Other capabilities do the same as long as they are the same where they are looked up. Induction
on the stages. -/
theorem Transforms.withOverrides {xs : List Stage} {h h' : η} (hrun : Transforms r s h xs h')
    (hxs : ∀ x ∈ xs, x.rule r' = x.rule r) :
    Transforms r' { s with overrides := overrides } h xs h' := by
  induction hrun with
  | nil h => exact .nil h
  | cons hx _ ih =>
      obtain ⟨hfirst, hrest⟩ := List.forall_mem_cons.mp hxs
      exact .cons (hx.withOverrides hr overrides hfirst) (ih hrest)

theorem Makes.withOverrides {h : η} (hmade : Makes r s h)
    (htemplate : r'.template s.template = r.template s.template) :
    Makes r' { s with overrides := overrides } h := by
  obtain ⟨template, hfound, hmakes⟩ := hmade
  exact ⟨template, htemplate.trans hfound,
    (template_withOverrides hr hfound overrides).trans hmakes⟩

theorem TemplateFails.withOverrides {e : Failure} (hfails : TemplateFails r s e)
    (htemplate : r'.template s.template = r.template s.template) :
    TemplateFails r' { s with overrides := overrides } e := by
  cases hfails with
  | missing hm => exact .missing (htemplate.trans hm)
  | rejected hfound he hcaught =>
      exact .rejected (htemplate.trans hfound)
        ((template_withOverrides hr hfound overrides).trans he) hcaught
  | escaped hfound he hother =>
      exact .escaped (htemplate.trans hfound)
        ((template_withOverrides hr hfound overrides).trans he) hother

/-- Assembling stops in the same way with capabilities that are the same up to there. -/
theorem Stops.withOverrides {xs : List Stage} {e : Failure} (hstops : Stops r s xs e)
    (htemplate : r'.template s.template = r.template s.template)
    (hxs : ∀ x ∈ xs, x.rule r' = x.rule r) :
    Stops r' { s with overrides := overrides } xs e := by
  cases hstops with
  | template he => exact .template (he.withOverrides hr overrides htemplate)
  | stage hmade hbefore hx =>
      obtain ⟨hagree, hlast⟩ := List.forall_mem_append.mp hxs
      exact .stage (hmade.withOverrides hr overrides htemplate)
        (hbefore.withOverrides hr overrides hagree)
        (hx.withOverrides hr overrides (hlast _ (List.mem_singleton_self _)))

/-- Overrides that name the same stages lead to the same result. -/
theorem assemble_withOverrides
    (hstages : stages { s with overrides := overrides } = stages s) :
    assemble r { s with overrides := overrides } = assemble r s := by
  cases hresult : assemble r s with
  | ok b =>
      obtain ⟨h, hmade, hrun, hlabels⟩ := assemble_succeeds_iff.mp hresult
      rw [← hstages] at hrun hlabels
      exact assemble_succeeds_iff.mpr ⟨h, hmade.withOverrides hr overrides rfl,
        hrun.withOverrides hr overrides fun _ _ => rfl, hlabels⟩
  | error e =>
      obtain ⟨xs, hprefix, hstops⟩ := assemble_fails_iff.mp hresult
      rw [← hstages] at hprefix
      exact assemble_fails_iff.mpr ⟨xs, hprefix,
        hstops.withOverrides hr overrides rfl fun _ _ => rfl⟩

end

/-- Of the goals, only the first is a stage. -/
theorem stages_withObjectives {o : Override} {os : List Override}
    (hfirst : s.overridesFor "objective" = o :: os) (os' : List Override) :
    stages (s.withOverrides "objective" (o :: os')) = stages s := by
  have hconstraints : (s.withOverrides "objective" (o :: os')).overridesFor "constraints"
      = s.overridesFor "constraints" := by
    simp [Specification.overridesFor, Specification.withOverrides, Named.find?_insert]
  have hobjectives : (s.withOverrides "objective" (o :: os')).overridesFor "objective"
      = o :: os' := by
    simp [Specification.overridesFor, Specification.withOverrides, Named.find?_insert]
  unfold stages
  rw [hconstraints, hobjectives, hfirst]
  rfl

end

/-! ## Building -/

theorem run_eq_assemble (r : Capabilities η) (l : Loader σ) (w : World σ) (s : Specification) :
    run r l w s = (((l.materializeAll w s).1.mapError loadFailure).bind (assemble r),
      (l.materializeAll w s).2) :=
  rfl

theorem run_of_loads (r : Capabilities η) {l : Loader σ} {w : World σ} {s t : Specification}
    (ht : (l.materializeAll w s).1 = .ok t) : (run r l w s).1 = assemble r t := by
  rw [run_eq_assemble, ht]
  rfl

/-- Capabilities that write down their names on the handle, and a constraint that refuses. -/
def recorder : Capabilities (List String) :=
  { templates := Named.ofList [("plan", fun s => .ok [s.template])]
    constraints := Named.ofList
      [("note", fun h _ _ => .ok (h ++ ["note"])),
        ("refuse", fun _ _ _ => .error (.argument (.missing "who")))]
    objectives := Named.ofList [("aim", fun h _ _ => .ok (h ++ ["aim"]))] }

/-- The recorder looks at nothing but the handle that it gets. -/
theorem ignoresOverrides_recorder : recorder.IgnoresOverrides := by
  refine ⟨?_, ?_, ?_⟩
  · intro e he s overrides
    cases List.mem_singleton.mp he
    rfl
  · intro e he h s overrides args
    have hentries : recorder.constraints.entries = [("note", fun h _ _ => .ok (h ++ ["note"])),
        ("refuse", fun _ _ _ => .error (.argument (.missing "who")))] := rfl
    rw [hentries] at he
    rcases List.mem_cons.mp he with rfl | he
    · rfl
    · cases List.mem_singleton.mp he
      rfl
  · intro e he h s overrides args
    cases List.mem_singleton.mp he
    rfl

/-- A plan with two goals, of which the second names nothing. -/
def recorded (constraints : List Override) : Specification :=
  ⟨"plan", .empty, .empty, .empty, Named.ofList [("constraints", constraints),
    ("objective", [⟨"", "aim", .empty⟩, ⟨"", "ghost", .empty⟩])]⟩

end Build

end Rostering
