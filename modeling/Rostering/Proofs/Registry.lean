import Rostering.Proofs.Pipeline

/-!
# What registries hold after any calls

Capabilities are registered by one call after the other, in the spaces of any number of registries.
What is found under a name afterwards is what the last call for it has registered in this space of
this registry. If there was no such call, the failure says which names there are instead. They are
listed once each, in the order in which they came first. Calls in another space or for another
registry make no difference, and a model is built with what was registered last
(`Registries.latest_counts`).

## The architecture

* **`Registry.table`**, **`Registry.get`**, **`Registry.register`** — the three spaces as one family;
  `Registry.get_eq_ok`, `Registry.get_eq_error` and `Registry.table_register` bring everything down
  to the table of a space.
* **`Registration`**, **`Registries.of`** — a call, and the registries after a list of calls.
* **`Registries.IsLatest`**, **`Registries.registered`**, **`ListsFirst`** — what the calls say by
  themselves: which capability is the last under a name, and which names there are in which order.
* **`Registries.find?_after`**, **`Registries.names_after`** — the step: what one call changes.
* **`Registries.find?_of`**, **`Registries.listsFirst_of`**, **`Registries.table_of_filter`** — the
  run, by induction on the calls.
* **`Build.Ends`** — how building ends if each capability is the one that was registered last;
  `Build.assemble_eq_iff` says that this is how it ends.
* **`Build.of_builtinCalls`** — the registry of the built-in capabilities is one of these registries.
-/

namespace Rostering

variable {ι τ ρ η : Type}

/-! ## The spaces as one family -/

/-- What is registered in a space. -/
def Space.Capability (τ ρ : Type) : Space → Type
  | .template => τ
  | .constraint | .objective => ρ

namespace Registry

variable {r : Registry τ ρ} {space : Space} {name : String}

/-- The capabilities of a space, with their names. -/
def table (r : Registry τ ρ) : (space : Space) → Named (space.Capability τ ρ)
  | .template => r.templates
  | .constraint => r.constraints
  | .objective => r.objectives

/-- Looking up a capability of a space by its name. -/
def get (r : Registry τ ρ) :
    (space : Space) → String → Except MissingCapability (space.Capability τ ρ)
  | .template => r.template
  | .constraint => r.constraint
  | .objective => r.objective

/-- Registering a capability in a space. A name that is there already gets the new capability and
keeps its place. -/
def register (r : Registry τ ρ) : (space : Space) → String → space.Capability τ ρ → Registry τ ρ
  | .template => r.registerTemplate
  | .constraint => r.registerConstraint
  | .objective => r.registerObjective

theorem names_eq (r : Registry τ ρ) (space : Space) : r.names space = (r.table space).names := by
  cases space <;> rfl

theorem get_eq_lookup (r : Registry τ ρ) (space : Space) (name : String) :
    r.get space name = lookup space (r.table space) name := by
  cases space <;> rfl

theorem get_eq_ok {a : space.Capability τ ρ} :
    r.get space name = .ok a ↔ (r.table space).find? name = some a := by
  rw [get_eq_lookup, lookup]
  cases (r.table space).find? name with
  | none => simp [throw_ne_ok]
  | some b => rw [pure_eq_ok, Option.some.injEq]

/-- What is not found is reported together with all that could be found in the space. -/
theorem get_eq_error {e : MissingCapability} : r.get space name = .error e ↔
    name ∉ r.names space ∧ e = ⟨space.name, name, r.names space⟩ := by
  rw [get_eq_lookup, lookup, names_eq, Named.mem_names_iff]
  cases (r.table space).find? name with
  | none => simp [throw, throwThe, MonadExceptOf.throw, eq_comm]
  | some b => simp [pure_ne_error]

theorem table_empty (space : Space) : (empty : Registry τ ρ).table space = .empty := by
  cases space <;> rfl

theorem table_register (r : Registry τ ρ) (space : Space) (name : String)
    (a : space.Capability τ ρ) :
    (r.register space name a).table space = (r.table space).insert name a := by
  cases space <;> rfl

/-- The tables of the other spaces stay as they are. -/
theorem table_register_of_ne {other : Space} (h : other ≠ space) (r : Registry τ ρ) (name : String)
    (a : space.Capability τ ρ) : (r.register space name a).table other = r.table other := by
  cases space <;> cases other <;> first | rfl | exact absurd rfl h

end Registry

/-! ## What calls say -/

/-- A call that registers a capability under a name, in a space of one of several registries. -/
structure Registration (ι τ ρ : Type) where
  registry : ι
  space : Space
  name : String
  capability : space.Capability τ ρ

namespace Registration

/-- Calls that are made in a space of a registry. -/
def IsIn (c : Registration ι τ ρ) (i : ι) (space : Space) : Prop :=
  c.registry = i ∧ c.space = space

instance [DecidableEq ι] (c : Registration ι τ ρ) (i : ι) (space : Space) :
    Decidable (c.IsIn i space) := inferInstanceAs (Decidable (_ ∧ _))

theorem IsIn.exists_eq {c : Registration ι τ ρ} {i : ι} {space : Space} (hc : c.IsIn i space) :
    ∃ name a, c = ⟨i, space, name, a⟩ := by
  obtain ⟨_, _, name, a⟩ := c
  obtain ⟨rfl, rfl⟩ := hc
  exact ⟨name, a, rfl⟩

/-- The call registers something under a name there. -/
def Names (c : Registration ι τ ρ) (i : ι) (space : Space) (name : String) : Prop :=
  c.IsIn i space ∧ c.name = name

end Registration

/-- The names are those that occur in a list, once each, in the order in which they occur first. -/
structure ListsFirst (names occurring : List String) : Prop where
  distinct : names.Nodup
  mem_iff : ∀ name, name ∈ names ↔ name ∈ occurring
  ordered : names.Pairwise fun a b => occurring.idxOf a < occurring.idxOf b

/-- A name that occurs again changes nothing, and a new one comes last. It is the step for the names
that are listed. -/
theorem ListsFirst.concat {names occurring : List String} (h : ListsFirst names occurring)
    (name : String) :
    ListsFirst (if name ∈ names then names else names ++ [name]) (occurring ++ [name]) := by
  -- where the names before occur first does not change
  have hplaces : names.Pairwise fun a b =>
      (occurring ++ [name]).idxOf a < (occurring ++ [name]).idxOf b := by
    refine h.ordered.imp_of_mem fun ha hb hlt => ?_
    rw [List.idxOf_append_of_mem ((h.mem_iff _).mp ha),
      List.idxOf_append_of_mem ((h.mem_iff _).mp hb)]
    exact hlt
  split
  · next hold =>
      refine ⟨h.distinct, fun other => ?_, hplaces⟩
      rw [List.mem_append, List.mem_singleton, h.mem_iff]
      exact ⟨Or.inl, fun hother => hother.elim id fun heq => heq ▸ (h.mem_iff name).mp hold⟩
  · next hnew =>
      have hfresh : name ∉ occurring := fun hmem => hnew ((h.mem_iff name).mpr hmem)
      refine ⟨?_, fun other => ?_, List.pairwise_append.mpr ⟨hplaces, ?_, fun a ha b hb => ?_⟩⟩
      · exact List.nodup_append.mpr ⟨h.distinct, List.nodup_singleton name, fun a ha b hb heq =>
          hnew (List.mem_singleton.mp hb ▸ heq ▸ ha)⟩
      · rw [List.mem_append, List.mem_append, h.mem_iff]
      · exact List.pairwise_singleton _ name
      · obtain rfl := List.mem_singleton.mp hb
        have ha := (h.mem_iff a).mp ha
        rw [List.idxOf_append_of_mem ha, List.idxOf_append_of_notMem hfresh]
        exact Nat.lt_add_right _ (List.idxOf_lt_length_of_mem ha)

namespace Registries

variable {calls : List (Registration ι τ ρ)} {c : Registration ι τ ρ} {i : ι} {space : Space}
  {name : String}

/-- The capability was the last to be registered under the name: a call has done so, and no later one
names it there again. -/
def IsLatest (calls : List (Registration ι τ ρ)) (i : ι) (space : Space) (name : String)
    (a : space.Capability τ ρ) : Prop :=
  ∃ before later, calls = before ++ ⟨i, space, name, a⟩ :: later
    ∧ ∀ c ∈ later, ¬ c.Names i space name

/-- With one more call, the latest is this one or, unless it names the same, the latest before. -/
theorem isLatest_concat {a : space.Capability τ ρ} : IsLatest (calls ++ [c]) i space name a ↔
    c = ⟨i, space, name, a⟩ ∨ ¬ c.Names i space name ∧ IsLatest calls i space name a := by
  constructor
  · rintro ⟨before, later, hcalls, hlater⟩
    -- the last call is the one that has registered it, or one of those that come later
    rcases List.eq_nil_or_concat later with rfl | ⟨later, d, rfl⟩
    · have hlast := (List.append_inj' hcalls rfl).2
      exact Or.inl (List.singleton_inj.mp hlast)
    · rw [List.concat_eq_append] at hcalls hlater
      rw [← List.cons_append, ← List.append_assoc] at hcalls
      obtain ⟨hfirst, hlast⟩ := List.append_inj' hcalls rfl
      obtain rfl := List.singleton_inj.mp hlast
      obtain ⟨hlater, hc⟩ := List.forall_mem_append.mp hlater
      exact Or.inr ⟨hc c (List.mem_singleton_self c), before, later, hfirst, hlater⟩
  · rintro (rfl | ⟨hc, before, later, rfl, hlater⟩)
    · exact ⟨calls, [], rfl, fun d hd => absurd hd List.not_mem_nil⟩
    · refine ⟨before, later ++ [c], ?_, List.forall_mem_append.mpr ⟨hlater, ?_⟩⟩
      · rw [List.append_assoc, List.cons_append]
      · exact fun d hd => List.mem_singleton.mp hd ▸ hc

variable [DecidableEq ι]

/-- The names under which something was registered there, call by call. -/
def registered (calls : List (Registration ι τ ρ)) (i : ι) (space : Space) : List String :=
  (calls.filter fun c => c.IsIn i space).map Registration.name

theorem registered_concat : registered (calls ++ [c]) i space
    = if c.IsIn i space then registered calls i space ++ [c.name] else registered calls i space := by
  unfold registered
  rw [List.filter_append, List.map_append, List.filter_singleton]
  by_cases hc : c.IsIn i space <;> simp [hc]

/-! ## One call -/

/-- The registries after one more call. -/
def after (rs : ι → Registry τ ρ) (c : Registration ι τ ρ) : ι → Registry τ ρ :=
  Function.update rs c.registry ((rs c.registry).register c.space c.name c.capability)

/-- A call in the space inserts its name there. -/
theorem table_after (rs : ι → Registry τ ρ) (i : ι) (space : Space) (name : String)
    (a : space.Capability τ ρ) :
    (after rs ⟨i, space, name, a⟩ i).table space = ((rs i).table space).insert name a := by
  rw [after, Function.update_self, Registry.table_register]

/-- A call elsewhere changes nothing in the space. -/
theorem table_after_of_not_isIn (rs : ι → Registry τ ρ) (hc : ¬ c.IsIn i space) :
    (after rs c i).table space = (rs i).table space := by
  by_cases hi : i = c.registry
  · subst hi
    rw [after, Function.update_self, Registry.table_register_of_ne fun h => hc ⟨rfl, h.symm⟩]
  · rw [after, Function.update_of_ne hi]

/-- After a call, what is found under a name is what the call registers there, or what was found
before if the call is about something else. -/
theorem find?_after (rs : ι → Registry τ ρ) {a : space.Capability τ ρ} :
    ((after rs c i).table space).find? name = some a ↔
      c = ⟨i, space, name, a⟩
        ∨ ¬ c.Names i space name ∧ ((rs i).table space).find? name = some a := by
  by_cases hc : c.IsIn i space
  · -- the call inserts a name in this table, which is the one looked for or another one
    obtain ⟨other, b, rfl⟩ := hc.exists_eq
    rw [table_after, Named.find?_insert]
    by_cases hname : name = other
    · simp [Registration.Names, Registration.IsIn, hname]
    · simp [Registration.Names, Registration.IsIn, hname, Ne.symm hname]
  · have hnames : ¬ c.Names i space name := fun h => hc h.1
    have hne : c ≠ ⟨i, space, name, a⟩ := fun h => hc (h ▸ ⟨rfl, rfl⟩)
    rw [table_after_of_not_isIn rs hc]
    simp [hnames, hne]

theorem names_after (rs : ι → Registry τ ρ) : (after rs c i).names space
    = if c.IsIn i space then
        if c.name ∈ (rs i).names space then (rs i).names space else (rs i).names space ++ [c.name]
      else (rs i).names space := by
  rw [Registry.names_eq, Registry.names_eq]
  split
  · next hc =>
      obtain ⟨other, b, rfl⟩ := hc.exists_eq
      rw [table_after, Named.names_insert]
  · next hc => rw [table_after_of_not_isIn rs hc]

/-! ## All calls -/

/-- Registries that were empty at first, after calls one after the other. -/
def of (calls : List (Registration ι τ ρ)) : ι → Registry τ ρ :=
  calls.foldl after fun _ => .empty

theorem of_concat (calls : List (Registration ι τ ρ)) (c : Registration ι τ ρ) :
    of (calls ++ [c]) = after (of calls) c := by
  rw [of, List.foldl_append]
  rfl

/-- Under a name stands what was registered last. Induction on the calls, the last one first. -/
theorem find?_of (calls : List (Registration ι τ ρ)) {a : space.Capability τ ρ} :
    ((of calls i).table space).find? name = some a ↔ IsLatest calls i space name a := by
  induction calls using List.reverseRecOn with
  | nil =>
      show ((Registry.empty : Registry τ ρ).table space).find? name = some a ↔ _
      rw [Registry.table_empty]
      simp [IsLatest]
  | append_singleton calls c ih => rw [of_concat, find?_after, isLatest_concat, ih]

/-- The names are listed in the order in which they came first. Induction on the calls, the last one
first. -/
theorem listsFirst_of (calls : List (Registration ι τ ρ)) (i : ι) (space : Space) :
    ListsFirst ((of calls i).names space) (registered calls i space) := by
  induction calls using List.reverseRecOn with
  | nil =>
      show ListsFirst ((Registry.empty : Registry τ ρ).names space) []
      rw [Registry.names_eq, Registry.table_empty]
      exact ⟨List.nodup_nil, fun _ => Iff.rfl, List.Pairwise.nil⟩
  | append_singleton calls c ih =>
      rw [of_concat, names_after, registered_concat]
      split
      · exact ih.concat c.name
      · exact ih

/-- Only the calls in a space matter to it. Induction on the calls, the last one first. -/
theorem table_of_filter (calls : List (Registration ι τ ρ)) (i : ι) (space : Space) :
    (of (calls.filter fun c => c.IsIn i space) i).table space = (of calls i).table space := by
  induction calls using List.reverseRecOn with
  | nil => rfl
  | append_singleton calls c ih =>
      by_cases hc : c.IsIn i space
      · have hkept : (calls ++ [c]).filter (fun c => c.IsIn i space)
            = calls.filter (fun c => c.IsIn i space) ++ [c] := by simp [hc]
        rw [hkept, of_concat, of_concat]
        obtain ⟨other, b, rfl⟩ := hc.exists_eq
        rw [table_after, table_after, ih]
      · have hdropped : (calls ++ [c]).filter (fun c => c.IsIn i space)
            = calls.filter fun c => c.IsIn i space := by simp [hc]
        rw [hdropped, of_concat, table_after_of_not_isIn _ hc, ih]

theorem get_of_eq_ok (calls : List (Registration ι τ ρ)) (i : ι) (space : Space) (name : String)
    {a : space.Capability τ ρ} :
    (of calls i).get space name = .ok a ↔ IsLatest calls i space name a := by
  rw [Registry.get_eq_ok, find?_of]

theorem get_of_eq_error (calls : List (Registration ι τ ρ)) (i : ι) (space : Space) (name : String)
    {e : MissingCapability} : (of calls i).get space name = .error e ↔
      name ∉ registered calls i space ∧ e = ⟨space.name, name, (of calls i).names space⟩ := by
  rw [Registry.get_eq_error, (listsFirst_of calls i space).mem_iff]

/-- Calls that are the same in a space leave it the same, whatever calls there are elsewhere. -/
theorem table_of_eq {calls calls' : List (Registration ι τ ρ)} {i : ι} {space : Space}
    (h : (calls'.filter fun c => c.IsIn i space) = calls.filter fun c => c.IsIn i space) :
    (of calls' i).table space = (of calls i).table space := by
  rw [← table_of_filter calls', h, table_of_filter]

end Registries

/-! ## Building with what was registered last -/

namespace Build

variable [DecidableEq ι]

section

variable (calls : List (Registration ι (Template η) (Rule η))) (i : ι) (s : Specification)

/-- The space in which a stage is looked up. -/
def Stage.space : Stage → Space
  | .constraint _ => .constraint
  | .objective _ => .objective

/-- The rule was the last to be registered under what a stage names. -/
def Stage.IsLatest (rule : Rule η) : Stage → Prop
  | .constraint o => Registries.IsLatest calls i .constraint o.target rule
  | .objective o => Registries.IsLatest calls i .objective o.target rule

/-- How building fails for a name under which nothing was registered. -/
def unregistered (space : Space) (name : String) : Failure :=
  let missing : MissingCapability := ⟨space.name, name, (Registries.of calls i).names space⟩
  .build .missingCapability missing.message (some name) (some (.capability missing))

/-- The rules that were registered last make one handle of the other, stage by stage. -/
inductive Goes : η → List Stage → η → Prop where
  | nil (h : η) : Goes h [] h
  | cons {x : Stage} {xs : List Stage} {rule : Rule η} {h h' h'' : η}
      (hrule : x.IsLatest calls i rule) (hx : rule h s x.override.args = .ok h')
      (hxs : Goes h' xs h'') : Goes h (x :: xs) h''

/-- How a stage fails: nothing was registered under what it names, or the rule that was registered
last does. -/
inductive Stage.Breaks (h : η) (x : Stage) : Failure → Prop where
  | unregistered (hnone : x.override.target ∉ Registries.registered calls i x.space) :
      Breaks h x (unregistered calls i x.space x.override.target)
  | refused {rule : Rule η} {e : Failure} (hrule : x.IsLatest calls i rule)
      (he : rule h s x.override.args = .error e) : Breaks h x (ruleFailure x.override e)

/-- How building ends once the data have been loaded: the template that was registered last makes a
handle, and the rules that were registered last take it through all stages, unless one of them fails
or is not there. -/
inductive Ends : Except Failure (Built η) → Prop where
  | noTemplate (hnone : s.template ∉ Registries.registered calls i .template) :
      Ends (.error (unregistered calls i .template s.template))
  | templateFails {template : Template η} {e : Failure}
      (htemplate : Registries.IsLatest calls i .template s.template template)
      (he : template s = .error e) : Ends (.error (templateFailure s.template e))
  | breaks {template : Template η} {before after : List Stage} {x : Stage} {h h' : η} {e : Failure}
      (htemplate : Registries.IsLatest calls i .template s.template template)
      (hmade : template s = .ok h) (hstages : stages s = before ++ x :: after)
      (hbefore : Goes calls i s h before h') (hx : x.Breaks calls i s h' e) : Ends (.error e)
  | finished {template : Template η} {h : η} {b : Built η}
      (htemplate : Registries.IsLatest calls i .template s.template template)
      (hmade : template s = .ok h) (hall : Goes calls i s h (stages s) b.handle)
      (hlabels : b.applied = (stages s).map Stage.label) : Ends (.ok b)

end

section

variable {calls : List (Registration ι (Template η) (Rule η))} {i : ι} {s : Specification}

theorem template_of_eq_ok {template : Template η} :
    (Registries.of calls i).template s.template = .ok template ↔
      Registries.IsLatest calls i .template s.template template :=
  Registries.get_of_eq_ok calls i .template s.template

theorem template_of_eq_error {m : MissingCapability} :
    (Registries.of calls i).template s.template = .error m ↔
      s.template ∉ Registries.registered calls i .template
        ∧ m = ⟨Space.template.name, s.template, (Registries.of calls i).names .template⟩ :=
  Registries.get_of_eq_error calls i .template s.template

theorem Stage.rule_of_eq_ok {x : Stage} {rule : Rule η} :
    x.rule (Registries.of calls i) = .ok rule ↔ x.IsLatest calls i rule := by
  cases x with
  | constraint o => exact Registries.get_of_eq_ok calls i .constraint o.target
  | objective o => exact Registries.get_of_eq_ok calls i .objective o.target

theorem Stage.rule_of_eq_error {x : Stage} {m : MissingCapability} :
    x.rule (Registries.of calls i) = .error m ↔
      x.override.target ∉ Registries.registered calls i x.space
        ∧ m = ⟨x.space.name, x.override.target, (Registries.of calls i).names x.space⟩ := by
  cases x with
  | constraint o => exact Registries.get_of_eq_error calls i .constraint o.target
  | objective o => exact Registries.get_of_eq_error calls i .objective o.target

/-- The template fails because it was never registered, or by itself. -/
theorem templateFails_iff {e : Failure} : TemplateFails (Registries.of calls i) s e ↔
    s.template ∉ Registries.registered calls i .template
        ∧ e = unregistered calls i .template s.template
      ∨ ∃ template f, Registries.IsLatest calls i .template s.template template
        ∧ template s = .error f ∧ e = templateFailure s.template f := by
  rw [← prepare_eq_error]
  unfold prepare needed
  simp only [bind_eq_error, mapError_eq_error, mapError_eq_ok, template_of_eq_ok,
    template_of_eq_error]
  constructor
  · rintro (⟨m, ⟨hnone, rfl⟩, rfl⟩ | ⟨template, hlatest, f, hf, rfl⟩)
    · exact Or.inl ⟨hnone, rfl⟩
    · exact Or.inr ⟨template, f, hlatest, hf, rfl⟩
  · rintro (⟨hnone, rfl⟩ | ⟨template, f, hlatest, hf, rfl⟩)
    · exact Or.inl ⟨_, ⟨hnone, rfl⟩, rfl⟩
    · exact Or.inr ⟨template, hlatest, f, hf, rfl⟩

/-- A stage fails for the same two reasons. -/
theorem Stage.fails_iff_breaks {x : Stage} {h : η} {e : Failure} :
    x.Fails (Registries.of calls i) s h e ↔ x.Breaks calls i s h e := by
  rw [← Stage.apply_eq_error (b := ⟨h, []⟩)]
  unfold Stage.apply applyOverride needed
  simp only [bind_eq_error, mapError_eq_error, mapError_eq_ok, pure_ne_error, and_false,
    exists_false, or_false, Stage.rule_of_eq_ok, Stage.rule_of_eq_error]
  constructor
  · rintro (⟨m, ⟨hnone, rfl⟩, rfl⟩ | ⟨rule, hlatest, f, hf, rfl⟩)
    · exact .unregistered hnone
    · exact .refused hlatest hf
  · rintro (hnone | ⟨hlatest, hf⟩)
    · exact Or.inl ⟨_, ⟨hnone, rfl⟩, rfl⟩
    · exact Or.inr ⟨_, hlatest, _, hf, rfl⟩

/-- The rules that are found are those registered last. Induction on the stages, in both
directions. -/
theorem transforms_iff_goes {xs : List Stage} {h h' : η} :
    Transforms (Registries.of calls i) s h xs h' ↔ Goes calls i s h xs h' := by
  constructor
  · intro hrun
    induction hrun with
    | nil h => exact .nil h
    | cons hx _ ih =>
        obtain ⟨rule, hfound, hstep⟩ := hx
        exact .cons (Stage.rule_of_eq_ok.mp hfound) hstep ih
  · intro hrun
    induction hrun with
    | nil h => exact .nil h
    | cons hrule hstep _ ih => exact .cons ⟨_, Stage.rule_of_eq_ok.mpr hrule, hstep⟩ ih

/-- How assembling ends is determined by the calls. The four cases of `Build.Ends` are the ways in
which `Build.assemble_succeeds_iff` and `Build.assemble_fails_iff` can hold with a registry of this
kind. -/
theorem assemble_eq_iff {result : Except Failure (Built η)} :
    assemble (Registries.of calls i) s = result ↔ Ends calls i s result := by
  constructor
  · intro hresult
    cases result with
    | ok b =>
        obtain ⟨h, ⟨template, hfound, hmade⟩, hrun, hlabels⟩ := assemble_succeeds_iff.mp hresult
        exact .finished (template_of_eq_ok.mp hfound) hmade (transforms_iff_goes.mp hrun) hlabels
    | error e =>
        obtain ⟨xs, ⟨after, hstages⟩, hstops⟩ := assemble_fails_iff.mp hresult
        cases hstops with
        | template he =>
            -- either there is no template or it fails
            rcases templateFails_iff.mp he with ⟨hnone, rfl⟩ | ⟨template, f, hlatest, hf, rfl⟩
            · exact .noTemplate hnone
            · exact .templateFails hlatest hf
        | stage hmade hbefore hx =>
            obtain ⟨template, hfound, hmade⟩ := hmade
            rw [List.append_assoc, List.singleton_append] at hstages
            exact .breaks (template_of_eq_ok.mp hfound) hmade hstages.symm
              (transforms_iff_goes.mp hbefore) (Stage.fails_iff_breaks.mp hx)
  · intro hends
    cases hends with
    | noTemplate hnone =>
        exact assemble_fails_iff.mpr ⟨[], List.nil_prefix,
          .template (templateFails_iff.mpr (Or.inl ⟨hnone, rfl⟩))⟩
    | templateFails hlatest hf =>
        exact assemble_fails_iff.mpr ⟨[], List.nil_prefix,
          .template (templateFails_iff.mpr (Or.inr ⟨_, _, hlatest, hf, rfl⟩))⟩
    -- the stages up to the one that fails are a prefix of all stages
    | @breaks template before after x h h' e hlatest hmade hstages hbefore hx =>
        have hprefix : before ++ [x] <+: stages s :=
          ⟨after, by rw [hstages, List.append_assoc, List.singleton_append]⟩
        exact assemble_fails_iff.mpr ⟨before ++ [x], hprefix,
          .stage ⟨template, template_of_eq_ok.mpr hlatest, hmade⟩
            (transforms_iff_goes.mpr hbefore) (Stage.fails_iff_breaks.mpr hx)⟩
    | finished hlatest hmade hall hlabels =>
        exact assemble_succeeds_iff.mpr ⟨_, ⟨_, template_of_eq_ok.mpr hlatest, hmade⟩,
          transforms_iff_goes.mpr hall, hlabels⟩

end

/-- The calls by which the built-in capabilities are registered. -/
def builtinCalls (i : ι) : List (Registration ι (Template Model) (Rule Model)) :=
  [⟨i, .template, "work_scheduling", workScheduling⟩,
    ⟨i, .constraint, "time_window", Staffing.timeWindow⟩,
    ⟨i, .constraint, "max_consecutive_days", Staffing.consecutiveDays⟩,
    ⟨i, .constraint, "min_rest_days", Staffing.restDays⟩,
    ⟨i, .objective, "minimize_cost", Staffing.minimizeCost⟩,
    ⟨i, .objective, "maximize_coverage", Staffing.maximizeCoverage⟩,
    ⟨i, .objective, "balance_workload", Staffing.balanceWorkload⟩]

/-- The registry of the built-in capabilities comes about by calls like any other. -/
theorem of_builtinCalls (i : ι) : Registries.of (builtinCalls i) i = builtins := by
  simp only [Registries.of, builtinCalls, List.foldl_cons, List.foldl_nil, Registries.after,
    Function.update_self]
  rfl

end Build

namespace Registries

variable [DecidableEq ι]

/-- After any calls for any registries, a name leads to what was registered last under it in this
space of this registry. If nothing was, this is reported together with the names that are listed:
those that were registered there, once each, in the order in which they came first. Calls that are
the same there make the same of it, whatever calls there are elsewhere. And once its data have been
loaded, a specification is built with what was registered last. -/
theorem latest_counts (calls : List (Registration ι (Template η) (Rule η))) (i : ι) :
    (∀ space name,
        (∀ a, (of calls i).get space name = .ok a ↔ IsLatest calls i space name a)
        ∧ ∀ e, (of calls i).get space name = .error e ↔
          name ∉ registered calls i space ∧ e = ⟨space.name, name, (of calls i).names space⟩)
      ∧ (∀ space, ListsFirst ((of calls i).names space) (registered calls i space))
      ∧ (∀ space calls',
        (calls'.filter fun c => c.IsIn i space) = (calls.filter fun c => c.IsIn i space) →
          (of calls' i).names space = (of calls i).names space
          ∧ ∀ name, (of calls' i).get space name = (of calls i).get space name)
      ∧ ∀ {σ : Type} (l : Loader σ) (w : World σ) s t, (l.materializeAll w s).1 = .ok t →
        ∀ result, (Build.run (of calls i) l w s).1 = result ↔ Build.Ends calls i t result := by
  refine ⟨fun space name => ⟨fun a => ?_, fun e => ?_⟩, ?_, ?_, ?_⟩
  · exact get_of_eq_ok calls i space name
  · exact get_of_eq_error calls i space name
  · exact listsFirst_of calls i
  · intro space calls' hsame
    -- the same calls in this space leave the same table
    have htable := table_of_eq hsame
    refine ⟨?_, fun name => ?_⟩
    · rw [Registry.names_eq, Registry.names_eq, htable]
    · rw [Registry.get_eq_lookup, Registry.get_eq_lookup, htable]
  · intro σ l w s t ht result
    rw [Build.run_of_loads _ ht, Build.assemble_eq_iff]

/-- Two of the built-in capabilities are replaced, while a second registry has but one, in another
space. -/
theorem latest_counts_of_replaced_builtins :
    let bare : Template Model := fun _ => .ok .empty
    let free : Rule Model := fun m _ _ => .ok m
    let calls : List (Registration Bool (Template Model) (Rule Model)) :=
      Build.builtinCalls false ++ [⟨false, .constraint, "time_window", free⟩,
        ⟨true, .objective, "time_window", free⟩, ⟨false, .template, "work_scheduling", bare⟩]
    let rules := ["time_window", "max_consecutive_days", "min_rest_days"]
    let s : Specification := ⟨"work_scheduling", .empty, .empty, .empty,
      .ofList [("constraints", [⟨"", "time_window", .empty⟩])]⟩
    let l : Loader Unit := ⟨.empty, .ofText "data", .null, false, .empty⟩
    let w : World Unit := .bare ()
    let constraints := calls.filter fun c => c.IsIn false .constraint
    (of calls false).get .constraint "time_window" = .ok free
      ∧ (of calls false).names .constraint = rules
      ∧ (of calls false).get .constraint "min_staff" = .error ⟨"constraint", "min_staff", rules⟩
      ∧ (of calls true).get .constraint "time_window" = .error ⟨"constraint", "time_window", []⟩
      ∧ (of constraints false).get .constraint "time_window" = .ok free
      ∧ (Build.run (of calls false) l w s).1 = .ok ⟨.empty, ["time_window"]⟩ := by
  intro bare free calls rules s l w constraints
  -- the call in question comes behind the built-in ones, and nothing for the same name behind it
  have hlatest : IsLatest calls false .constraint "time_window" free :=
    ⟨Build.builtinCalls false, _, rfl, by simp [Registration.Names, Registration.IsIn]⟩
  have hbare : IsLatest calls false .template "work_scheduling" bare :=
    ⟨_, [], (List.append_assoc _ [_, _] [_]).symm, fun c hc => absurd hc List.not_mem_nil⟩
  have hnames : (of calls false).names .constraint = rules := rfl
  -- the calls in other spaces can be left out
  have hsame : (constraints.filter fun c => c.IsIn false .constraint)
      = calls.filter fun c => c.IsIn false .constraint := by
    rw [List.filter_filter]
    simp only [Bool.and_self]
  have hloads : (l.materializeAll w s).1 = .ok s := rfl
  obtain ⟨hfound, -, helsewhere, hbuilt⟩ := latest_counts calls false
  have hfree := ((hfound .constraint "time_window").1 free).mpr hlatest
  refine ⟨hfree, hnames, ?_, ?_, ?_, ?_⟩
  · exact ((hfound .constraint _).2 _).mpr ⟨by decide, by rw [hnames]; rfl⟩
  · exact (((latest_counts calls true).1 .constraint _).2 _).mpr ⟨by decide, rfl⟩
  · exact ((helsewhere .constraint constraints hsame).2 "time_window").trans hfree
  · exact (hbuilt l w s s hloads _).mpr
      (.finished hbare rfl (.cons hlatest rfl (.nil _)) rfl)

end Registries

end Rostering
