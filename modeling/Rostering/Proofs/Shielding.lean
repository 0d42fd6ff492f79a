import Rostering.Proofs.Build
import Rostering.Proofs.Loader.Failures
import Rostering.Proofs.Patch.Change
import Rostering.Proofs.Revision
import Rostering.Service.Standard

/-!
# Data shield their source

A parameter that has its data is not loaded, and nobody asks where the data came from. So two
specifications that differ only in the sources of such parameters cannot be told apart: they lead to
the same loads, the same models or failures and the same solutions, whatever the files, the network
and the functions are like. Data that a patch hands in, be they empty, shield the source from then on
(`Build.data_shield_source`).

## The architecture

* **`Specification.shielded`** — the sources of parameters with data are blanked out. What is read of
  a specification is read alike of the shielded one (`Specification.loadedData_shielded` and its
  siblings).
* **`Capabilities.ReadsData`** — capabilities that see no difference; those that are there from the
  start are such (`Build.readsData_builtins`).
* **`Loader.materializeEntries_shielded`** — loading goes through the same states, by induction over the
  parameters.
* **`Build.run_shielded`** — so building does not see a difference either, and nor does solving
  (`Build.indistinguishable_of_shielded`).
* **`Patch.shielded_withSource`** — a patch of a parameter leaves it with data.
-/

namespace Rostering

variable {η σ : Type}

/-! ## Sources that are blanked out -/

/-- The parameter without its source if it has its data. -/
def Parameter.shielded : Parameter → Parameter
  | .table schema _ (some t) => .table schema (.literal .null) (some t)
  | .mapping key _ (some es) => .mapping key (.literal .null) (some es)
  | p => p

namespace Parameter

@[simp] theorem data?_shielded (p : Parameter) : p.shielded.data? = p.data? := by
  rcases p with ⟨_, _, _ | _⟩ | ⟨_, _, _ | _⟩ | _ <;> rfl

@[simp] theorem isPending_shielded (p : Parameter) :
    Loader.isPending p.shielded = Loader.isPending p := by
  rcases p with ⟨_, _, _ | _⟩ | ⟨_, _, _ | _⟩ | _ <;> rfl

theorem shielded_shielded (p : Parameter) : p.shielded.shielded = p.shielded := by
  rcases p with ⟨_, _, _ | _⟩ | ⟨_, _, _ | _⟩ | _ <;> rfl

theorem shielded_of_isPending {p : Parameter} (hp : Loader.isPending p = true) :
    p.shielded = p := by
  rcases p with ⟨_, _, _ | _⟩ | ⟨_, _, _ | _⟩ | _
  · rfl
  · cases hp
  · rfl
  · cases hp
  · cases hp

end Parameter

namespace Specification

/-- The specification without the sources of parameters that have their data. -/
def shielded (s : Specification) : Specification :=
  { s with parameters := s.parameters.map fun _ => Parameter.shielded }

variable (s : Specification)

/-! ### What is read of a specification -/

@[simp] theorem template_shielded : s.shielded.template = s.template := rfl

@[simp] theorem options_shielded : s.shielded.options = s.options := rfl

@[simp] theorem indexValues_shielded (name : String) :
    s.shielded.indexValues name = s.indexValues name := rfl

@[simp] theorem indexOrDefault_shielded (name : String) (others : List Value) :
    s.shielded.indexOrDefault name others = s.indexOrDefault name others := rfl

@[simp] theorem overridesFor_shielded (phase : String) :
    s.shielded.overridesFor phase = s.overridesFor phase := rfl

theorem find?_shielded (name : String) :
    s.shielded.parameters.find? name = (s.parameters.find? name).map Parameter.shielded :=
  Named.find?_map (fun _ => Parameter.shielded) s.parameters name

@[simp] theorem contains_shielded (name : String) :
    s.shielded.parameters.contains name = s.parameters.contains name := by
  unfold Named.contains
  rw [find?_shielded, Option.isSome_map]

@[simp] theorem loadedData_shielded (name : String) :
    s.shielded.loadedData name = s.loadedData name := by
  unfold loadedData
  rw [find?_shielded]
  cases s.parameters.find? name with
  | none => rfl
  | some p => simp only [Option.map_some, Parameter.data?_shielded]

end Specification

/-! ## Capabilities -/

/-- No template and no rule sees the sources of parameters that have their data. -/
structure Capabilities.ReadsData (r : Capabilities η) : Prop where
  template : ∀ {name template}, r.template name = .ok template →
    ∀ s : Specification, template s.shielded = template s
  constraint : ∀ {name rule}, r.constraint name = .ok rule →
    ∀ h (s : Specification) args, rule h s.shielded args = rule h s args
  objective : ∀ {name rule}, r.objective name = .ok rule →
    ∀ h (s : Specification) args, rule h s.shielded args = rule h s args

namespace Staffing

theorem Problem.ofSpecification_shielded (s : Specification) :
    Problem.ofSpecification s.shielded = Problem.ofSpecification s := by
  unfold Problem.ofSpecification
  simp only [Specification.indexValues_shielded, Specification.indexOrDefault_shielded,
    Specification.loadedData_shielded, Specification.contains_shielded,
    Specification.options_shielded]

theorem minimizeCost_shielded (m : Model) (s : Specification) (args : Arguments) :
    minimizeCost m s.shielded args = minimizeCost m s args := by
  unfold minimizeCost
  simp only [Specification.indexValues_shielded, Specification.loadedData_shielded,
    Specification.contains_shielded]

end Staffing

namespace Build

theorem workScheduling_shielded (s : Specification) :
    workScheduling s.shielded = workScheduling s := by
  unfold workScheduling
  rw [Staffing.Problem.ofSpecification_shielded]

/-- Data and declarations are all that the capabilities from the start look at. -/
theorem readsData_builtins : builtins.ReadsData where
  template := by
    intro name template htemplate s
    have hentries : builtins.templates.entries = [("work_scheduling", workScheduling)] := rfl
    have hmem := lookup_eq_ok htemplate
    rw [hentries] at hmem
    cases List.mem_singleton.mp hmem
    exact workScheduling_shielded s
  constraint := by
    intro name rule hrule m s args
    -- constraints look at members and arguments only
    rcases constraint_builtins hrule with ⟨-, rfl⟩ | ⟨-, rfl⟩ | ⟨-, rfl⟩ <;> rfl
  objective := by
    intro name rule hrule m s args
    -- of the goals, the first one looks at data besides
    rcases objective_builtins hrule with ⟨-, rfl⟩ | ⟨-, rfl⟩ | ⟨-, rfl⟩
    · exact Staffing.minimizeCost_shielded m s args
    · rfl
    · rfl

/-! ## Assembling -/

theorem assemble_shielded {r : Capabilities η} (hr : r.ReadsData) (s : Specification) :
    assemble r s.shielded = assemble r s :=
  assemble_congr rfl rfl (fun h => hr.template h s) (fun h handle args => hr.constraint h handle s args)
    fun h handle args => hr.objective h handle s args

end Build

/-! ## Loading -/

namespace Loader

/-- The parameters without the sources of those that have their data. -/
def shieldedEntries (es : List (String × Parameter)) : List (String × Parameter) :=
  es.map fun e => (e.1, e.2.shielded)

/-- A parameter that is loaded is the same in both, and one that has its data is not loaded. -/
theorem settle_shielded (l : Loader σ) (w : World σ) (p : Parameter) :
    (l.settle w p.shielded).1.map Parameter.shielded = (l.settle w p).1.map Parameter.shielded
      ∧ (l.settle w p.shielded).2 = (l.settle w p).2 := by
  cases hp : isPending p with
  | true =>
      rw [Parameter.shielded_of_isPending hp]
      exact ⟨rfl, rfl⟩
  | false =>
      unfold settle
      rw [Parameter.isPending_shielded, hp]
      exact ⟨congrArg Except.ok p.shielded_shielded, rfl⟩

/-- Loading goes through the same states and gives the same data. Induction on the parameters that
are left. -/
theorem materializeEntries_shielded (es : List (String × Parameter)) :
    ∀ (l : Loader σ) (w : World σ),
      (l.materializeEntries w (shieldedEntries es)).1.map shieldedEntries
          = (l.materializeEntries w es).1.map shieldedEntries
        ∧ (l.materializeEntries w (shieldedEntries es)).2 = (l.materializeEntries w es).2 := by
  induction es with
  | nil => exact fun l w => ⟨rfl, rfl⟩
  | cons e es ih =>
      intro l w
      obtain ⟨name, p⟩ := e
      obtain ⟨hresult, hstate⟩ := settle_shielded l w p
      have hcons : shieldedEntries ((name, p) :: es)
          = (name, p.shielded) :: shieldedEntries es := rfl
      rw [hcons, materializeEntries_cons, materializeEntries_cons]
      rcases hp : l.settle w p with ⟨result, l₁, w₁⟩
      rcases hp' : l.settle w p.shielded with ⟨result', l₁', w₁'⟩
      rw [hp, hp'] at hresult hstate
      cases hstate
      cases result with
      | error e =>
          cases result' with
          | error e' =>
              cases hresult
              exact ⟨rfl, rfl⟩
          | ok q' => cases hresult
      | ok q =>
          cases result' with
          | error e' => cases hresult
          | ok q' =>
              have hq : q'.shielded = q.shielded := Except.ok.inj hresult
              obtain ⟨hrest, hlast⟩ := ih l₁ w₁
              -- sources can be blanked out before or after the first one is put in front
              have hfront : ∀ (x : Except Failure (List (String × Parameter))) (a : Parameter),
                  (x.map ((name, a) :: ·)).map shieldedEntries
                    = (x.map shieldedEntries).map ((name, a.shielded) :: ·) := by
                intro x a
                cases x <;> rfl
              exact ⟨by rw [hfront, hfront, hrest, hq], hlast⟩

/-- Loading goes through the same states and gives the same, sources of parameters with data apart.
-/
theorem materializeAll_shielded (l : Loader σ) (w : World σ) (s : Specification) :
    (l.materializeAll w s.shielded).1.map Specification.shielded
        = (l.materializeAll w s).1.map Specification.shielded
      ∧ (l.materializeAll w s.shielded).2 = (l.materializeAll w s).2 := by
  obtain ⟨hresult, hlast⟩ := materializeEntries_shielded s.parameters.entries l w
  refine ⟨?_, hlast⟩
  -- sources can be blanked out before or after the parameters are put back
  have hfill : ∀ x : Except Failure (List (String × Parameter)),
      (x.map fun es => { s with parameters := Named.ofList es }).map Specification.shielded
        = (x.map shieldedEntries).map fun es => { s with parameters := Named.ofList es } := by
    intro x
    cases x with
    | error e => rfl
    | ok es => exact congrArg (fun m => Except.ok { s with parameters := m }) (Named.map_ofList _ es)
  exact (hfill _).trans ((congrArg _ hresult).trans (hfill _).symm)

/-- Loading gets to the same parameters, in the same states. A parameter that still has to be loaded
keeps its source when the others are blanked out. -/
theorem reaches_shielded {l l' : Loader σ} {w w' : World σ} {es : List (String × Parameter)}
    {p : Parameter} : l.Reaches w (shieldedEntries es) p l' w' ↔ l.Reaches w es p l' w' := by
  -- whoever gets through the entries before does so in either case, to the same state
  have hbefore : ∀ before : List (String × Parameter),
      (∃ qs, l.materializeEntries w (shieldedEntries before) = (.ok qs, l', w'))
        ↔ ∃ qs, l.materializeEntries w before = (.ok qs, l', w') := by
    intro before
    obtain ⟨hresult, hlast⟩ := materializeEntries_shielded before l w
    generalize l.materializeEntries w (shieldedEntries before) = run' at hresult hlast ⊢
    generalize l.materializeEntries w before = run at hresult hlast ⊢
    obtain ⟨x', state⟩ := run'
    obtain ⟨x, _⟩ := run
    cases hlast
    cases x <;> cases x' <;> simp_all [Except.map]
  constructor
  · rintro ⟨hp, before, name, after, qs, hes, hqs⟩
    obtain ⟨before, rest, rfl, rfl, hrest⟩ := List.map_eq_append_iff.mp hes
    obtain ⟨⟨name, q⟩, after, rfl, hfirst, rfl⟩ := List.map_eq_cons_iff.mp hrest
    cases hfirst
    rw [Parameter.isPending_shielded] at hp
    rw [Parameter.shielded_of_isPending hp]
    obtain ⟨qs, hqs⟩ := (hbefore before).mp ⟨qs, hqs⟩
    exact ⟨hp, before, name, after, qs, rfl, hqs⟩
  · rintro ⟨hp, before, name, after, qs, rfl, hqs⟩
    obtain ⟨qs, hqs⟩ := (hbefore before).mpr ⟨qs, hqs⟩
    refine ⟨hp, shieldedEntries before, name, shieldedEntries after, qs, ?_, hqs⟩
    unfold shieldedEntries
    rw [List.map_append, List.map_cons, Parameter.shielded_of_isPending hp]

/-- Once everything has been loaded, there is no parameter left whose data would have to be loaded when
it is read. -/
theorem isLoaded_of_materializeAll {l : Loader σ} {w : World σ} {s t : Specification}
    (ht : (l.materializeAll w s).1 = .ok t) : t.IsLoaded := by
  intro e he
  obtain ⟨p, -, hsettled⟩ := (related_of_materializeAll ht).2.exists_of_mem he
  exact hsettled.isPending_eq_false

end Loader

/-! ## Building and solving -/

namespace Build

/-- Building does not see the sources of parameters that have their data. -/
theorem run_shielded {r : Capabilities η} (hr : r.ReadsData) (l : Loader σ) (w : World σ)
    (s : Specification) : run r l w s.shielded = run r l w s := by
  obtain ⟨hresult, hlast⟩ := l.materializeAll_shielded w s
  have hassemble : ∀ x : Except Failure Specification, (x.mapError loadFailure).bind (assemble r)
      = ((x.map Specification.shielded).mapError loadFailure).bind (assemble r) := by
    intro x
    cases x with
    | error e => rfl
    | ok t => exact (assemble_shielded hr t).symm
  refine Prod.ext ?_ hlast
  show ((l.materializeAll w s.shielded).1.mapError loadFailure).bind (assemble r)
    = ((l.materializeAll w s).1.mapError loadFailure).bind (assemble r)
  rw [hassemble, hresult, ← hassemble]

end Build

/-- A session that makes its model of another specification solves it in the same way, if the same
model is made of it. -/
theorem Session.solve_withSpec {μ ν : Type} {e : Engine σ Failure μ ν} (x : Session Failure μ ν) (w : σ)
    {t : Specification} (hbuild : e.build t w = e.build x.spec w) :
    { x with spec := t }.solve e w
      = ((x.solve e w).1, { (x.solve e w).2.1 with spec := t }, (x.solve e w).2.2) := by
  obtain ⟨spec, state, model?, solution?, error?, builds⟩ := x
  unfold solve modelWith
  -- a model that is kept was made before, and one that is missing is the same by `hbuild`
  cases model? with
  | some m =>
      simp only
      rcases e.solve m w with ⟨result, w'⟩
      cases result <;> rfl
  | none =>
      simp only at hbuild
      simp only [hbuild]
      rcases e.build spec w with ⟨made, w'⟩
      cases made with
      | error reason => rfl
      | ok m =>
          simp only
          rcases e.solve m w' with ⟨result, w''⟩
          cases result <;> rfl

namespace Build

/-- Nobody who builds or solves the specifications can tell them apart: the same is loaded in the same
states, with the same result, and the same sessions solve them. -/
structure Indistinguishable (s t : Specification) : Prop where
  run : ∀ {σ : Type} (l : Loader σ) (w : World σ), run builtins l w s = run builtins l w t
  loads : ∀ {σ : Type} (l : Loader σ) (w : World σ) (p : Parameter) (l' : Loader σ) (w' : World σ),
    l.Reaches w s.parameters.entries p l' w' ↔ l.Reaches w t.parameters.entries p l' w'
  solve : ∀ {σ : Type} (access : Access) (l : Loader σ) (w : World σ)
    (x : Session Failure (Built Model) Solution), x.spec = s →
    { x with spec := t }.solve (Service.standard access).engine (l, w)
      = ((x.solve (Service.standard access).engine (l, w)).1,
        { (x.solve (Service.standard access).engine (l, w)).2.1 with spec := t },
        (x.solve (Service.standard access).engine (l, w)).2.2)

/-- Specifications that differ only in the sources of parameters with data cannot be told apart. -/
theorem indistinguishable_of_shielded {s t : Specification} (h : s.shielded = t.shielded) :
    Indistinguishable s t := by
  -- both are built as what is left when their sources are blanked out, and this is the same
  have hrun : ∀ {σ : Type} (l : Loader σ) (w : World σ), run builtins l w s = run builtins l w t := by
    intro σ l w
    rw [← run_shielded readsData_builtins, h, run_shielded readsData_builtins]
  refine ⟨hrun, ?_, ?_⟩
  · intro σ l w p l' w'
    have hentries : Loader.shieldedEntries s.parameters.entries
        = Loader.shieldedEntries t.parameters.entries :=
      congrArg (fun u : Specification => u.parameters.entries) h
    rw [← Loader.reaches_shielded, hentries, Loader.reaches_shielded]
  · rintro σ access l w x rfl
    have hbuild : (Service.standard access).engine.build t (l, w)
        = (Service.standard access).engine.build x.spec (l, w) := by
      unfold Service.standard Engine.ofCapabilities
      simp only [hrun l w]
    exact x.solve_withSpec (l, w) hbuild

end Build

/-! ## Sources that are replaced -/

/-- The parameter with another source; a scalar has none. -/
def Parameter.withSource (source : Source) : Parameter → Parameter
  | .table schema _ data => .table schema source data
  | .mapping key _ data => .mapping key source data
  | .scalar value type => .scalar value type

/-- The specification with another source for a parameter, if there is one of the name. -/
def Specification.withSource (s : Specification) (name : String) (source : Source) :
    Specification :=
  match s.parameters.find? name with
  | some p => s.withParameter name (p.withSource source)
  | none => s

theorem Specification.shielded_withParameter (s : Specification) (name : String) (p : Parameter) :
    (s.withParameter name p).shielded = s.shielded.withParameter name p.shielded := by
  unfold withParameter shielded
  rw [Named.map_insert]

/-- Another source is not seen behind data. -/
theorem Specification.shielded_withSource {t : Specification} {name : String} {r : Parameter}
    (hfound : t.parameters.find? name = some r) {source : Source}
    (hr : (r.withSource source).shielded = r.shielded) :
    (t.withSource name source).shielded = t.shielded := by
  have hkept : t.shielded.withParameter name r.shielded = t.shielded := by
    unfold withParameter
    rw [Named.insert_of_find? (by rw [find?_shielded, hfound]; rfl)]
  unfold withSource
  rw [hfound]
  simp only
  rw [shielded_withParameter, hr, hkept]

/-- A patch of a parameter leaves it with data, be they empty. -/
theorem Patch.Updates.shielded_withSource {p : Patch} {q r : Parameter} (h : p.Updates q r)
    (source : Source) : (r.withSource source).shielded = r.shielded := by
  cases h <;> rfl

/-- A patch of a parameter leaves it with data, so that its source can be any from then on. -/
theorem Patch.shielded_withSource {p : Patch} {s t : Specification} {name : String}
    (hpath : p.path = ["parameters", name]) (ht : p.apply s = .ok t) (source : Source) :
    (t.withSource name source).shielded = t.shielded := by
  obtain ⟨c, hchanges, rfl⟩ := changes_of_apply ht
  have hwritten := hchanges.path_eq.trans hpath
  match c, hchanges with
  | .parameter other r, .parameter _ _ hupdates =>
      obtain rfl : other = name := by simpa [Change.path] using hwritten
      have hfound : (s.withParameter other r).parameters.find? other = some r := by
        simp [Specification.withParameter, Named.find?_insert]
      exact Specification.shielded_withSource hfound (hupdates.shielded_withSource source)
  | .option .., _ => simp [Change.path] at hwritten
  | .index .., _ => simp [Change.path] at hwritten
  | .overrides .., _ => simp [Change.path] at hwritten

namespace Build

/-- Data shield their source: specifications that differ only in the sources of parameters with data
cannot be told apart by building or solving them, and once a parameter has been patched, it does not
matter where its data were to come from. Templates and rules only get to see parameters that have
their data, so they have nothing to load on their own. -/
theorem data_shield_source :
    (∀ s t : Specification, s.shielded = t.shielded → Indistinguishable s t)
      ∧ (∀ (p : Patch) (s t : Specification) (name : String) (source : Source),
        p.path = ["parameters", name] → p.apply s = .ok t →
        Indistinguishable (t.withSource name source) t)
      ∧ ∀ (l : Loader σ) (w : World σ) (s t : Specification),
        (l.materializeAll w s).1 = .ok t → t.IsLoaded :=
  ⟨fun _ _ => indistinguishable_of_shielded,
    fun _ _ _ _ source hpath ht =>
      indistinguishable_of_shielded (Patch.shielded_withSource hpath ht source),
    fun _ _ _ _ => Loader.isLoaded_of_materializeAll⟩

/-! ### An empty table and an empty mapping -/

/-- A table and a mapping, with data that are empty. -/
def emptied (source : Source) : Specification :=
  ⟨"work_scheduling", .empty, Named.ofList
    [("demand", .table ["day", "skill", "value"] source
        (some ⟨[.str "day", .str "skill", .str "value"], []⟩)),
      ("cost_month", .mapping "candidate" source (some []))], .empty, .empty⟩

/-- A table that is to be loaded. -/
def unloaded : Specification :=
  ⟨"work_scheduling", .empty,
    Named.ofList [("demand", .table ["day", "skill", "value"] (.literal (.list [])) none)],
    .empty, .empty⟩

/-- The patch that hands in no rows. -/
def withoutRows : Patch := ⟨.str "merge", ["parameters", "demand"], .list []⟩

/-- Empty data shield a file that is not there. -/
theorem data_shield_missing_file :
    Indistinguishable (emptied (.csv "gone.csv" [])) (emptied (.literal .null))
      ∧ ∃ t, withoutRows.apply unloaded = .ok t
        ∧ Indistinguishable (t.withSource "demand" (.csv "gone.csv" [])) t := by
  have hpatched : (withoutRows.apply unloaded).toOption.isSome := by decide +kernel
  obtain ⟨t, ht⟩ := Option.isSome_iff_exists.mp hpatched
  have ht := eq_ok_of_toOption ht
  obtain ⟨hshielded, hpatched, -⟩ := @data_shield_source Unit
  exact ⟨hshielded _ _ rfl, t, ht, hpatched withoutRows _ _ _ _ rfl ht⟩

end Build

end Rostering
