import Rostering.Proofs.Build
import Rostering.Proofs.Config.WellFormed

/-!
# Who covers the demand

The coverage constraints add up the assignments of the candidates as they are listed. A candidate
has one assignment for a day and a skill, and it is added up once for every place in the list. So
the demand is met by places in the list, and by different people where nobody stands in two places.

## The architecture

* **`Model.Grows`** — a model after more has been added to it, possibly with variables: what it found
  before it still finds, and it keeps its constraints. Every built-in override makes a model grow
  (`Build.assemble_grows`).
* **`Build.covered_by_listed`** — in a model that was built of a configuration, each slot has as many
  places with working candidates as it needs, and as many candidates if none is listed twice.
* **`Build.not_covered_by_distinct`** — a demand for two is covered by one candidate who is listed
  twice.
-/

namespace Rostering

/-! ## Models that grow -/

namespace Model

theorem family_eq_ok {m : Model} {name : String} {f : Family} :
    m.family name = .ok f ↔ m.families.find? name = some f := by
  unfold family
  cases m.families.find? name with
  | none => simp [throw, throwThe, MonadExceptOf.throw]
  | some g => simp [pure, Except.pure]

/-- Families and constraints are kept. -/
structure Grows (m m' : Model) : Prop where
  family : ∀ name f, m.family name = .ok f → m'.family name = .ok f
  constraints : m.constraints ⊆ m'.constraints

namespace Grows

variable {m m' m'' : Model}

theorem refl (m : Model) : m.Grows m := ⟨fun _ _ hf => hf, List.Subset.refl _⟩

theorem trans (h : m.Grows m') (h' : m'.Grows m'') : m.Grows m'' :=
  ⟨fun name f hf => h'.family name f (h.family name f hf),
    List.Subset.trans h.constraints h'.constraints⟩

end Grows

variable {m m' : Model}

theorem Adds.grows {l : List Constraint} (h : m.Adds m' l) : m.Grows m' := by
  refine ⟨fun name f hf => ?_, ?_⟩
  · rw [h.family, hf]
  · rw [h.constraints]
    exact List.subset_append_left _ _

theorem grows_create (m : Model) (l : List Variable) : m.Grows (m.create l) :=
  ⟨fun _ _ hf => hf, List.Subset.refl _⟩

theorem grows_require (m : Model) (l : List Constraint) : m.Grows (m.require l) :=
  ⟨fun _ _ hf => hf, List.subset_append_left _ _⟩

theorem grows_pursue (m : Model) (sense : Sense) (source : String)
    (terms : List (Nat × Coefficient)) : m.Grows (m.pursue sense source terms) :=
  ⟨fun _ _ hf => hf, List.Subset.refl _⟩

/-- A family is registered under a name that is free, so no other one is lost. -/
theorem grows_register {name : String} {f : Family} (h : m.register name f = .ok m') :
    m.Grows m' := by
  unfold register at h
  split at h
  · exact absurd h throw_ne_ok
  · next hfree =>
      rw [pure_eq_ok] at h
      rw [← h]
      refine ⟨fun other g hg => ?_, List.Subset.refl _⟩
      rw [family_eq_ok] at hg ⊢
      have hne : other ≠ name := by
        rintro rfl
        exact hfree (by rw [Named.contains, hg]; rfl)
      rw [Named.find?_insert, if_neg hne, hg]

theorem grows_addFamily {name : String} {keys : List Key} {lower upper : Int}
    (h : m.addFamily name keys lower upper = .ok m') : m.Grows m' :=
  (m.grows_create _).trans (grows_register h)

theorem grows_addSingle {name : String} {lower upper : Int}
    (h : m.addSingle name lower upper = .ok m') : m.Grows m' :=
  (m.grows_create _).trans (grows_register h)

end Model

namespace Build

/-- The goal of a balanced workload adds variables and constraints of its own. This is the one goal
for which constraints are more than before, which is why growing and not adding is followed here. -/
theorem balanceWorkload_grows {m m' : Model} {s : Specification} {args : Arguments}
    (h : Staffing.balanceWorkload m s args = .ok m') : m.Grows m' := by
  unfold Staffing.balanceWorkload at h
  -- without a weight nothing is added
  split at h
  · rw [pure_eq_ok] at h
    exact h ▸ .refl m
  · obtain ⟨assign, -, h⟩ := bind_eq_ok.mp h
    obtain ⟨ix, -, h⟩ := bind_eq_ok.mp h
    obtain ⟨loads, hloads, h⟩ := bind_eq_ok.mp h
    obtain ⟨workload, -, h⟩ := bind_eq_ok.mp h
    obtain ⟨largest, hlargest, h⟩ := bind_eq_ok.mp h
    rw [pure_eq_ok] at h
    rw [← h]
    have hcreated := (Model.grows_addFamily (Staffing.asFault_eq_ok.mp hloads)).trans
      (Model.grows_addSingle (Staffing.asFault_eq_ok.mp hlargest))
    exact (hcreated.trans (Model.grows_require _ _)).trans (Model.grows_pursue _ _ _ _)

theorem applyObjective_grows {s : Specification} {b b' : Built Model} {o : Override}
    (h : applyOverride builtins.objective s b o = .ok b') : b.handle.Grows b'.handle := by
  obtain ⟨rule, hrule, hhandle, -⟩ := applyOverride_eq_ok h
  rcases objective_builtins hrule with ⟨-, rfl⟩ | ⟨-, rfl⟩ | ⟨-, rfl⟩
  · exact (minimizeCost_adds hhandle).grows
  · exact (maximizeCoverage_adds hhandle).grows
  · exact balanceWorkload_grows hhandle

/-- Whatever overrides there are, the finished model is one that the model of the problem grew to. -/
theorem assemble_grows {s : Specification} {b : Built Model}
    (htemplate : s.template = "work_scheduling") (h : assemble builtins s = .ok b) :
    ∃ p m, Staffing.Problem.ofSpecification s = .ok p ∧ p.model = .ok m ∧ m.Grows b.handle := by
  obtain ⟨p, m, mid, l, hp, hmodel, hadds, -, hlast⟩ := assemble_eq_ok htemplate h
  refine ⟨p, m, hp, hmodel, ?_⟩
  rcases hlast with rfl | ⟨o, -, happly⟩
  · exact hadds.grows
  · exact hadds.grows.trans (applyObjective_grows happly)

end Build

/-! ## Loading -/

/-- Loading keeps the template, the indexes and the overrides. -/
theorem Loader.kept_of_materializeAll {σ : Type} {l : Loader σ} {w : World σ} {s t : Specification}
    (h : (l.materializeAll w s).1 = .ok t) :
    t.template = s.template ∧ t.indexes = s.indexes ∧ t.overrides = s.overrides := by
  unfold materializeAll at h
  obtain ⟨entries, -, ht⟩ := map_eq_ok.mp h
  rw [← ht]
  exact ⟨rfl, rfl, rfl⟩

/-! ## Members -/

theorem Index.WellFormed.isMember {i : Index} (hi : i.WellFormed) :
    ∀ v ∈ i.members, v.IsMember := by
  intro v hv
  cases i with
  | range first last =>
      obtain ⟨day, -, rfl⟩ := List.mem_map.mp hv
      trivial
  | listed members =>
      obtain ⟨names, -, rfl⟩ := hi
      obtain ⟨name, -, rfl⟩ := List.mem_map.mp hv
      trivial

/-- The members of an index that was read are texts and days. -/
theorem isMember_of_mem_membersOf {s : Specification} (hs : s.WellFormed) {name : String} {v : Value}
    (hv : v ∈ Staffing.membersOf s name []) : v.IsMember := by
  unfold Staffing.membersOf at hv
  cases hfound : s.indexes.find? name with
  | none =>
      rw [hfound] at hv
      exact absurd hv List.not_mem_nil
  | some i =>
      rw [hfound] at hv
      exact (hs.indexes _ ((Named.mem_entries_iff _ _ _).mpr hfound)).isMember v hv

/-! ## Counting -/

/-- Where nothing is listed twice, as many places pass a test as there are things that do. -/
theorem length_filter_eq_ncard {α : Type} {l : List α} (hl : l.Nodup) (p : α → Prop)
    [DecidablePred p] : (l.filter fun a => p a).length = {a | a ∈ l ∧ p a}.ncard := by
  classical
  have hset : {a | a ∈ l ∧ p a} = ((l.filter fun a => p a).toFinset : Set α) := by
    ext a
    simp
  rw [hset, Set.ncard_coe_finset, List.toFinset_card_of_nodup (hl.filter _)]

/-! ## Coverage -/

namespace Build

open Staffing (scenariosOf indexesOf Demands)

/-- A model that is built of a specification with any overrides grew from the model of a problem, and
the problem is what the loaded specification says. -/
theorem run_eq_ok {σ : Type} {l : Loader σ} {w : World σ} {s : Specification} {b : Built Model}
    (htemplate : s.template = "work_scheduling") (hbuild : (run builtins l w s).1 = .ok b) :
    ∃ loaded p m, (l.materializeAll w s).1 = .ok loaded ∧ scenariosOf loaded = scenariosOf s
      ∧ indexesOf loaded = indexesOf s ∧ Staffing.Problem.Reads p loaded ∧ p.model = .ok m
      ∧ m.Grows b.handle := by
  unfold run at hbuild
  obtain ⟨loaded, hloaded, hassemble⟩ := bind_eq_ok.mp hbuild
  have hloaded := mapError_eq_ok.mp hloaded
  -- loading fills in data and keeps what the problem is named by
  obtain ⟨hsameTemplate, hsameIndexes, -⟩ := Loader.kept_of_materializeAll hloaded
  have hscenarios : scenariosOf loaded = scenariosOf s := by
    unfold scenariosOf Staffing.membersOf
    rw [hsameIndexes]
  have hindexes : indexesOf loaded = indexesOf s := by
    unfold indexesOf Staffing.membersOf
    rw [hsameIndexes]
  obtain ⟨p, m, hp, hmodel, hgrows⟩ :=
    assemble_grows (hsameTemplate.trans htemplate) hassemble
  exact ⟨loaded, p, m, hloaded, hscenarios, hindexes,
    Staffing.Problem.reads_of_ofSpecification hp, hmodel, hgrows⟩

/-- In a model that was built of a configuration with any overrides, each slot has as many places in
the list of candidates as it needs at which the candidate works. If no candidate is listed twice,
these are as many different candidates. -/
theorem covered_by_listed {σ : Type} {l : Loader σ} {w : World σ} {es : Entries}
    {s : Specification} {b : Built Model} (haccepted : Config.decode es = .ok s)
    (htemplate : s.template = "work_scheduling") (hbuild : (run builtins l w s).1 = .ok b) :
    ∃ loaded assign hire, (l.materializeAll w s).1 = .ok loaded
      ∧ b.handle.family "assign" = .ok assign ∧ b.handle.family "hire" = .ok hire
      ∧ ∀ v : Valuation, (∀ n ∈ assign.numbers ++ hire.numbers, v n = 0 ∨ v n = 1) →
        (∀ c ∈ b.handle.constraints, c.Holds v) →
        ∀ scenario, .str scenario ∈ scenariosOf s → ∀ d ∈ (indexesOf s).days,
        ∀ skill, .str skill ∈ (indexesOf s).skills → ∀ n, Demands loaded scenario d skill n →
          n ≤ ((indexesOf s).candidates.filter fun c =>
            v (assign.number [c, d, .str skill]) = 1).length
          ∧ ((indexesOf s).candidates.Nodup →
            n ≤ {c | c ∈ (indexesOf s).candidates
              ∧ v (assign.number [c, d, .str skill]) = 1}.ncard) := by
  obtain ⟨loaded, p, m, hloaded, hscenarios, hindexes, hreads, hmodel, hgrows⟩ :=
    run_eq_ok htemplate hbuild
  obtain ⟨hassign, hhire⟩ := Staffing.Problem.family_model hmodel
  refine ⟨loaded, p.assign, p.hire, hloaded, hgrows.family _ _ hassign, hgrows.family _ _ hhire, ?_⟩
  intro v hzeroOne hholds scenario hscenario d hd skill hskill n hdemands
  have hcovering := (Staffing.Problem.holds_model hreads hmodel v).mp
    fun c hc => hholds c (hgrows.constraints hc)
  have hsum := hcovering.covers scenario d skill n (hscenarios ▸ hscenario) (hindexes ▸ hd)
    (hindexes ▸ hskill) hdemands
  rw [hindexes] at hsum
  -- every candidate of a configuration has an assignment of its own
  have hworks : ∀ c ∈ (indexesOf s).candidates, v (p.assign.number [c, d, .str skill]) = 0
      ∨ v (p.assign.number [c, d, .str skill]) = 1 := by
    intro c hc
    have hwellFormed := Config.decode_wellFormed haccepted
    have hmember : c.IsMember ∧ d.IsMember ∧ (Value.str skill).IsMember :=
      ⟨isMember_of_mem_membersOf hwellFormed hc, isMember_of_mem_membersOf hwellFormed hd, trivial⟩
    rw [← hindexes, hreads.indexes] at hc hd hskill
    have hfound := Staffing.Problem.isSome_find?_assign hc hd hskill hmember
    exact hzeroOne _ (List.mem_append_left _ (Family.number_mem hfound))
  have hplaces : n ≤ ((indexesOf s).candidates.filter fun c =>
      v (p.assign.number [c, d, .str skill]) = 1).length := by
    have hcount := sum_eq_length_filter hworks
    exact_mod_cast hcount ▸ hsum
  refine ⟨hplaces, fun hnodup => ?_⟩
  rw [← length_filter_eq_ncard hnodup]
  exact hplaces

/-! ### A desk for two -/

/-- One day, one desk that needs two workers, and the candidates as they are listed. Ann and Bob may
both work at the desk. -/
def deskFor (names : List String) : Entries :=
  Entries.ofFields
    [("template", .str "work_scheduling"),
      ("indexes", .ofFields
        [("days", .ofFields [("type", .str "date_range"), ("start", .str "2025-03-03"),
            ("end", .str "2025-03-03")]),
          ("candidates", Config.listedMembers names), ("skills", Config.listedMembers ["desk"])]),
      ("parameters", .ofFields
        [("demand", Config.inlineTable ["day", "skill", "value"]
            [.list [.str "2025-03-03", .str "desk", .int 2]]),
          ("candidate_skills", Config.inlineTable ["candidate", "skill"]
            [.list [.str "Ann", .str "desk"], .list [.str "Bob", .str "desk"]])])]

/-- A loader without files or functions. -/
def literalLoader : Loader Unit := ⟨.empty, .ofText "data", .null, false, .empty⟩

/-- A world without files or functions. -/
def literalWorld : World Unit := .bare ()

/-- What a configuration of the desk is read, loaded and built to. -/
structure IsDesk (names : List String) (s loaded : Specification) (b : Built Model) (day : Value) :
    Prop where
  accepted : Config.decode (deskFor names) = .ok s
  template : s.template = "work_scheduling"
  loads : (literalLoader.materializeAll literalWorld s).1 = .ok loaded
  builds : (run builtins literalLoader literalWorld s).1 = .ok b
  /-- The model is satisfied when everybody who is listed works. -/
  satisfied : ∀ c ∈ b.handle.constraints, c.Holds fun _ => 1
  candidates : (indexesOf s).candidates = names.map .str
  day_mem : day ∈ (indexesOf s).days
  skill_mem : .str "desk" ∈ (indexesOf s).skills
  scenario_mem : .str "base" ∈ scenariosOf s
  demands : Demands loaded "base" day "desk" 2

/-- Runs the configuration of the desk through all stages. -/
def checkDesk (names : List String) : Bool :=
  (Config.decode (deskFor names)).toOption.any fun s =>
  (literalLoader.materializeAll literalWorld s).1.toOption.any fun loaded =>
  (run builtins literalLoader literalWorld s).1.toOption.any fun b =>
  (loaded.loadedData "demand").toOption.any fun table =>
  (Staffing.demandFrom table (indexesOf loaded).days
    ((scenariosOf loaded).map Value.shown)).toOption.any fun entries =>
  s.template == "work_scheduling"
    && b.handle.constraints.all (fun c => decide (c.Holds fun _ => 1))
    && Config.texts? (.list (indexesOf s).candidates) == some names
    && (indexesOf s).days.any (fun d => Staffing.countFor? entries "base" d "desk" == some 2)
    && Config.texts? (.list (indexesOf s).skills) == some ["desk"]
    && Config.texts? (.list (scenariosOf s)) == some ["base"]

/-- A run of the desk that was checked gives everything that is known of it. -/
theorem exists_isDesk (names : List String) (h : checkDesk names = true) :
    ∃ s loaded b day, IsDesk names s loaded b day := by
  unfold checkDesk at h
  simp only [Option.any_eq_true, Bool.and_eq_true, beq_iff_eq, List.all_eq_true,
    decide_eq_true_eq, List.any_eq_true] at h
  -- every part of the check becomes a fact about the result of its stage
  obtain ⟨s, hs, loaded, hloaded, b, hb, table, htable, entries, hentries,
    ⟨⟨⟨⟨htemplate, hholds⟩, hcandidates⟩, day, hday, hcount⟩, hskills⟩, hscenarios⟩ := h
  have hskills := Config.texts?_eq_some hskills
  have hscenarios := Config.texts?_eq_some hscenarios
  exact ⟨s, loaded, b, day,
    { accepted := eq_ok_of_toOption hs
      template := htemplate
      loads := eq_ok_of_toOption hloaded
      builds := eq_ok_of_toOption hb
      satisfied := hholds
      candidates := Value.list.inj (Config.texts?_eq_some hcandidates)
      day_mem := hday
      skill_mem := by rw [Value.list.inj hskills]; exact List.mem_singleton_self _
      scenario_mem := by rw [Value.list.inj hscenarios]; exact List.mem_singleton_self _
      demands := ⟨table, entries, eq_ok_of_toOption htable, eq_ok_of_toOption hentries, hcount⟩ }⟩

/-- Two candidates at the desk: whenever the model is satisfied, both of them work. -/
theorem covered_by_two_at_desk :
    ∃ s loaded b day, IsDesk ["Ann", "Bob"] s loaded b day ∧ (indexesOf s).candidates.Nodup
      ∧ ∃ assign hire, b.handle.family "assign" = .ok assign ∧ b.handle.family "hire" = .ok hire
        ∧ ∀ v : Valuation, (∀ n ∈ assign.numbers ++ hire.numbers, v n = 0 ∨ v n = 1) →
          (∀ c ∈ b.handle.constraints, c.Holds v) →
          2 ≤ {c | c ∈ (indexesOf s).candidates
            ∧ v (assign.number [c, day, .str "desk"]) = 1}.ncard := by
  obtain ⟨s, loaded, b, day, hdesk⟩ := exists_isDesk ["Ann", "Bob"] (by decide +kernel)
  have hnodup : (indexesOf s).candidates.Nodup := by
    rw [hdesk.candidates]
    simp
  obtain ⟨loaded', assign, hire, hloaded', hassign, hhire, hcovered⟩ :=
    covered_by_listed hdesk.accepted hdesk.template hdesk.builds
  -- loading gives one result, so the table that was looked at is the one in the model
  have hsame : loaded' = loaded := by
    rw [hdesk.loads] at hloaded'
    exact (Except.ok.inj hloaded').symm
  refine ⟨s, loaded, b, day, hdesk, hnodup, assign, hire, hassign, hhire, fun v hv hholds => ?_⟩
  exact (hcovered v hv hholds "base" hdesk.scenario_mem day hdesk.day_mem "desk" hdesk.skill_mem 2
    (hsame ▸ hdesk.demands)).2 hnodup

/-- One candidate at the desk who is listed twice: the model is satisfied when she works alone. -/
theorem not_covered_by_distinct :
    ∃ s loaded b day assign hire, IsDesk ["Ann", "Ann"] s loaded b day
      ∧ b.handle.family "assign" = .ok assign ∧ b.handle.family "hire" = .ok hire
      ∧ ∃ v : Valuation, (∀ n ∈ assign.numbers ++ hire.numbers, v n = 0 ∨ v n = 1)
        ∧ (∀ c ∈ b.handle.constraints, c.Holds v)
        ∧ {c | c ∈ (indexesOf s).candidates
            ∧ v (assign.number [c, day, .str "desk"]) = 1}.ncard < 2 := by
  obtain ⟨s, loaded, b, day, hdesk⟩ := exists_isDesk ["Ann", "Ann"] (by decide +kernel)
  obtain ⟨_, p, m, -, -, -, -, hmodel, hgrows⟩ := run_eq_ok hdesk.template hdesk.builds
  obtain ⟨hassign, hhire⟩ := Staffing.Problem.family_model hmodel
  -- everybody works, which satisfies the model; but everybody is Ann
  refine ⟨s, loaded, b, day, p.assign, p.hire, hdesk, hgrows.family _ _ hassign,
    hgrows.family _ _ hhire, fun _ => 1, fun _ _ => Or.inr rfl, hdesk.satisfied, ?_⟩
  have honly : {c | c ∈ (indexesOf s).candidates ∧ (1 : Int) = 1} = {.str "Ann"} := by
    rw [hdesk.candidates]
    ext c
    simp
  rw [honly, Set.ncard_singleton]
  decide

end Build

end Rostering
