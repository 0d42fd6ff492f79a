import Rostering.Proofs.Build
import Rostering.Proofs.Loader.Failures
import Rostering.Proofs.Loader.History
import Rostering.Proofs.Revision

/-!
# Loading the data of a specification

What loading all data of a specification does, told by the sources that are loaded on the way. Each
parameter without data has its source loaded once, in the order of the parameters, and no other
source is loaded. Where a parameter fails, the sources up to its own have been loaded, and none
after it.

## The architecture

* **`Parameter.pendingSource?`**, **`Loader.pendingSources`** — the sources that have to be loaded.
* **`Parameter.filled`** — what a parameter becomes with what its source gave;
  `Loader.materialize_eq` says that this and one load are all there is to it.
* **`Loader.Filled`** — a list of parameters with what the loaded sources gave put in.
* **`Loader.Outcome`** — the two ways in which a list of parameters can be gone through, by the run
  of loads that it comes to; `Loader.outcome_of_materializeEntries` is the induction.
* **`Loader.materializeAll_materializes`** — the same for a specification, with all that it leaves
  alone.
-/

namespace Rostering

/-! ## Sources to be loaded -/

/-- The source that is loaded for a parameter: there is none if it has its data. -/
def Parameter.pendingSource? (p : Parameter) : Option Source :=
  if Loader.isPending p then p.source? else none

/-- The parameter with what its source gave: a table with the columns of its schema, or a mapping
keyed on its column. -/
def Parameter.filled (p : Parameter) (v : Value) : Except Failure Parameter :=
  match p with
  | .scalar value type => pure (.scalar value type)
  | .table schema s _ => (Loader.tableFrom s schema v).map fun t => .table schema s (some t)
  | .mapping key s _ => (Loader.mappingFrom s key v).map fun es => .mapping key s (some es)

namespace Loader

variable {σ : Type}

/-- The sources of all parameters that have no data, in order. -/
def pendingSources (es : List (String × Parameter)) : List Source :=
  es.filterMap fun e => e.2.pendingSource?

theorem pendingSources_cons_of_ready {name : String} {p : Parameter} (hp : isPending p = false)
    (es : List (String × Parameter)) : pendingSources ((name, p) :: es) = pendingSources es :=
  List.filterMap_cons_none (by rw [Parameter.pendingSource?, hp]; rfl)

theorem pendingSources_cons_of_pending {name : String} {p : Parameter} {s : Source}
    (hs : p.pendingSource? = some s) (es : List (String × Parameter)) :
    pendingSources ((name, p) :: es) = s :: pendingSources es :=
  List.filterMap_cons_some hs

theorem exists_pendingSource {p : Parameter} (hp : isPending p = true) :
    ∃ s, p.pendingSource? = some s := by
  unfold Parameter.pendingSource?
  rw [if_pos hp]
  cases p with
  | scalar => cases hp
  | table schema s data => exact ⟨s, rfl⟩
  | mapping key s data => exact ⟨s, rfl⟩

/-! ## One parameter -/

/-- A parameter without data is filled with what one load of its source gives. -/
theorem materialize_eq (l : Loader σ) (w : World σ) {p : Parameter} {s : Source}
    (hs : p.pendingSource? = some s) :
    l.materialize w p = ((l.load w s).1.bind p.filled, (l.load w s).2) := by
  unfold Parameter.pendingSource? at hs
  split at hs
  · cases p with
    | scalar => cases hs
    | table schema source data =>
        cases hs
        rfl
    | mapping key source data =>
        cases hs
        rfl
  · cases hs

theorem settle_of_pending (l : Loader σ) (w : World σ) {p : Parameter} (hp : isPending p = true) :
    l.settle w p = l.materialize w p :=
  if_pos hp

theorem settle_of_ready (l : Loader σ) (w : World σ) {p : Parameter} (hp : isPending p = false) :
    l.settle w p = (.ok p, l, w) := by
  unfold settle
  rw [hp]
  rfl

/-! ## Runs of loads -/

namespace Run

/-- Loads sources one after the other. -/
def loads (r : Run σ) (sources : List Source) : Run σ :=
  (sources.map Use.load).foldl Run.step r

@[simp] theorem loads_cons (r : Run σ) (s : Source) (sources : List Source) :
    r.loads (s :: sources) = (r.step (.load s)).loads sources := rfl

end Run

/-- The events of loading sources that all gave data. -/
def answered (sources : List Source) (vs : List Value) : List Event :=
  List.zipWith (fun s v => .loaded s (.ok v)) sources vs

/-! ## One parameter after the other -/

/-- What the sources gave was put into the parameters that had no data, one value for each of them,
and the others are as they were. -/
inductive Filled : List (String × Parameter) → List Value → List (String × Parameter) → Prop where
  | nil : Filled [] [] []
  | kept {name : String} {p : Parameter} {es fs : List (String × Parameter)} {vs : List Value}
      (hp : isPending p = false) (hrest : Filled es vs fs) :
      Filled ((name, p) :: es) vs ((name, p) :: fs)
  | filled {name : String} {p q : Parameter} {v : Value} {es fs : List (String × Parameter)}
      {vs : List Value} (hp : isPending p = true) (hq : p.filled v = .ok q)
      (hrest : Filled es vs fs) : Filled ((name, p) :: es) (v :: vs) ((name, q) :: fs)

/-- How going through parameters from some state of a run ends: all are filled, or one that has no
data cannot be. The run that loads their sources, one after the other, gets to the same state. -/
inductive Outcome (r : Run σ) (es : List (String × Parameter)) :
    Except Failure (List (String × Parameter)) × Loader σ × World σ → Prop where
  | succeeded {fs : List (String × Parameter)} {vs : List Value} {l : Loader σ} {w : World σ}
      (hfilled : Filled es vs fs)
      (hrun : r.loads (pendingSources es) = ⟨l, w, r.history ++ answered (pendingSources es) vs⟩) :
      Outcome r es (.ok fs, l, w)
  | failed {before after fs : List (String × Parameter)} {vs : List Value} {name : String}
      {p : Parameter} {s : Source} {e : Failure} {r₁ : Run σ} {l : Loader σ} {w : World σ}
      (hes : es = before ++ (name, p) :: after) (hfilled : Filled before vs fs)
      (hsource : p.pendingSource? = some s)
      (hbefore : r.loads (pendingSources before) = r₁)
      (hanswers : r₁.history = r.history ++ answered (pendingSources before) vs)
      (hfails : r₁.loader.materialize r₁.world p = (.error e, l, w))
      (hloader : (r₁.step (.load s)).loader = l) (hworld : (r₁.step (.load s)).world = w) :
      Outcome r es (.error e, l, w)

/-- One parameter that has its data more, in front, changes nothing. -/
theorem Outcome.kept {r : Run σ} {es : List (String × Parameter)} {name : String} {p : Parameter}
    (hp : isPending p = false)
    {o : Except Failure (List (String × Parameter)) × Loader σ × World σ} (h : Outcome r es o) :
    Outcome r ((name, p) :: es) (o.1.map ((name, p) :: ·), o.2) := by
  cases h with
  | succeeded hfilled hrun =>
      refine .succeeded (.kept hp hfilled) ?_
      rw [pendingSources_cons_of_ready hp]
      exact hrun
  | failed hes hfilled hsource hbefore hanswers hfails hloader hworld =>
      subst hes
      -- the sources up to the failure are those that they were
      have hsources : ∀ fs, pendingSources ((name, p) :: fs) = pendingSources fs :=
        pendingSources_cons_of_ready hp
      exact .failed rfl (.kept hp hfilled) hsource ((hsources _).symm ▸ hbefore)
        ((hsources _).symm ▸ hanswers) hfails hloader hworld

/-- Nor does one that is filled, other than that its source is loaded first. Its loading is the next
one that is counted, with the loader and the world as they are then. -/
theorem Outcome.filled {r : Run σ} {es : List (String × Parameter)} {name : String}
    {p q : Parameter} {s : Source} {v : Value} (hp : isPending p = true)
    (hs : p.pendingSource? = some s) (hv : (r.loader.load r.world s).1 = .ok v)
    (hq : p.filled v = .ok q)
    {o : Except Failure (List (String × Parameter)) × Loader σ × World σ}
    (h : Outcome (r.step (.load s)) es o) :
    Outcome r ((name, p) :: es) (o.1.map ((name, q) :: ·), o.2) := by
  have hhistory : (r.step (.load s)).history = r.history ++ [.loaded s (.ok v)] := by
    rw [Run.step_load, hv]
  have hsources : ∀ fs, pendingSources ((name, p) :: fs) = s :: pendingSources fs :=
    pendingSources_cons_of_pending hs
  -- the events of the rest come after that of the first load
  have hanswered : ∀ sources vs, (r.step (.load s)).history ++ answered sources vs
      = r.history ++ answered (s :: sources) (v :: vs) := by
    intro sources vs
    rw [hhistory, List.append_assoc]
    rfl
  cases h with
  | succeeded hfilled hrun =>
      refine .succeeded (.filled hp hq hfilled) ?_
      rw [hsources, Run.loads_cons, hrun, hanswered]
  | failed hes hfilled hsource hbefore hanswers hfails hloader hworld =>
      subst hes
      refine .failed rfl (.filled hp hq hfilled) hsource ?_ ?_ hfails hloader hworld
      · rw [hsources, Run.loads_cons, hbefore]
      · rw [hanswers, hanswered, hsources]

/-- Going through parameters ends in one of the two ways. Induction on the parameters that are left,
from any state of a run. -/
theorem outcome_of_materializeEntries (es : List (String × Parameter)) :
    ∀ r : Run σ, Outcome r es (r.loader.materializeEntries r.world es) := by
  induction es with
  | nil => exact fun r => .succeeded .nil (congrArg (Run.mk _ _) (List.append_nil _).symm)
  | cons e es ih =>
      intro r
      obtain ⟨name, p⟩ := e
      rw [materializeEntries_cons]
      -- a parameter with data is passed over, one without has its source loaded first
      cases hp : isPending p with
      | false =>
          rw [settle_of_ready r.loader r.world hp]
          exact (ih r).kept hp
      | true =>
          obtain ⟨s, hs⟩ := exists_pendingSource hp
          have hmaterialize := materialize_eq r.loader r.world hs
          rw [settle_of_pending r.loader r.world hp]
          cases hresult : (r.loader.materialize r.world p).1 with
          -- the run ends here: nothing after this parameter is loaded
          | error e =>
              have hfails : r.loader.materialize r.world p
                  = (.error e, (r.loader.load r.world s).2) := by
                rw [← hresult, hmaterialize]
              rw [hfails]
              exact .failed (List.nil_append _).symm .nil hs rfl (List.append_nil _).symm hfails rfl rfl
          | ok q =>
              have hfills : r.loader.materialize r.world p
                  = (.ok q, (r.loader.load r.world s).2) := by
                rw [← hresult, hmaterialize]
              rw [hmaterialize] at hresult
              obtain ⟨v, hv, hq⟩ := bind_eq_ok.mp hresult
              rw [hfills]
              exact (ih (r.step (.load s))).filled hp hs hv hq

/-! ## All of a specification -/

/-- How loading the data of a specification ends. If it succeeds, everything but the data that were
missing is as before: names, their order, sources, and the data that were there. All data are there,
tables that were loaded have the columns of their schemas, the sources of the parameters that had no
data were loaded, one after the other, and nothing else; and loading once more does nothing. If it
fails, the parameters up to one without data could be filled, and that one fails; its source is the
last that was loaded. -/
inductive Materializes (l : Loader σ) (w : World σ) (s : Specification) :
    Except Failure Specification × Loader σ × World σ → Prop where
  | succeeded {t : Specification} {vs : List Value} {l' : Loader σ} {w' : World σ}
      (hframe : t = { s with parameters := t.parameters })
      (hsettled : s.parameters.Related Settled t.parameters)
      (hloaded : t.IsLoaded)
      (hfilled : Filled s.parameters.entries vs t.parameters.entries)
      (hrun : Run.of l w ((pendingSources s.parameters.entries).map .load)
        = ⟨l', w', answered (pendingSources s.parameters.entries) vs⟩)
      (hagain : pendingSources t.parameters.entries = []
        ∧ ∀ (l₂ : Loader σ) (w₂ : World σ), l₂.materializeAll w₂ t = (.ok t, l₂, w₂)) :
      Materializes l w s (.ok t, l', w')
  | failed {before after fs : List (String × Parameter)} {vs : List Value} {name : String}
      {p : Parameter} {source : Source} {e : Failure} {r : Run σ} {l' : Loader σ} {w' : World σ}
      (hentries : s.parameters.entries = before ++ (name, p) :: after)
      (hfilled : Filled before vs fs)
      (hsource : p.pendingSource? = some source)
      (hbefore : Run.of l w ((pendingSources before).map .load) = r)
      (hanswers : r.history = answered (pendingSources before) vs)
      (hfails : r.loader.materialize r.world p = (.error e, l', w'))
      (hloader : (r.step (.load source)).loader = l')
      (hworld : (r.step (.load source)).world = w') :
      Materializes l w s (.error e, l', w')

/-- Loading the data of any specification, with any loader in any world, ends so. It is one
statement for all loaders, since what is loaded is told by the loads themselves. -/
theorem materializeAll_materializes (l : Loader σ) (w : World σ) (s : Specification) :
    Materializes l w s (l.materializeAll w s) := by
  have houtcome := outcome_of_materializeEntries s.parameters.entries ⟨l, w, []⟩
  have hsettled : ∀ fs, (l.materializeEntries w s.parameters.entries).1 = .ok fs →
      List.Forall₂ (fun e f => e.1 = f.1 ∧ Settled e.2 f.2) s.parameters.entries fs :=
    fun _ => settled_of_materializeEntries s.parameters.entries
  unfold materializeAll
  change Outcome _ _ (l.materializeEntries w s.parameters.entries) at houtcome
  generalize l.materializeEntries w s.parameters.entries = o at houtcome hsettled ⊢
  cases houtcome with
  | @succeeded fs vs l' w' hfilled hrun =>
      -- the names are those of the parameters before, so they are still distinct
      have hentries : (Named.ofList fs).entries = fs := by
        apply Named.entries_ofList
        rw [← Named.map_fst_eq_of_forall₂ (hsettled fs rfl)]
        exact s.parameters.distinct
      have hrelated : s.parameters.Related Settled (Named.ofList fs) :=
        Named.related_ofList (hsettled fs rfl)
      -- what was filled in is data, so nothing is pending any more
      have hloaded : Specification.IsLoaded { s with parameters := Named.ofList fs } := by
        intro e he
        obtain ⟨p, -, hpq⟩ := hrelated.exists_of_mem he
        exact hpq.isPending_eq_false
      refine .succeeded rfl hrelated hloaded (hentries.symm ▸ hfilled) hrun ⟨?_, ?_⟩
      · refine List.filterMap_eq_nil_iff.mpr fun e he => ?_
        unfold Parameter.pendingSource?
        rw [hloaded e he]
        rfl
      · exact fun l₂ w₂ => materializeAll_of_isLoaded l₂ w₂ hloaded
  | failed hes hfilled hsource hbefore hanswers hfails hloader hworld =>
      exact .failed hes hfilled hsource hbefore hanswers hfails hloader hworld

end Loader

end Rostering
