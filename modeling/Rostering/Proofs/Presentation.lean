import Rostering.Presentation
import Rostering.Proofs.Config.RoundTrip
import Rostering.Proofs.Patch.Change

/-!
# Presentations and the patches behind them

A presentation lists a control for each index and then at most one slider for each parameter, in
the order of the specification. No two of its controls are for the same entry. It reads the
template, the indexes and the names of the parameters, and nothing else, so only a patch of an index
can show in it, and only in what it says of that index.

## The architecture

* **`Control.target`** — the entry that a control is for, as its report gives it. Controls of
  different entries are told apart by it (`Control.Shows.target_eq`, `Control.Adjusts.target_ne`).
* **`Presentation.LaidOut`** — the order of a presentation, which every specification leads to
  (`Presentation.laidOut`).
* **`Presentation.Rewritten`**, **`Presentation.Follows`** — what becomes of the controls, and of
  the whole presentation, when one index is written.
* **`Presentation.follows_patch`** — what a patch changes in a presentation.
-/

namespace Rostering

/-! ## Controls and what they are for -/

namespace Control

/-- The entry that a control is for. -/
def target : Control → String
  | .days name _ _ => "indexes." ++ name
  | .choice name _ => "indexes." ++ name
  | .factor name => "parameters." ++ name ++ ".multiplier"
  | .scale name => "parameters." ++ name ++ ".scale"

/-- The report of a control says what the control is for. -/
theorem field?_report (c : Control) :
    ∃ es : Entries, c.report = .map es ∧ es.field? "maps_to" = some (.str c.target) := by
  cases c <;> exact ⟨_, rfl, Entries.field?_ofFields _ _⟩

/-- A control shows a named index: a range by its ends, a list by its members. -/
inductive Shows : Control → String × Index → Prop where
  | days (name : String) (first last : Day) :
      Shows (.days name first last) (name, .range first last)
  | choice (name : String) (members : List Value) :
      Shows (.choice name members) (name, .listed members)

/-- A control is a slider for the parameter of a name. -/
inductive Adjusts : Control → String → Prop where
  | factor (name : String) : Adjusts (.factor name) name
  | scale (name : String) : Adjusts (.scale name) name

theorem ofIndex_shows (name : String) (index : Index) :
    (ofIndex name index).Shows (name, index) := by
  cases index with
  | range first last => exact .days name first last
  | listed members => exact .choice name members

theorem adjusts_of_ofParameter? {name : String} {c : Control} (h : ofParameter? name = some c) :
    c.Adjusts name := by
  unfold ofParameter? at h
  split at h
  · cases h
    exact .factor name
  · split at h
    · cases h
      exact .scale name
    · cases h

theorem Shows.target_eq {c : Control} {e : String × Index} (h : c.Shows e) :
    c.target = "indexes." ++ e.1 := by
  cases h <;> rfl

/-- Sliders for the same entry are sliders for the same parameter. -/
theorem Adjusts.name_eq {c d : Control} {name other : String} (hc : c.Adjusts name)
    (hd : d.Adjusts other) (h : c.target = d.target) : name = other := by
  have hlast := congrArg (fun s : String => s.toList.getLast?) h
  cases hc with
  | factor =>
      cases hd with
      | factor => simpa [target] using h
      | scale => simp [target, List.getLast?_cons] at hlast
  | scale =>
      cases hd with
      | factor => simp [target, List.getLast?_cons] at hlast
      | scale => simpa [target] using h

/-- No slider is for an index. -/
theorem Adjusts.target_ne {c : Control} {name : String} (hc : c.Adjusts name) (index : String) :
    c.target ≠ "indexes." ++ index := by
  intro h
  have hfirst := congrArg (fun s : String => s.toList.head?) h
  cases hc <;> simp [target] at hfirst

/-! ### Lists of controls -/

theorem map_target_of_shows {cs : List Control} {es : List (String × Index)}
    (h : List.Forall₂ Shows cs es) :
    cs.map target = (es.map Prod.fst).map ("indexes." ++ ·) := by
  induction h with
  | nil => rfl
  | cons hc _ ih =>
      simp only [List.map_cons]
      rw [hc.target_eq, ih]

theorem exists_adjusts_of_mem {cs : List Control} {names : List String}
    (h : List.SublistForall₂ Adjusts cs names) {c : Control} (hc : c ∈ cs) :
    ∃ name ∈ names, c.Adjusts name := by
  obtain ⟨chosen, hchosen, hsub⟩ := List.sublistForall₂_iff.mp h
  obtain ⟨name, hname, hadjusts⟩ := exists_of_mem_forall₂ hchosen.flip hc
  exact ⟨name, hsub.subset hname, hadjusts⟩

/-- Sliders for distinct parameters are for distinct entries. Induction on the names: the slider of
the first one, if there is one, is not that of any other. -/
theorem nodup_target_of_adjusts {cs : List Control} {names : List String}
    (h : List.SublistForall₂ Adjusts cs names) (hnames : names.Nodup) : (cs.map target).Nodup := by
  induction h with
  | nil => exact List.nodup_nil
  | @cons c name cs names hc hcs ih =>
      obtain ⟨hfresh, hnames⟩ := List.nodup_cons.mp hnames
      rw [List.map_cons, List.nodup_cons]
      refine ⟨fun hmem => hfresh ?_, ih hnames⟩
      obtain ⟨d, hd, htarget⟩ := List.mem_map.mp hmem
      obtain ⟨other, hother, hadjusts⟩ := exists_adjusts_of_mem hcs hd
      exact hc.name_eq hadjusts htarget.symm ▸ hother
  | cons_right _ ih => exact ih (List.nodup_cons.mp hnames).2

end Control

/-! ## The order of a presentation -/

namespace Presentation

/-- Controls as a specification orders them: one for each index and then at most one slider for each
parameter. -/
structure Ordered (s : Specification) (forIndexes sliders : List Control) : Prop where
  indexes : List.Forall₂ Control.Shows forIndexes s.indexes.entries
  parameters : List.SublistForall₂ Control.Adjusts sliders s.parameters.names

/-- The controls are ordered, and each is for an entry of its own, which its report names. What can
be filtered on are indexes, in their order. -/
structure LaidOut (p : Presentation) (s : Specification) : Prop where
  ordered : ∃ forIndexes sliders, p.controls = forIndexes ++ sliders ∧ Ordered s forIndexes sliders
  distinct : (p.controls.map Control.target).Nodup
  reported : ∀ c ∈ p.controls,
    ∃ es : Entries, c.report = .map es ∧ es.field? "maps_to" = some (.str c.target)
  filters : p.filters.Sublist s.indexes.names

variable {s : Specification}

theorem controls_ofSpecification (s : Specification) (query : String) :
    (ofSpecification s query).controls = (s.indexes.entries.map fun e => Control.ofIndex e.1 e.2)
      ++ s.parameters.names.filterMap Control.ofParameter? :=
  rfl

/-- The controls of a specification are in the order of its entries. Every index has a control; a
parameter may have none, so the sliders only follow the order of those that have one. -/
theorem ordered_ofSpecification (s : Specification) :
    Ordered s (s.indexes.entries.map fun e => Control.ofIndex e.1 e.2)
      (s.parameters.names.filterMap Control.ofParameter?) where
  indexes := List.forall₂_map_left_iff.mpr
    (List.forall₂_same.mpr fun e _ => Control.ofIndex_shows e.1 e.2)
  parameters := by
    -- a parameter without a slider is skipped, and one with a slider is matched
    induction s.parameters.names with
    | nil => exact .nil
    | cons name names ih =>
        cases h : Control.ofParameter? name with
        | none =>
            rw [List.filterMap_cons_none h]
            exact ih.cons_right
        | some c =>
            rw [List.filterMap_cons_some h]
            exact .cons (Control.adjusts_of_ofParameter? h) ih

/-- No two controls in order have the same target: in one section the names differ, and targets of
different sections begin differently. -/
theorem Ordered.distinct {forIndexes sliders : List Control} (h : Ordered s forIndexes sliders) :
    ((forIndexes ++ sliders).map Control.target).Nodup := by
  have hindexes := Control.map_target_of_shows h.indexes
  rw [List.map_append, List.nodup_append, hindexes]
  refine ⟨?_, Control.nodup_target_of_adjusts h.parameters s.parameters.distinct, ?_⟩
  · exact s.indexes.distinct.map fun a b hab => (String.append_right_inj _).mp hab
  · -- an index is no parameter
    rintro _ hindex _ hslider rfl
    obtain ⟨name, -, hname⟩ := List.mem_map.mp hindex
    obtain ⟨c, hc, htarget⟩ := List.mem_map.mp hslider
    obtain ⟨other, -, hadjusts⟩ := Control.exists_adjusts_of_mem h.parameters hc
    exact hadjusts.target_ne name (htarget.trans hname.symm)

theorem laidOut (s : Specification) (query : String) : (ofSpecification s query).LaidOut s where
  ordered := ⟨_, _, rfl, ordered_ofSpecification s⟩
  distinct := (ordered_ofSpecification s).distinct
  reported c _ := c.field?_report
  filters := List.filter_sublist.map Prod.fst

/-! ## When one index is written -/

/-- Only the control of one index is another one: an index that was there keeps the place of its
control, and the control of a new one comes after those of the other indexes and before all
sliders. -/
inductive Rewritten (s : Specification) (name : String) (index : Index)
    (before after : List Control) : Prop where
  | replaced {i : Index} {front back : List Control} {old new : Control}
      (hfound : s.indexes.find? name = some i) (hold : old.Shows (name, i))
      (hnew : new.Shows (name, index)) (hbefore : before = front ++ old :: back)
      (hafter : after = front ++ new :: back)
  | added {forIndexes sliders : List Control} {new : Control}
      (hfresh : name ∉ s.indexes.names) (hordered : Ordered s forIndexes sliders)
      (hnew : new.Shows (name, index)) (hbefore : before = forIndexes ++ sliders)
      (hafter : after = forIndexes ++ new :: sliders)

/-- A presentation follows the writing of one index: its control is that of the new index, it can be
filtered on if there is something to choose from, and all else is as before. -/
structure Follows (s : Specification) (name : String) (index : Index)
    (before after : Presentation) : Prop where
  view : after.view = before.view
  metrics : after.metrics = before.metrics
  query : after.query = before.query
  controls : Rewritten s name index before.controls after.controls
  others : after.filters.filter (· != name) = before.filters.filter (· != name)
  filter : name ∈ after.filters ↔ ∃ members, index = .listed members ∧ 1 < members.length

/-- Writing an index changes the control of that index, or adds one behind those for indexes. The
place of the control is that of the index in the specification, in either case. -/
theorem rewritten_withIndex (s : Specification) (name : String) (index : Index) (query : String) :
    Rewritten s name index (ofSpecification s query).controls
      (ofSpecification (s.withIndex name index) query).controls := by
  have hwrites : s.indexes.Writes name index (s.withIndex name index).indexes :=
    Named.writes_iff.mpr rfl
  cases hwrites with
  | @replaced front back old hm hn =>
      have hfound : s.indexes.find? name = some old :=
        (s.indexes.mem_entries_iff name old).mp (by rw [hm]; simp)
      -- both specifications have the same entries around the index that is written
      have hcontrols : ∀ {u : Specification} {i : Index}, u.parameters = s.parameters →
          u.indexes.entries = front ++ (name, i) :: back →
          (ofSpecification u query).controls
            = front.map (fun e => Control.ofIndex e.1 e.2) ++ Control.ofIndex name i ::
              (back.map (fun e => Control.ofIndex e.1 e.2)
                ++ s.parameters.names.filterMap Control.ofParameter?) := by
        intro u i hparameters hentries
        rw [controls_ofSpecification, hentries, hparameters, List.map_append, List.append_assoc]
        rfl
      exact .replaced hfound (Control.ofIndex_shows name old) (Control.ofIndex_shows name index)
        (hcontrols rfl hm) (hcontrols rfl hn)
  | appended hfresh hn =>
      refine .added hfresh (ordered_ofSpecification s) (Control.ofIndex_shows name index) rfl ?_
      rw [controls_ofSpecification, hn, List.map_append, List.append_assoc]
      rfl

/-- The filters on other indexes are those that there are without the index. -/
theorem filters_without (s : Specification) (query name : String) :
    (ofSpecification s query).filters.filter (· != name)
      = (((s.indexes.erase name).entries).filter fun e => isFilter e.2).map Prod.fst := by
  show ((s.indexes.entries.filter _).map Prod.fst).filter _
    = ((s.indexes.entries.filter _).filter _).map Prod.fst
  rw [List.filter_map, List.filter_comm]
  rfl

/-- An index can be filtered on exactly if it lists more than one member; a range cannot. -/
theorem mem_filters_iff {query name : String} :
    name ∈ (ofSpecification s query).filters
      ↔ ∃ members, s.indexes.find? name = some (.listed members) ∧ 1 < members.length := by
  show name ∈ (s.indexes.entries.filter _).map Prod.fst ↔ _
  rw [List.mem_map]
  constructor
  · rintro ⟨⟨_, index⟩, he, rfl⟩
    obtain ⟨hmem, hfilter⟩ := List.mem_filter.mp he
    rw [Named.mem_entries_iff] at hmem
    -- a range is not among the filters by definition
    cases index with
    | range first last => cases hfilter
    | listed members => exact ⟨members, hmem, of_decide_eq_true hfilter⟩
  · rintro ⟨members, hfound, hmany⟩
    refine ⟨(name, .listed members), List.mem_filter.mpr ⟨?_, decide_eq_true hmany⟩, rfl⟩
    exact (s.indexes.mem_entries_iff name _).mpr hfound

/-- The presentation follows an index that is written. Everything else that it shows, it reads from
other entries: the view from the template, the metrics from the names of the parameters, and the
sliders from the parameters. -/
theorem follows_withIndex (s : Specification) (name : String) (index : Index) (query : String) :
    Follows s name index (ofSpecification s query)
      (ofSpecification (s.withIndex name index) query) where
  view := rfl
  metrics := rfl
  query := rfl
  controls := rewritten_withIndex s name index query
  others := by
    -- the filters are looked at without this index, where nothing was written
    rw [filters_without, filters_without]
    unfold Specification.withIndex
    rw [Named.erase_insert]
  filter := by
    -- and with it, where the new index is what is found
    rw [mem_filters_iff]
    unfold Specification.withIndex
    simp only [Named.find?_insert, if_pos, Option.some.injEq]

/-- Of the parameters only the names are read. -/
theorem ofSpecification_withParameter {name : String} (hname : name ∈ s.parameters.names)
    (r : Parameter) (query : String) :
    ofSpecification (s.withParameter name r) query = ofSpecification s query := by
  have hnames : (s.withParameter name r).parameters.names = s.parameters.names := by
    unfold Specification.withParameter
    rw [Named.names_insert, if_pos hname]
  unfold ofSpecification
  rw [hnames]
  rfl

/-- Every presentation is laid out, and a patch shows in it only if it is one of an index, and then
only in what it says of that index. -/
theorem follows_patch (s : Specification) (query : String) :
    (ofSpecification s query).LaidOut s
      ∧ ∀ (p : Patch) (t : Specification), p.apply s = .ok t →
        (p.path.head? ≠ some "indexes" → ofSpecification t query = ofSpecification s query)
        ∧ ∀ name, p.path = ["indexes", name] →
          ∃ index, Config.index p.value ("indexes." ++ name) = .ok index
            ∧ t.indexes.find? name = some index
            ∧ Follows s name index (ofSpecification s query) (ofSpecification t query) := by
  refine ⟨laidOut s query, fun p t ht => ?_⟩
  obtain ⟨c, hc, rfl⟩ := Patch.changes_of_apply ht
  cases hc with
  -- options and overrides are not read at all
  | option hpath => exact ⟨fun _ => rfl, fun name h => by simp [hpath] at h⟩
  | overrides hpath => exact ⟨fun _ => rfl, fun name h => by simp [hpath] at h⟩
  | @parameter name q r hpath hq hr =>
      have hname : name ∈ s.parameters.names := Named.mem_names_iff.mpr (by rw [hq]; rfl)
      exact ⟨fun _ => ofSpecification_withParameter hname r query,
        fun name h => by simp [hpath] at h⟩
  | @index name i hpath hi =>
      refine ⟨fun h => absurd (by rw [hpath]; rfl) h, fun other h => ?_⟩
      obtain rfl : name = other := by simpa [hpath] using h
      refine ⟨i, hi, ?_, follows_withIndex s name i query⟩
      show (s.indexes.insert name i).find? name = some i
      rw [Named.find?_insert, if_pos rfl]

/-- The days of a rota become a list that can be filtered on, in the place where the range was. What
a shift costs does not show. -/
theorem follows_patch_of_days :
    let days : Index := .range (.date ⟨730177, by decide⟩) (.date ⟨730179, by decide⟩)
    let shifts : Index := .listed [.str "early", .str "late"]
    let named : Index := .listed [.str "mon", .str "tue"]
    let costs (n : Int) : Named Parameter :=
      ⟨[("shift_cost", .scalar (.int n) .int)], List.nodup_singleton _⟩
    let s : Specification :=
      ⟨"work_scheduling", ⟨[("days", days), ("shifts", shifts)], by decide⟩, costs 3, .empty,
        .empty⟩
    let p : Patch := ⟨.str "merge", ["indexes", "days"], Config.encodeIndex named⟩
    let q : Patch := ⟨.str "merge", ["parameters", "shift_cost"], .int 5⟩
    p.apply s = .ok (s.withIndex "days" named)
      ∧ Follows s "days" named (ofSpecification s "")
        (ofSpecification (s.withIndex "days" named) "")
      ∧ "days" ∈ (ofSpecification (s.withIndex "days" named) "").filters
      ∧ q.apply s = .ok { s with parameters := costs 5 }
      ∧ ofSpecification { s with parameters := costs 5 } "" = ofSpecification s "" := by
  intro days shifts named costs s p q
  -- the new index is read back from what the encoder writes
  have hindex : ∀ path, Config.index (Config.encodeIndex named) path = .ok named :=
    Config.index_encodeIndex ⟨["mon", "tue"], by decide, rfl⟩
  have hp : p.apply s = .ok (s.withIndex "days" named) := by
    unfold Patch.apply
    simp only [p, Patch.merge_supported, hindex]
    rfl
  have hq : q.apply s = .ok { s with parameters := costs 5 } := by
    unfold Patch.apply
    simp only [q, Patch.merge_supported]
    rfl
  obtain ⟨index, hread, -, hfollows⟩ := ((follows_patch s "").2 p _ hp).2 "days" rfl
  -- the theorem gives some index that the patch holds, and that is this one
  obtain rfl : index = named := by simpa [p, hindex] using hread.symm
  refine ⟨hp, hfollows, ?_, hq, ((follows_patch s "").2 q _ hq).1 (by decide)⟩
  exact hfollows.filter.mpr ⟨_, rfl, by decide⟩

end Presentation

end Rostering
