import Rostering.Proofs.Staffing.Problem
import Rostering.Proofs.Staffing.Demand

/-!
# Rows that make no difference

Tables may hold rows that are of no use: demand for other days, demand that comes too late because
there is a number already, demand for a scenario or a skill that nobody plans for, and skills that are
granted already or to somebody else. This module says that such rows change nothing of what is read of
the tables.

A row counts by what it says (`WrittenRow`), with the texts that its table gives it. These texts may
depend on all cells of a column: moments show their times as soon as one of them is not at midnight.
In a column that holds anything but moments each cell has its own text, so there each row says what
it says by itself (`writtenRows_eq_map`).

## The architecture

* **`Pads`** — a list with items of a kind put in, at any places.
* **`addRows_pads`** — rows for other days are passed over, wherever they stand.
* **`DemandEntry.IsIdle`**, **`WrittenRow.IsSpare`** — entries that no slot asks for, and rows that
  bring no others once those before have been read; `addRows_spare` is the induction over them.
* **`demandOf_pads`** — so the numbers of a padded table are the same for all slots.
* **`grantedSkills_pads`** — the same for granted skills.
* **`costTerms_congr`** — the cost of hiring depends on the costs of the candidates alone.
-/

namespace Rostering

/-! ## Padded lists -/

/-- The second list is the first one with items of a kind put in, at any places. -/
inductive Pads {α : Type} (P : α → Prop) : List α → List α → Prop where
  | nil : Pads P [] []
  | keep (a : α) {l l' : List α} (h : Pads P l l') : Pads P (a :: l) (a :: l')
  | add {a : α} {l l' : List α} (ha : P a) (h : Pads P l l') : Pads P l (a :: l')

namespace Pads

variable {α β : Type} {P : α → Prop} {l l' : List α}

theorem subset (h : Pads P l l') : l ⊆ l' := by
  induction h with
  | nil => exact List.Subset.refl _
  | keep a _ ih => exact List.cons_subset_cons a ih
  | add _ _ ih => exact List.subset_cons_of_subset _ ih

theorem mem_or (h : Pads P l l') {a : α} (ha : a ∈ l') : a ∈ l ∨ P a := by
  induction h with
  | nil => exact Or.inl ha
  | keep b _ ih =>
      cases List.mem_cons.mp ha with
      | inl hfirst => exact Or.inl (hfirst ▸ List.mem_cons_self)
      | inr hrest => exact (ih hrest).imp_left (List.mem_cons_of_mem b)
  | add hb _ ih =>
      cases List.mem_cons.mp ha with
      | inl hfirst => exact Or.inr (hfirst ▸ hb)
      | inr hrest => exact ih hrest

theorem mono {Q : α → Prop} (h : Pads P l l') (hQ : ∀ a, P a → Q a) : Pads Q l l' := by
  induction h with
  | nil => exact .nil
  | keep a _ ih => exact .keep a ih
  | add ha _ ih => exact .add (hQ _ ha) ih

theorem map {Q : β → Prop} {f : α → β} (h : Pads P l l') (hQ : ∀ a, P a → Q (f a)) :
    Pads Q (l.map f) (l'.map f) := by
  induction h with
  | nil => exact .nil
  | keep a _ ih => exact .keep (f a) ih
  | add ha _ ih => exact .add (hQ _ ha) ih

/-- What is put in is not found if nothing of its kind is. -/
theorem find?_eq (h : Pads P l l') {p : α → Bool} (hp : ∀ a, P a → p a = false) :
    l'.find? p = l.find? p := by
  induction h with
  | nil => rfl
  | keep a _ ih => rw [List.find?_cons, List.find?_cons, ih]
  | add ha _ ih => rw [List.find?_cons, hp _ ha, ih]

end Pads

namespace Staffing

/-! ## Demand for other days -/

section

variable {days : List Value} {scenarios : List String} {w : WrittenRow} {r r' : DemandRow}
  {es es' : List DemandEntry}

/-- A row for another day is passed over. -/
theorem addRow_of_not_matched (hread : w.IsReadAs days scenarios r) (hw : ¬ w.IsMatched days) :
    addRow es r = .ok es := by
  have hnone : r.day = none := by
    rw [hread.day, matchMember?_eq_none]
    exact fun d hd hlabel => hw ⟨d, hd, hlabel⟩
  unfold addRow
  rw [hnone]
  rfl

/-- A row that is accepted is accepted in the same way wherever it is read. -/
theorem addRow_congr (hread : w.IsReadAs days scenarios r) (hread' : w.IsReadAs days scenarios r')
    (h : addRow es r = .ok es') : addRow es r' = .ok es' := by
  obtain ⟨hscenarios, hday, hskill, hvalue⟩ := hread
  obtain ⟨hscenarios', hday', hskill', hvalue'⟩ := hread'
  unfold addRow at h ⊢
  rw [hscenarios, hday, hskill, hvalue] at h
  rw [hscenarios', hday', hskill', hvalue']
  split at h
  · exact h
  · exact h
  · -- messages alone show the value by its text
    obtain ⟨count, hcount, h⟩ := bind_eq_ok.mp h
    rw [requiredCount_eq_ok_iff] at hcount
    exact bind_eq_ok.mpr ⟨count, requiredCount_eq_ok_iff.mpr hcount, h⟩

/-- Rows for other days make no difference, wherever they stand. Induction on the rows, for any
entries. -/
theorem addRows_pads {ws mid : List WrittenRow} (h : Pads (fun w => ¬ w.IsMatched days) ws mid) :
    ∀ {rows mids : List DemandRow} {es es' : List DemandEntry},
      List.Forall₂ (WrittenRow.IsReadAs days scenarios) ws rows →
        List.Forall₂ (WrittenRow.IsReadAs days scenarios) mid mids →
          rows.foldlM addRow es = .ok es' → mids.foldlM addRow es = .ok es' := by
  induction h with
  | nil =>
      intro rows mids es es' hread hread' hrun
      cases hread
      cases hread'
      exact hrun
  | keep w _ ih =>
      intro rows mids es es' hread hread' hrun
      cases hread with
      | cons hfirst hrest =>
          cases hread' with
          | cons hfirst' hrest' =>
              rw [List.foldlM_cons] at hrun ⊢
              obtain ⟨next, hnext, hrun⟩ := bind_eq_ok.mp hrun
              exact bind_eq_ok.mpr
                ⟨next, addRow_congr hfirst hfirst' hnext, ih hrest hrest' hrun⟩
  -- the row that is put in is for no member, and leaves the entries as they are
  | add hw _ ih =>
      intro rows mids es es' hread hread' hrun
      cases hread' with
      | cons hfirst' hrest' =>
          rw [List.foldlM_cons]
          exact bind_eq_ok.mpr ⟨es, addRow_of_not_matched hfirst' hw, ih hread hrest' hrun⟩

end

/-! ## Demand that comes too late -/

/-- No slot asks for the entry: its scenario or its skill is none of those that are planned for. -/
def DemandEntry.IsIdle (scenarios skills : List Value) (e : DemandEntry) : Prop :=
  ∀ s k, e.scenario = some s → e.skill = some k → .str s ∈ scenarios → .str k ∉ skills

/-- The value of the row is a number of workers, and whatever the row is about is settled already, or
of a scenario or a skill that is not planned for. -/
def WrittenRow.IsSpare (days scenarios skills : List Value)
    (settled : String → Value → String → Prop) (w : WrittenRow) : Prop :=
  (workers? w.value).isSome = true
    ∧ ∀ s k d, (w.scenario = none ∨ w.scenario = some (some s)) → w.skill = some k →
      matchMember? days w.day = some d → .str s ∈ scenarios → .str k ∈ skills → settled s d k

theorem WrittenRow.IsSpare.mono {days scenarios skills : List Value}
    {settled settled' : String → Value → String → Prop} {w : WrittenRow}
    (h : w.IsSpare days scenarios skills settled)
    (hsettled : ∀ s d k, settled s d k → settled' s d k) :
    w.IsSpare days scenarios skills settled' :=
  ⟨h.1, fun s k d hs hk hd hscenario hskill => hsettled s d k (h.2 s k d hs hk hd hscenario hskill)⟩

theorem isSome_countFor?_iff {es : List DemandEntry} {s k : String} {d : Value} :
    (countFor? es s d k).isSome = true ↔ es.any (DemandEntry.isFor (some s) d (some k)) = true := by
  unfold countFor?
  rw [Option.isSome_map, List.find?_isSome, List.any_eq_true]

/-- Entries that no slot asks for are not found. -/
theorem countFor?_append_idle {scenarios skills : List Value} {es extra : List DemandEntry}
    (hextra : ∀ e ∈ extra, e.IsIdle scenarios skills) {s k : String} (hs : .str s ∈ scenarios)
    (hk : .str k ∈ skills) (d : Value) : countFor? (es ++ extra) s d k = countFor? es s d k := by
  have hnone : extra.find? (DemandEntry.isFor (some s) d (some k)) = none := by
    rw [List.find?_eq_none]
    intro e he hfor
    simp only [DemandEntry.isFor, Bool.and_eq_true, beq_iff_eq] at hfor
    exact hextra e he s k hfor.1.1 hfor.2 hs hk
  unfold countFor?
  rw [List.find?_append, hnone, Option.or_none]

/-- Adding an entry for each of several scenarios adds entries for scenarios that had none. Induction
on the scenarios, for any entries. -/
theorem addAll_eq_append (day : Value) (skill : Option String) (count : Nat)
    (scenarios : List (Option String)) : ∀ es : List DemandEntry, ∃ extra,
      scenarios.foldl (fun es s => DemandEntry.add ⟨s, day, skill, count⟩ es) es = es ++ extra
        ∧ ∀ e ∈ extra, e.scenario ∈ scenarios ∧ e.skill = skill
          ∧ es.any (DemandEntry.isFor e.scenario day skill) = false := by
  induction scenarios with
  | nil => exact fun es => ⟨[], (List.append_nil es).symm, by simp⟩
  | cons s scenarios ih =>
      intro es
      rw [List.foldl_cons]
      -- the scenario has an entry already, or gets one that the other scenarios find
      by_cases hold : es.any (DemandEntry.isFor s day skill) = true
      · have hadd : DemandEntry.add ⟨s, day, skill, count⟩ es = es := if_pos hold
        obtain ⟨extra, hrun, hextra⟩ := ih es
        rw [hadd]
        refine ⟨extra, hrun, fun e he => ?_⟩
        obtain ⟨hscenario, hrest⟩ := hextra e he
        exact ⟨List.mem_cons_of_mem s hscenario, hrest⟩
      · have hadd : DemandEntry.add ⟨s, day, skill, count⟩ es = es ++ [⟨s, day, skill, count⟩] :=
          if_neg hold
        obtain ⟨extra, hrun, hextra⟩ := ih (es ++ [⟨s, day, skill, count⟩])
        rw [hadd, hrun, List.append_assoc]
        refine ⟨_, rfl, fun e he => ?_⟩
        cases List.mem_cons.mp he with
        | inl hfirst =>
            rw [hfirst]
            exact ⟨List.mem_cons_self, rfl, Bool.eq_false_iff.mpr hold⟩
        | inr hlater =>
            obtain ⟨hscenario, hskill, hnone⟩ := hextra e hlater
            rw [List.any_append, Bool.or_eq_false_iff] at hnone
            exact ⟨List.mem_cons_of_mem s hscenario, hskill, hnone.1⟩

section

variable {days : List Value} (hdays : ∀ d ∈ days, d.IsMember) {scenarios skills : List Value}
  {es : List DemandEntry}
include hdays

/-- A row that brings nothing new adds entries that no slot asks for. The row may be for a scenario
or a skill that is not planned, or its number comes too late. -/
theorem addRow_spare {w : WrittenRow} {r : DemandRow} {extra : List DemandEntry}
    (hread : w.IsReadAs days (scenarios.map Value.shown) r)
    (hspare : w.IsMatched days →
      w.IsSpare days scenarios skills fun s d k => (countFor? es s d k).isSome = true)
    (hextra : ∀ e ∈ extra, e.IsIdle scenarios skills) :
    ∃ extra', addRow (es ++ extra) r = .ok (es ++ extra')
      ∧ ∀ e ∈ extra', e.IsIdle scenarios skills := by
  cases hday : r.day with
  | none =>
      refine ⟨extra, ?_, hextra⟩
      unfold addRow
      rw [hday]
      rfl
  | some d =>
      have hmeant := hread.day.symm.trans hday
      obtain ⟨hd, hlabel⟩ := matchMember?_eq_some hmeant
      obtain ⟨hvalue, hsettled⟩ := hspare ⟨d, hd, hlabel⟩
      obtain ⟨count, hcount⟩ := Option.isSome_iff_exists.mp hvalue
      obtain ⟨new, hnew, hall⟩ := addAll_eq_append d r.skill count r.scenarios (es ++ extra)
      rw [addRow_eq (hdays d hd) hday]
      refine ⟨extra ++ new, ?_, List.forall_mem_append.mpr ⟨hextra, fun e he => ?_⟩⟩
      · refine bind_eq_ok.mpr ⟨count, requiredCount_eq_ok_iff.mpr (hread.value ▸ hcount), ?_⟩
        rw [hnew, List.append_assoc]
        rfl
      · -- an entry for a slot would have been there already
        intro s k hs hk hscenario hskill
        obtain ⟨hmem, hskills, hnone⟩ := hall e he
        have hnamed : w.scenario = none ∨ w.scenario = some (some s) := by
          rw [hread.scenarios, hs] at hmem
          cases hw : w.scenario with
          | none => exact Or.inl rfl
          | some text =>
              rw [hw] at hmem
              exact Or.inr (by rw [List.mem_singleton.mp hmem])
        have hthere := isSome_countFor?_iff.mp (hsettled s k d hnamed
          (hread.skill.symm.trans (hskills.symm.trans hk)) hmeant hscenario hskill)
        rw [hs, ← hskills, hk, List.any_append, hthere] at hnone
        cases hnone

/-- So do any number of such rows. Induction on the rows, for any such entries. -/
theorem addRows_spare {ws : List WrittenRow} {rows : List DemandRow}
    (hread : List.Forall₂ (WrittenRow.IsReadAs days (scenarios.map Value.shown)) ws rows)
    (hspare : ∀ w ∈ ws, w.IsMatched days →
      w.IsSpare days scenarios skills fun s d k => (countFor? es s d k).isSome = true) :
    ∀ {extra : List DemandEntry}, (∀ e ∈ extra, e.IsIdle scenarios skills) → ∃ extra',
      rows.foldlM addRow (es ++ extra) = .ok (es ++ extra')
        ∧ ∀ e ∈ extra', e.IsIdle scenarios skills := by
  induction hread with
  | nil => exact fun hextra => ⟨_, rfl, hextra⟩
  | cons hfirst _ ih =>
      intro extra hextra
      obtain ⟨hspareFirst, hspareRest⟩ := List.forall_mem_cons.mp hspare
      obtain ⟨mid, hmid, hidle⟩ := addRow_spare hdays hfirst hspareFirst hextra
      obtain ⟨extra', hrun, hidle'⟩ := ih hspareRest hidle
      exact ⟨extra', by rw [List.foldlM_cons]; exact bind_eq_ok.mpr ⟨_, hmid, hrun⟩, hidle'⟩

/-- A table with rows for other days at any places, and with spare rows behind, has the same numbers
for all slots. -/
theorem demandOf_pads {t t' : Table} (ht : IsDemandTable t) (ht' : IsDemandTable t')
    (hlegible : IsLegible t') {mid behind : List WrittenRow}
    (hpads : Pads (fun w => ¬ w.IsMatched days) (writtenRows t) mid)
    (hrows : writtenRows t' = mid ++ behind)
    (hes : demandOf t days (scenarios.map Value.shown) = .ok es)
    (hspare : ∀ w ∈ behind, w.IsMatched days →
      w.IsSpare days scenarios skills fun s d k => (countFor? es s d k).isSome = true) :
    ∃ es', demandOf t' days (scenarios.map Value.shown) = .ok es'
      ∧ ∀ s d k, .str s ∈ scenarios → .str k ∈ skills → countFor? es' s d k = countFor? es s d k := by
  have hforall := forall₂_rowsOf ht days (scenarios.map Value.shown)
  have hforall' := forall₂_rowsOf ht' days (scenarios.map Value.shown)
  rw [hrows] at hforall'
  have hmids := List.forall₂_take mid.length hforall'
  have hbehinds := List.forall₂_drop mid.length hforall'
  rw [List.take_left] at hmids
  rw [List.drop_left] at hbehinds
  obtain ⟨rows, hread, hes⟩ := bind_eq_ok.mp hes
  obtain ⟨-, rfl⟩ := (demandRows_eq_ok ht).mp hread
  have hnone : ∀ e ∈ ([] : List DemandEntry), e.IsIdle scenarios skills :=
    fun e he => absurd he List.not_mem_nil
  obtain ⟨extra, hrun, hidle⟩ := addRows_spare hdays hbehinds hspare hnone
  rw [List.append_nil] at hrun
  refine ⟨es ++ extra, ?_, fun s d k hs hk => countFor?_append_idle hidle hs hk d⟩
  -- the old rows come first, with those for other days among them, and the spare ones behind
  refine bind_eq_ok.mpr ⟨_, (demandRows_eq_ok ht').mpr ⟨hlegible, rfl⟩, ?_⟩
  rw [← List.take_append_drop mid.length (rowsOf t' days (scenarios.map Value.shown)),
    List.foldlM_append]
  exact bind_eq_ok.mpr ⟨es, addRows_pads hpads hforall hmids hes, hrun⟩

end

/-! ## Rows that are put into a table -/

/-- The text that a cell has by itself; a gap has none. -/
def ownText (v : Value) : Option String := if isGap v then none else some (cellText v)

/-- What a row says, if each of its cells has its own text. -/
def ownRow (columns : List Value) (row : List Value) : WrittenRow :=
  let cellOf := fun name =>
    Table.cellAt ((Table.positions ⟨columns, []⟩ (.str name)).headD 0) row
  ⟨if Table.hasColumn ⟨columns, []⟩ (.str "scenario") then some (ownText (cellOf "scenario"))
    else none, cellOf "day", ownText (cellOf "skill"), cellOf "value"⟩

/-- Not all cells under the name are moments, if there are any. -/
def IsMixed (t : Table) (name : String) : Prop :=
  (cellsOf t name).all Value.isMomentCell = true → cellsOf t name = []

/-- In a column that holds anything but moments each cell has its own text. -/
theorem cellTexts_of_isMixed {t : Table} {name : String} (h : IsMixed t name) :
    cellTexts (cellsOf t name) = (cellsOf t name).map ownText := by
  cases hall : (cellsOf t name).all Value.isMomentCell with
  | true =>
      rw [h hall]
      rfl
  | false =>
      unfold cellTexts
      rw [hall]
      rfl

theorem cellsOf_eq_map {columns : List Value} {rows : List (List Value)} {name : String}
    (h : ∃ i, Table.positions ⟨columns, rows⟩ (.str name) = [i]) : cellsOf ⟨columns, rows⟩ name
      = rows.map (Table.cellAt ((Table.positions ⟨columns, []⟩ (.str name)).headD 0)) := by
  obtain ⟨i, hi⟩ := h
  have hi' : Table.positions ⟨columns, []⟩ (.str name) = [i] := hi
  unfold cellsOf Table.column?
  rw [hi, hi']
  rfl

/-- Then each row says what it says by itself. -/
theorem writtenRows_eq_map {columns : List Value} {rows : List (List Value)}
    (ht : IsDemandTable ⟨columns, rows⟩) (hskill : IsMixed ⟨columns, rows⟩ "skill")
    (hscenario : Table.hasColumn ⟨columns, rows⟩ (.str "scenario") = true →
      IsMixed ⟨columns, rows⟩ "scenario") :
    writtenRows ⟨columns, rows⟩ = rows.map (ownRow columns) := by
  unfold writtenRows
  rw [cellTexts_of_isMixed hskill, cellsOf_eq_map ht.day, cellsOf_eq_map ht.skill,
    cellsOf_eq_map ht.value]
  -- there is a column for scenarios, which is mixed as well, or there is none
  have hscenarios : scenarioCells ⟨columns, rows⟩ = rows.map fun row =>
      (ownRow columns row).scenario := by
    unfold scenarioCells
    split
    · next hcolumn =>
        have hcolumn' : Table.hasColumn ⟨columns, []⟩ (.str "scenario") = true := hcolumn
        have hsingle := ht.scenario.resolve_left (hasColumn_iff.mp hcolumn)
        rw [cellTexts_of_isMixed (hscenario hcolumn), cellsOf_eq_map hsingle, List.map_map,
          List.map_map]
        refine List.map_congr_left fun row _ => ?_
        simp only [ownRow, hcolumn', if_true, Function.comp_apply]
    · next hcolumn =>
        have hcolumn' : ¬ Table.hasColumn ⟨columns, []⟩ (.str "scenario") = true := hcolumn
        refine List.map_congr_left fun row _ => ?_
        simp only [ownRow, hcolumn']
        rfl
  rw [hscenarios, List.map_map, List.zip_map', List.zip_map', List.zip_map', List.map_map]
  rfl

/-! ## Granted skills -/

/-- A table with rows of which each grants nothing, or a pair of a kind, grants the same pairs of any
other kind. -/
theorem grantedSkills_pads {columns : List Value} {rows rows' : List (List Value)}
    {P : String × String → Prop}
    (hpads : Pads (fun row => ∃ found, granted? ⟨columns, rows⟩ row = .ok found
      ∧ ∀ pair, found = some pair → P pair) rows rows')
    {granted : List (String × String)} (h : grantedSkills ⟨columns, rows⟩ = .ok granted) :
    ∃ granted', grantedSkills ⟨columns, rows'⟩ = .ok granted'
      ∧ ∀ pair, (pair ∈ granted' → pair ∈ granted ∨ P pair) ∧ (pair ∈ granted → pair ∈ granted') := by
  -- whatever a row grants depends on the columns and the row alone
  have hrow : ∀ row, granted? ⟨columns, rows'⟩ row = granted? ⟨columns, rows⟩ row := fun _ => rfl
  have hold : ∀ row ∈ rows, ∃ found, granted? ⟨columns, rows⟩ row = .ok found := by
    unfold grantedSkills at h
    obtain ⟨pairs, hpairs, -⟩ := bind_eq_ok.mp h
    exact mapM_succeeds_iff.mp ⟨pairs, hpairs⟩
  have hall : ∀ row ∈ rows', ∃ found, granted? ⟨columns, rows'⟩ row = .ok found := by
    intro row hmem
    rw [hrow]
    rcases hpads.mem_or hmem with hmem | ⟨found, hfound, -⟩
    · exact hold row hmem
    · exact ⟨found, hfound⟩
  obtain ⟨pairs, hpairs⟩ := mapM_succeeds_iff.mpr hall
  have hgranted : grantedSkills ⟨columns, rows'⟩ = .ok (pairs.filterMap id).eraseDups :=
    bind_eq_ok.mpr ⟨pairs, hpairs, rfl⟩
  refine ⟨_, hgranted, fun pair => ?_⟩
  rw [mem_grantedSkills hgranted, mem_grantedSkills h]
  constructor
  · rintro ⟨row, hmem, hpair⟩
    rw [hrow] at hpair
    rcases hpads.mem_or hmem with hmem | ⟨found, hfound, hkind⟩
    · exact Or.inl ⟨row, hmem, hpair⟩
    · rw [hpair] at hfound
      exact Or.inr (hkind pair (Except.ok.inj hfound).symm)
  · rintro ⟨row, hmem, hpair⟩
    exact ⟨row, hpads.subset hmem, hpair⟩

/-! ## Cost -/

/-- The cost of hiring depends on the costs of the candidates alone. -/
theorem costTerms_congr {hire : Family} {candidates : List Value} {cost cost' : Value}
    (h : ∀ c ∈ candidates, costOf cost' c = costOf cost c) (change : Value → Except Fault Value) :
    costTerms hire candidates cost' change = costTerms hire candidates cost change := by
  unfold costTerms
  refine congrArg (· >>= _) ?_
  induction candidates with
  | nil => rfl
  | cons c candidates ih =>
      obtain ⟨hfirst, hrest⟩ := List.forall_mem_cons.mp h
      rw [List.mapM_cons, List.mapM_cons, hfirst, ih hrest]

/-- Costs of anybody else make no difference. -/
theorem costOf_pads {candidates : List Value} {es es' : Entries}
    (h : Pads (fun e => ∀ c ∈ candidates, c.same e.1 = false) es es') :
    ∀ c ∈ candidates, costOf (.map es') c = costOf (.map es) c := by
  intro c hc
  have hfind : Entries.find? es' c = Entries.find? es c :=
    congrArg (Option.map Prod.snd) (h.find?_eq fun e he => he c hc)
  exact congrArg pure hfind

end Staffing

end Rostering
