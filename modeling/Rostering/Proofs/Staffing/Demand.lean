import Rostering.Proofs.Except
import Rostering.Proofs.Model.Key
import Rostering.Proofs.Value.Text
import Rostering.Staffing.Demand

/-!
# The first row counts

A table of demand is read row by row: a row whose day is the label of a member asks for a number of
workers, and the number is kept unless there is one for the same scenario, day and skill already. This
module says what the result is in terms of the rows as they are written, for any order of the rows and
any spelling of the days in them.

## The architecture

* **`workers?`** — the number of workers that a cell asks for (`requiredCount_eq_ok_iff`).
* **`WrittenRow`**, **`writtenRows`** — what the cells of the rows say, with texts for names; a row
  knows nothing of members and scenarios. `forall₂_rowsOf` ties the rows that are read to them.
* **`countFor?_addRow`**, **`countFor?_addRows`** — the step and the run: a row settles what it names
  unless this is settled, and so all rows together settle everything by the first one that names it.
* **`repeated`** — a table without scenarios, with each row repeated for every scenario
  (`writtenRows_repeated`).
* **`demandOf_first_row`** — when a table is rejected, and what is found in it otherwise.
-/

namespace Rostering.Staffing

/-! ## Numbers of workers -/

/-- The number of workers that a cell asks for. What it is asked for is only of use in messages. -/
def workers? (v : Value) : Option Nat := (requiredCount v "" .null "").toOption

/-- A number is read from a cell exactly if the cell asks for that many workers. -/
theorem requiredCount_eq_ok_iff {v day : Value} {shown skill : String} {n : Nat} :
    requiredCount v shown day skill = .ok n ↔ workers? v = some n := by
  have hsame : (requiredCount v shown day skill).toOption = workers? v := by
    unfold workers? requiredCount
    -- no number, one that is not finite, and one that is rounded up and must not be negative
    rcases numberOf? v with e | _ | x
    · rfl
    · rfl
    · dsimp only [bind, Except.bind]
      cases (FloatParts.of x).ceil? with
      | none => rfl
      | some n =>
          dsimp only
          split <;> rfl
  rw [← hsame]
  cases requiredCount v shown day skill <;> simp [Except.toOption]

/-! ## Entries -/

section

variable {scenario skill : String} {d : Value}

/-- An entry is found behind others unless one of them is about the same. -/
theorem countFor?_add {e : DemandEntry} {es : List DemandEntry} (hes : ∀ e ∈ es, e.day.IsMember) :
    countFor? (e.add es) scenario d skill = (countFor? es scenario d skill).or
      (if e.isFor (some scenario) d (some skill) then some e.count else none) := by
  have hsingle : ∀ e : DemandEntry, countFor? [e] scenario d skill
      = if e.isFor (some scenario) d (some skill) then some e.count else none := by
    intro e
    unfold countFor?
    rw [List.find?_singleton]
    split <;> rfl
  by_cases hold : es.any (DemandEntry.isFor e.scenario e.day e.skill) = true
  · rw [DemandEntry.add, if_pos hold]
    split
    · next hfor =>
        -- the entry that is there already is about the same as well
        obtain ⟨old, hmem, hsame⟩ := List.any_eq_true.mp hold
        simp only [DemandEntry.isFor, Bool.and_eq_true, beq_iff_eq] at hfor hsame
        have hfound : (countFor? es scenario d skill).isSome = true := by
          unfold countFor?
          rw [Option.isSome_map, List.find?_isSome]
          refine ⟨old, hmem, ?_⟩
          simp only [DemandEntry.isFor, Bool.and_eq_true, beq_iff_eq]
          exact ⟨⟨hsame.1.1.trans hfor.1.1, (hes old hmem).same_trans hsame.1.2 hfor.1.2⟩,
            hsame.2.trans hfor.2⟩
        exact (Option.or_of_isSome hfound).symm
    · exact (Option.or_none).symm
  · rw [DemandEntry.add, if_neg hold, ← hsingle]
    unfold countFor?
    rw [List.find?_append, Option.map_or]

theorem isMember_of_mem_add {e : DemandEntry} {es : List DemandEntry} (he : e.day.IsMember)
    (hes : ∀ e ∈ es, e.day.IsMember) : ∀ e' ∈ e.add es, e'.day.IsMember := by
  unfold DemandEntry.add
  split
  · exact hes
  · exact List.forall_mem_append.mpr ⟨hes, fun e' h => List.mem_singleton.mp h ▸ he⟩

/-- The entries of one row, for all its scenarios. Induction on the scenarios. -/
theorem countFor?_addAll {day : Value} {named : Option String} {count : Nat} (hday : day.IsMember)
    (scenarios : List (Option String)) : ∀ {es : List DemandEntry}, (∀ e ∈ es, e.day.IsMember) →
      let es' := scenarios.foldl (fun es s => DemandEntry.add ⟨s, day, named, count⟩ es) es
      (∀ e ∈ es', e.day.IsMember) ∧ countFor? es' scenario d skill
        = (countFor? es scenario d skill).or
          (if some scenario ∈ scenarios ∧ day.same d = true ∧ named = some skill then some count
            else none) := by
  induction scenarios with
  | nil => exact fun hes => ⟨hes, by simp⟩
  | cons s scenarios ih =>
      intro es hes
      obtain ⟨hall, hcount⟩ := ih (isMember_of_mem_add (e := ⟨s, day, named, count⟩) hday hes)
      refine ⟨hall, hcount.trans ?_⟩
      rw [countFor?_add hes, Option.or_assoc]
      congr 1
      -- the first scenario settles what it names, and the others find it settled
      simp only [DemandEntry.isFor, Bool.and_eq_true, beq_iff_eq, List.mem_cons]
      grind

end

/-! ## Rows as they are written -/

/-- What the cells of a row say. A row of a table without scenarios has no scenario at all; a gap has
no text. -/
structure WrittenRow where
  scenario : Option (Option String)
  day : Value
  skill : Option String
  value : Value

namespace WrittenRow

/-- The row is about a scenario, a day of this label, and a skill. -/
def names (scenario label skill : String) (w : WrittenRow) : Bool :=
  (w.scenario == none || w.scenario == some (some scenario)) && w.day.label == label
    && w.skill == some skill

/-- The day of the row is the label of a member. -/
def IsMatched (days : List Value) (w : WrittenRow) : Prop := ∃ d ∈ days, d.label = w.day.label

/-- A row that was read is the written one, with a member for its day and all scenarios that it is
for. -/
structure IsReadAs (days : List Value) (scenarios : List String) (w : WrittenRow) (r : DemandRow) :
    Prop where
  scenarios : r.scenarios = match w.scenario with
    | none => scenarios.map some
    | some text => [text]
  day : r.day = matchMember? days w.day
  skill : r.skill = w.skill
  value : r.value = w.value

end WrittenRow

/-- The cells under a name. -/
def cellsOf (t : Table) (name : String) : List Value := (t.column? (.str name)).getD []

/-- The scenarios of the rows. -/
def scenarioCells (t : Table) : List (Option (Option String)) :=
  if t.hasColumn (.str "scenario") then (cellTexts (cellsOf t "scenario")).map some
  else t.rows.map fun _ => none

/-- The rows of a table, as their cells say. -/
def writtenRows (t : Table) : List WrittenRow :=
  ((scenarioCells t).zip ((cellsOf t "day").zip ((cellTexts (cellsOf t "skill")).zip
    (cellsOf t "value")))).map fun (scenario, day, skill, value) => ⟨scenario, day, skill, value⟩

/-- A table with a day, a skill and a value in each row, and with a scenario or without. -/
structure IsDemandTable (t : Table) : Prop where
  day : ∃ i, t.positions (.str "day") = [i]
  skill : ∃ i, t.positions (.str "skill") = [i]
  value : ∃ i, t.positions (.str "value") = [i]
  scenario : t.positions (.str "scenario") = [] ∨ ∃ i, t.positions (.str "scenario") = [i]
  rows : ∀ row ∈ t.rows, row.length = t.columns.length

/-- Every day, skill and scenario in the table has a text. These columns are turned into texts as a
whole, before any row is looked at. -/
structure IsLegible (t : Table) : Prop where
  day : ∀ v ∈ cellsOf t "day", v.hasText = true
  skill : ∀ v ∈ cellsOf t "skill", v.hasText = true
  scenario : ∀ v ∈ cellsOf t "scenario", v.hasText = true

section

variable {t : Table} {name : String}

theorem column?_eq_some (h : ∃ i, t.positions (.str name) = [i]) :
    t.column? (.str name) = some (cellsOf t name) ∧ (cellsOf t name).length = t.rows.length := by
  obtain ⟨i, hi⟩ := h
  have hcolumn : t.column? (.str name) = some (Table.columnAt i t.rows) := by
    unfold Table.column?
    rw [hi]
  unfold cellsOf
  rw [hcolumn]
  exact ⟨rfl, List.length_map _⟩

/-- A table has a column if its name stands somewhere. -/
theorem hasColumn_iff : t.hasColumn (.str name) = true ↔ t.positions (.str name) ≠ [] := by
  unfold Table.hasColumn Table.positions
  rw [List.any_eq_true, ne_eq, List.filter_eq_nil_iff]
  push Not
  simp only [List.mem_range]
  constructor
  · rintro ⟨c, hc, hname⟩
    obtain ⟨i, hi, rfl⟩ := List.mem_iff_getElem.mp hc
    refine ⟨i, hi, ?_⟩
    rw [Table.cellAt, List.getElem?_eq_getElem hi]
    exact hname
  · rintro ⟨i, hi, hname⟩
    rw [Table.cellAt, List.getElem?_eq_getElem hi] at hname
    exact ⟨_, List.getElem_mem hi, hname⟩

theorem column_of_column? {cells : List Value} (h : t.column? (.str name) = some cells) :
    column t name = .ok cells := by
  unfold column
  rw [h]
  rfl

/-- A column that is there is taken as texts exactly if each of its cells has one. -/
theorem textColumn_eq_ok {cells : List Value} (h : t.column? (.str name) = some (cellsOf t name)) :
    textColumn t name = .ok cells ↔
      (∀ v ∈ cellsOf t name, v.hasText = true) ∧ cells = cellsOf t name := by
  unfold textColumn
  rw [column_of_column? h]
  simp only [bind_eq_ok, Except.ok.injEq, Value.checkTexts_eq_ok, pure_eq_ok, exists_const]
  constructor
  · rintro ⟨_, rfl, htexts, rfl⟩
    exact ⟨htexts, rfl⟩
  · rintro ⟨htexts, rfl⟩
    exact ⟨_, rfl, htexts, rfl⟩

theorem length_cellTexts (cells : List Value) : (cellTexts cells).length = cells.length := by
  unfold cellTexts
  dsimp only
  split <;> simp [momentTexts]

theorem length_scenarioCells (ht : IsDemandTable t) :
    (scenarioCells t).length = t.rows.length := by
  unfold scenarioCells
  split
  · next hcolumn =>
      have hsingle := ht.scenario.resolve_left (hasColumn_iff.mp hcolumn)
      rw [List.length_map, length_cellTexts, (column?_eq_some hsingle).2]
  · exact List.length_map _

/-- Without a column for them, no row has a scenario. -/
theorem scenario_of_mem_writtenRows (hcolumn : t.hasColumn (.str "scenario") = false) :
    ∀ w ∈ writtenRows t, w.scenario = none := by
  intro w hw
  obtain ⟨⟨scenario, rest⟩, hmem, rfl⟩ := List.mem_map.mp hw
  have hscenario := (List.of_mem_zip hmem).1
  unfold scenarioCells at hscenario
  rw [hcolumn, if_neg Bool.false_ne_true] at hscenario
  obtain ⟨-, -, hscenario⟩ := List.mem_map.mp hscenario
  exact hscenario.symm

/-- A row of the cells that stand beside each other. -/
def DemandRow.ofCells (cells : List (Option String) × Option Value × Option String × Value × String) :
    DemandRow :=
  ⟨cells.1, cells.2.1, cells.2.2.1, cells.2.2.2.1, cells.2.2.2.2⟩

/-- Without a column for scenarios there is nothing to read in it. -/
theorem cellsOf_scenario_eq_nil (hcolumn : t.hasColumn (.str "scenario") = false) :
    cellsOf t "scenario" = [] := by
  have hnone : t.positions (.str "scenario") = [] := by
    by_contra hsome
    rw [hasColumn_iff.mpr hsome] at hcolumn
    cases hcolumn
  unfold cellsOf Table.column?
  rw [hnone]
  rfl

/-- For whom each row counts, given the texts for scenarios. -/
def targetsOf (t : Table) (scenarios : List String) : List (List (Option String)) :=
  (scenarioCells t).map fun
    | none => scenarios.map some
    | some text => [text]

/-- The rows made of the cells of the columns. -/
def rowsOf (t : Table) (days : List Value) (scenarios : List String) : List DemandRow :=
  ((targetsOf t scenarios).zip ((matchMembers (cellsOf t "day") days).zip
    ((cellTexts (cellsOf t "skill")).zip
      ((cellsOf t "value").zip (Value.quotedCells (cellsOf t "value")))))).map DemandRow.ofCells

/-- The rows of a table are read exactly if it is legible, and are those of its columns. Legible
means that all cells that are made texts have texts, whether their rows count or not. -/
theorem demandRows_eq_ok (ht : IsDemandTable t) {days : List Value} {scenarios : List String}
    {rows : List DemandRow} : demandRows t days scenarios = .ok rows ↔
      IsLegible t ∧ rows = rowsOf t days scenarios := by
  have hday := (column?_eq_some ht.day).1
  have hskill := (column?_eq_some ht.skill).1
  have hvalue := (column?_eq_some ht.value).1
  have hlegible : IsLegible t ↔ (∀ v ∈ cellsOf t "day", v.hasText = true)
      ∧ (∀ v ∈ cellsOf t "scenario", v.hasText = true)
      ∧ ∀ v ∈ cellsOf t "skill", v.hasText = true :=
    ⟨fun h => ⟨h.day, h.scenario, h.skill⟩, fun ⟨hd, hs, hk⟩ => ⟨hd, hk, hs⟩⟩
  unfold demandRows rowsOf
  rw [hlegible]
  -- the columns are read in the order day, scenario, skill, value
  cases hcolumn : t.hasColumn (.str "scenario") with
  | true =>
      have hscenario := (column?_eq_some (ht.scenario.resolve_left (hasColumn_iff.mp hcolumn))).1
      have htargets : targetsOf t scenarios
          = (cellTexts (cellsOf t "scenario")).map fun s => [s] := by
        unfold targetsOf scenarioCells
        rw [if_pos hcolumn, List.map_map]
        rfl
      simp only [if_true, bind_eq_ok, map_eq_ok, textColumn_eq_ok hday, textColumn_eq_ok hskill,
        textColumn_eq_ok hscenario, column_of_column? hvalue, Except.ok.injEq, pure_eq_ok, htargets]
      constructor
      · rintro ⟨_, ⟨hd, rfl⟩, _, ⟨_, ⟨hs, rfl⟩, rfl⟩, _, ⟨hk, rfl⟩, _, rfl, rfl⟩
        exact ⟨⟨hd, hs, hk⟩, rfl⟩
      · rintro ⟨⟨hd, hs, hk⟩, rfl⟩
        exact ⟨_, ⟨hd, rfl⟩, _, ⟨_, ⟨hs, rfl⟩, rfl⟩, _, ⟨hk, rfl⟩, _, rfl, rfl⟩
  | false =>
      have htargets : targetsOf t scenarios = t.rows.map fun _ => scenarios.map some := by
        unfold targetsOf scenarioCells
        rw [hcolumn, if_neg Bool.false_ne_true, List.map_map]
        rfl
      simp only [Bool.false_eq_true, if_false, bind_eq_ok, textColumn_eq_ok hday,
        textColumn_eq_ok hskill, column_of_column? hvalue, Except.ok.injEq, pure_eq_ok, htargets,
        cellsOf_scenario_eq_nil hcolumn, List.not_mem_nil, false_implies, implies_true, true_and]
      constructor
      · rintro ⟨_, ⟨hd, rfl⟩, _, rfl, _, ⟨hk, rfl⟩, _, rfl, rfl⟩
        exact ⟨⟨hd, hk⟩, rfl⟩
      · rintro ⟨⟨hd, hk⟩, rfl⟩
        exact ⟨_, ⟨hd, rfl⟩, _, rfl, _, ⟨hk, rfl⟩, _, rfl, rfl⟩

/-- The rows of the columns are the written ones, with members for their days. -/
theorem forall₂_rowsOf (ht : IsDemandTable t) (days : List Value) (scenarios : List String) :
    List.Forall₂ (WrittenRow.IsReadAs days scenarios) (writtenRows t)
      (rowsOf t days scenarios) := by
  have hdays := (column?_eq_some ht.day).2
  have hskills := (column?_eq_some ht.skill).2
  have hvalues := (column?_eq_some ht.value).2
  have hscenarios := length_scenarioCells ht
  have hquoted : (Value.quotedCells (cellsOf t "value")).length = t.rows.length := by
    unfold Value.quotedCells
    rw [List.length_map, hvalues]
  -- all columns are of one length, so the rows can be compared by their numbers
  rw [List.forall₂_iff_get]
  refine ⟨?_, fun i hi hi' => ?_⟩
  · simp [writtenRows, rowsOf, targetsOf, matchMembers, length_cellTexts, hdays, hskills, hvalues,
      hscenarios, hquoted]
  · constructor <;> simp [writtenRows, rowsOf, targetsOf, matchMembers, DemandRow.ofCells]

end

/-! ## One row -/

theorem matchMember?_eq_some {days : List Value} {v m : Value} (h : matchMember? days v = some m) :
    m ∈ days ∧ m.label = v.label :=
  ⟨List.mem_reverse.mp (List.mem_of_find?_eq_some h), by simpa using List.find?_some h⟩

theorem matchMember?_eq_none {days : List Value} {v : Value} :
    matchMember? days v = none ↔ ∀ d ∈ days, d.label ≠ v.label := by
  unfold matchMember?
  simp

/-- A row for a member that can be told apart adds its number, for all its scenarios. -/
theorem addRow_eq {es : List DemandEntry} {r : DemandRow} {m : Value} (hm : m.IsMember)
    (hday : r.day = some m) : addRow es r = (do
      let count ← requiredCount r.value r.shown m (r.skill.getD "nan")
      pure (r.scenarios.foldl (fun es s => DemandEntry.add ⟨s, m, r.skill, count⟩ es) es)) := by
  unfold addRow
  rw [hday]
  cases m with
  | str s => rfl
  | day d => rfl
  | _ => exact absurd hm id

/-- Day members are texts and days, and two of them are the same if they have one label. -/
structure AreLabelled (days : List Value) : Prop where
  members : ∀ d ∈ days, d.IsMember
  same_iff : ∀ d ∈ days, ∀ e ∈ days, d.same e = true ↔ d.label = e.label

section

variable {days : List Value} {scenarios : List String} (hdays : AreLabelled days) {w : WrittenRow}
  {r : DemandRow} (hread : w.IsReadAs days scenarios r) {es es' : List DemandEntry}
include hdays hread

/-- A row is rejected if its day is the label of a member, and its value is no number of workers. A
row for no member is passed over, so its value may be anything. -/
theorem addRow_succeeds_iff :
    (∃ es', addRow es r = .ok es') ↔ (w.IsMatched days → (workers? w.value).isSome = true) := by
  -- a row for no member is skipped before its value is looked at
  cases hday : r.day with
  | none =>
      have hnone := matchMember?_eq_none.mp (hread.day.symm.trans hday)
      refine ⟨fun _ ⟨d, hd, hlabel⟩ => absurd hlabel (hnone d hd), fun _ => ⟨es, ?_⟩⟩
      unfold addRow
      rw [hday]
      rfl
  | some m =>
      obtain ⟨hm, hlabel⟩ := matchMember?_eq_some (hread.day.symm.trans hday)
      have hmatched : w.IsMatched days := ⟨m, hm, hlabel⟩
      rw [addRow_eq (hdays.members m hm) hday]
      simp only [bind_eq_ok, pure_eq_ok, requiredCount_eq_ok_iff, hread.value,
        Option.isSome_iff_exists]
      constructor
      · rintro ⟨-, n, hn, -⟩ -
        exact ⟨n, hn⟩
      · intro h
        obtain ⟨n, hn⟩ := h hmatched
        exact ⟨_, n, hn, rfl⟩

/-- A row settles what it names, unless this is settled already. It is the step of the run over all
rows, and it needs that labels tell members apart. -/
theorem countFor?_addRow (hes : ∀ e ∈ es, e.day.IsMember) (h : addRow es r = .ok es') :
    (∀ e ∈ es', e.day.IsMember) ∧ ∀ scenario ∈ scenarios, ∀ d ∈ days, ∀ skill,
      countFor? es' scenario d skill = (countFor? es scenario d skill).or
        (if w.names scenario d.label skill then workers? w.value else none) := by
  cases hday : r.day with
  | none =>
      have hnone := matchMember?_eq_none.mp (hread.day.symm.trans hday)
      unfold addRow at h
      rw [hday, pure_eq_ok] at h
      rw [← h]
      refine ⟨hes, fun scenario _ d hd skill => ?_⟩
      -- no member has the label, so the row names none of them
      have hother : w.names scenario d.label skill = false := by
        have hne : (w.day.label == d.label) = false := beq_false_of_ne (hnone d hd).symm
        simp [WrittenRow.names, hne]
      rw [hother, if_neg Bool.false_ne_true, Option.or_none]
  | some m =>
      obtain ⟨hm, hlabel⟩ := matchMember?_eq_some (hread.day.symm.trans hday)
      rw [addRow_eq (hdays.members m hm) hday] at h
      obtain ⟨n, hn, h⟩ := bind_eq_ok.mp h
      rw [requiredCount_eq_ok_iff, hread.value] at hn
      rw [pure_eq_ok] at h
      have hall := fun scenario skill d => @countFor?_addAll scenario skill d m r.skill n
        (hdays.members m hm) r.scenarios es hes
      refine ⟨?_, fun scenario hscenario d hd skill => ?_⟩
      · rw [← h]
        exact (hall "" "" m).1
      -- the row is for a member exactly if it names its label, because labels tell members apart
      · have hnames : w.names scenario d.label skill = true ↔ some scenario ∈ r.scenarios
            ∧ m.same d = true ∧ r.skill = some skill := by
          rw [hdays.same_iff m hm d hd, hlabel, hread.scenarios, hread.skill]
          unfold WrittenRow.names
          cases w.scenario with
          | none => simp [hscenario]
          | some text => simp [@eq_comm _ text, and_assoc]
        rw [← h, (hall scenario skill d).2, hn]
        congr 1
        exact if_congr hnames.symm rfl rfl

end

/-! ## All rows -/

section

variable {days : List Value} {scenarios : List String} (hdays : AreLabelled days)
  {ws : List WrittenRow} {rows : List DemandRow}
  (hread : List.Forall₂ (WrittenRow.IsReadAs days scenarios) ws rows)
include hdays hread

/-- The rows are rejected as soon as one of them is. Induction on the rows, for any entries. -/
theorem addRows_succeed_iff : ∀ {es : List DemandEntry}, (∀ e ∈ es, e.day.IsMember) →
    ((∃ es', rows.foldlM addRow es = .ok es')
      ↔ ∀ w ∈ ws, w.IsMatched days → (workers? w.value).isSome = true) := by
  induction hread with
  | nil => exact fun _ => ⟨fun _ _ h => absurd h List.not_mem_nil, fun _ => ⟨_, rfl⟩⟩
  | @cons w r ws rows hfirst hrest ih =>
      intro es hes
      have hsucceeds : (∃ mid, addRow es r = .ok mid) ↔ _ := addRow_succeeds_iff hdays hfirst
      rw [List.forall_mem_cons, List.foldlM_cons, ← hsucceeds]
      simp only [bind_eq_ok]
      -- the rest is read from the entries that the first row leaves
      constructor
      · rintro ⟨es', mid, hmid, hrun⟩
        exact ⟨⟨mid, hmid⟩, (ih (countFor?_addRow hdays hfirst hes hmid).1).mp ⟨es', hrun⟩⟩
      · rintro ⟨⟨mid, hmid⟩, hall⟩
        obtain ⟨es', hrun⟩ := (ih (countFor?_addRow hdays hfirst hes hmid).1).mpr hall
        exact ⟨es', mid, hmid, hrun⟩

/-- What is not settled before is settled by the first row that names it. Induction on the rows.
This is the run: `find?` picks out that row. -/
theorem countFor?_addRows : ∀ {es es' : List DemandEntry}, (∀ e ∈ es, e.day.IsMember) →
    rows.foldlM addRow es = .ok es' → ∀ scenario ∈ scenarios, ∀ d ∈ days, ∀ skill,
      countFor? es' scenario d skill = (countFor? es scenario d skill).or
        ((ws.find? (WrittenRow.names scenario d.label skill)).bind fun w => workers? w.value) := by
  induction hread with
  | nil =>
      intro es es' _ h scenario _ d _ skill
      rw [List.foldlM_nil, pure_eq_ok] at h
      rw [h]
      exact Option.or_none.symm
  | @cons w r ws rows hfirst hrest ih =>
      intro es es' hes h scenario hscenario d hd skill
      rw [List.foldlM_cons] at h
      obtain ⟨mid, hmid, h⟩ := bind_eq_ok.mp h
      obtain ⟨hmembers, hcount⟩ := countFor?_addRow hdays hfirst hes hmid
      rw [ih hmembers h scenario hscenario d hd skill, hcount scenario hscenario d hd skill,
        Option.or_assoc, List.find?_cons]
      congr 1
      cases hnames : w.names scenario d.label skill with
      | false => rw [if_neg Bool.false_ne_true, Option.none_or]
      | true =>
          -- the row was accepted, so that it has a number
          have hmatched : w.IsMatched days := by
            simp only [WrittenRow.names, Bool.and_eq_true, beq_iff_eq] at hnames
            exact ⟨d, hd, hnames.1.2.symm⟩
          have hsome := (addRow_succeeds_iff hdays hfirst).mp ⟨mid, hmid⟩ hmatched
          rw [if_pos rfl]
          exact Option.or_of_isSome hsome

end

/-! ## Rows repeated for every scenario -/

/-- Lists of one length whose items are repeated equally often are paired item by item. Induction on
the first list. -/
theorem zip_flatMap_map {α β γ δ σ : Type} (l : List σ) {f : α → σ → γ} {g : β → σ → δ} {as : List α} :
    ∀ {bs : List β}, as.length = bs.length →
      (as.flatMap fun a => l.map (f a)).zip (bs.flatMap fun b => l.map (g b))
        = (as.zip bs).flatMap fun p => l.map fun s => (f p.1 s, g p.2 s) := by
  induction as with
  | nil => exact fun _ => rfl
  | cons a as ih =>
      intro bs hlength
      cases bs with
      | nil => cases hlength
      | cons b bs =>
          rw [List.flatMap_cons, List.flatMap_cons, List.zip_append (by simp),
            ih (Nat.succ.inj hlength), List.zip_cons_cons, List.flatMap_cons, List.zip_map']

/-- The table with each row repeated for every scenario, in a new column for them. -/
def repeated (t : Table) (scenarios : List String) : Table :=
  ⟨t.columns ++ [.str "scenario"],
    t.rows.flatMap fun row => scenarios.map fun s => row ++ [.str s]⟩

/-- Cells are written in a form that depends on which cells there are, not on how often. -/
theorem cellTexts_flatMap {scenarios : List String} (hsome : scenarios ≠ []) (cells : List Value) :
    cellTexts (cells.flatMap fun v => scenarios.map fun _ => v)
      = (cellTexts cells).flatMap fun text => scenarios.map fun _ => text := by
  have hmem : ∀ v, v ∈ (cells.flatMap fun v => scenarios.map fun _ => v) ↔ v ∈ cells := by
    intro v
    simp [hsome]
  -- the form is chosen by tests that all cells have to pass
  have hall : ∀ {α : Type} (f : Value → Option α) (p : α → Bool),
      ((cells.flatMap fun v => scenarios.map fun _ => v).filterMap f).all p
        = (cells.filterMap f).all p := by
    intro α f p
    rw [Bool.eq_iff_iff]
    simp only [List.all_eq_true, List.mem_filterMap, hmem]
  have hplain : (cells.flatMap fun v => scenarios.map fun _ => v).all Value.isMomentCell
      = cells.all Value.isMomentCell := by
    rw [Bool.eq_iff_iff]
    simp only [List.all_eq_true, hmem]
  unfold cellTexts momentTexts
  simp only [hplain, hall]
  split <;> simp only [List.map_flatMap, List.flatMap_map, List.map_map, Function.comp_def]

section

variable {t : Table} (scenarios : List String)

/-- Repeating puts a column for scenarios behind the others. -/
theorem positions_repeated (name : String) : (repeated t scenarios).positions (.str name)
    = t.positions (.str name) ++ if name = "scenario" then [t.columns.length] else [] := by
  -- the old columns keep their places
  have hold : ∀ i ∈ List.range t.columns.length,
      Table.cellAt i (t.columns ++ [.str "scenario"]) = Table.cellAt i t.columns := by
    intro i hi
    unfold Table.cellAt
    rw [List.getElem?_append_left (List.mem_range.mp hi)]
  have hnew : Table.cellAt t.columns.length (t.columns ++ [.str "scenario"])
      = .str "scenario" := by
    unfold Table.cellAt
    rw [List.getElem?_append_right le_rfl, Nat.sub_self]
    rfl
  unfold Table.positions repeated
  rw [List.length_append, List.length_singleton, List.range_succ, List.filter_append]
  congr 1
  · exact List.filter_congr fun i hi => by rw [hold i hi]
  · have hsame : Table.sameName (.str name) (.str "scenario") = (name == "scenario") := by
      simp [Table.sameName, Value.same]
    rw [List.filter_singleton, hnew, hsame]
    by_cases hname : name = "scenario"
    · simp [hname]
    · simp [hname, beq_false_of_ne hname]

variable (ht : IsDemandTable t)
include ht

/-- A column of the repeated table has each cell as often as there are scenarios. -/
theorem cellsOf_repeated {name : String} (hname : name ≠ "scenario")
    (hsingle : ∃ i, t.positions (.str name) = [i]) : cellsOf (repeated t scenarios) name
      = (cellsOf t name).flatMap fun v => scenarios.map fun _ => v := by
  obtain ⟨i, hi⟩ := hsingle
  have hplace : i < t.columns.length := by
    have hmem : i ∈ t.positions (.str name) := hi ▸ List.mem_singleton_self i
    exact List.mem_range.mp (List.mem_filter.mp hmem).1
  have hpositions : (repeated t scenarios).positions (.str name) = [i] := by
    rw [positions_repeated, if_neg hname, List.append_nil, hi]
  unfold cellsOf Table.column?
  rw [hpositions, hi]
  simp only [Option.getD_some, Table.columnAt, repeated, List.map_flatMap, List.map_map,
    List.flatMap_map]
  refine List.flatMap_congr fun row hrow => List.map_congr_left fun s _ => ?_
  show (row ++ [.str s])[i]?.getD .null = row[i]?.getD .null
  rw [List.getElem?_append_left ((ht.rows row hrow).symm ▸ hplace)]

variable (hnone : t.positions (.str "scenario") = [])
include hnone

/-- The repeated table is a table of demand. -/
theorem isDemandTable_repeated : IsDemandTable (repeated t scenarios) where
  day := by
    rw [positions_repeated, if_neg (by decide), List.append_nil]
    exact ht.day
  skill := by
    rw [positions_repeated, if_neg (by decide), List.append_nil]
    exact ht.skill
  value := by
    rw [positions_repeated, if_neg (by decide), List.append_nil]
    exact ht.value
  scenario := by
    rw [positions_repeated, if_pos rfl, hnone]
    exact Or.inr ⟨_, rfl⟩
  rows := by
    intro row hrow
    obtain ⟨old, hold, hrow⟩ := List.mem_flatMap.mp hrow
    obtain ⟨s, -, rfl⟩ := List.mem_map.mp hrow
    simp [repeated, ht.rows old hold]

theorem cellsOf_scenario_repeated : cellsOf (repeated t scenarios) "scenario"
    = t.rows.flatMap fun _ => scenarios.map Value.str := by
  unfold cellsOf Table.column?
  rw [positions_repeated, if_pos rfl, hnone, List.nil_append]
  simp only [Option.getD_some, Table.columnAt, repeated, List.map_flatMap, List.map_map]
  refine List.flatMap_congr fun row hrow => List.map_congr_left fun s _ => ?_
  show (row ++ [.str s])[t.columns.length]?.getD .null = .str s
  rw [← ht.rows row hrow, List.getElem?_append_right le_rfl, Nat.sub_self]
  rfl

/-- The scenarios are read as they are written. -/
theorem scenarioCells_repeated : scenarioCells (repeated t scenarios)
    = t.rows.flatMap fun _ => scenarios.map fun s => some (some s) := by
  have hpositions : (repeated t scenarios).positions (.str "scenario") = [t.columns.length] := by
    rw [positions_repeated, if_pos rfl, hnone]
    rfl
  have hcells := cellsOf_scenario_repeated scenarios ht hnone
  have htexts : ∀ (l : List String), cellTexts (l.map Value.str) = l.map some := by
    intro l
    cases l with
    | nil => rfl
    | cons s l =>
        simp only [cellTexts, List.map_cons, List.all_cons, Value.isMomentCell, Bool.false_and,
          Bool.false_eq_true, if_false, isGap, cellText, Value.shown, List.map_map]
        rfl
  have hflat : (t.rows.flatMap fun _ => scenarios.map Value.str)
      = (t.rows.flatMap fun _ => scenarios).map Value.str := by
    rw [List.map_flatMap]
  unfold scenarioCells
  rw [if_pos (hasColumn_iff.mpr (by simp [hpositions])), hcells, hflat, htexts, List.map_map,
    List.map_flatMap]
  rfl

/-- Repeating the rows adds no cell but texts for scenarios. -/
theorem isLegible_repeated (hsome : scenarios ≠ []) :
    IsLegible (repeated t scenarios) ↔ IsLegible t := by
  have hmem : ∀ cells : List Value,
      (∀ v ∈ cells.flatMap fun v => scenarios.map fun _ => v, v.hasText = true)
        ↔ ∀ v ∈ cells, v.hasText = true := by
    intro cells
    simp [hsome]
  have hdays := hmem (cellsOf t "day")
  rw [← cellsOf_repeated scenarios ht (by decide) ht.day] at hdays
  have hskills := hmem (cellsOf t "skill")
  rw [← cellsOf_repeated scenarios ht (by decide) ht.skill] at hskills
  -- there were no cells for scenarios, and the new ones are texts
  have hold : cellsOf t "scenario" = [] := by
    unfold cellsOf Table.column?
    rw [hnone]
    rfl
  have hnew : ∀ v ∈ cellsOf (repeated t scenarios) "scenario", v.hasText = true := by
    rw [cellsOf_scenario_repeated scenarios ht hnone]
    simp only [List.forall_mem_flatMap, List.forall_mem_map, Value.hasText_str, implies_true]
  constructor
  · intro h
    exact ⟨hdays.mp h.day, hskills.mp h.skill, by simp [hold]⟩
  · intro h
    exact ⟨hdays.mpr h.day, hskills.mpr h.skill, hnew⟩

/-- The rows of the repeated table are the old ones, each with every scenario. -/
theorem writtenRows_repeated (hsome : scenarios ≠ []) : writtenRows (repeated t scenarios)
    = (writtenRows t).flatMap fun w => scenarios.map fun s => { w with scenario := some (some s) } := by
  obtain ⟨-, hdays⟩ := column?_eq_some ht.day
  obtain ⟨-, hskills⟩ := column?_eq_some ht.skill
  obtain ⟨-, hvalues⟩ := column?_eq_some ht.value
  have hskills : (cellTexts (cellsOf t "skill")).length = t.rows.length := by
    rw [length_cellTexts, hskills]
  -- without a column for them, the old rows are for every scenario
  have hnoScenario : scenarioCells t = t.rows.map fun _ => none :=
    if_neg fun hcolumn => hasColumn_iff.mp hcolumn hnone
  unfold writtenRows
  rw [scenarioCells_repeated scenarios ht hnone, cellsOf_repeated scenarios ht (by decide) ht.day,
    cellsOf_repeated scenarios ht (by decide) ht.skill,
    cellsOf_repeated scenarios ht (by decide) ht.value, cellTexts_flatMap hsome,
    zip_flatMap_map scenarios (hskills.trans hvalues.symm),
    zip_flatMap_map scenarios (by rw [List.length_zip, hskills, hdays, hvalues, Nat.min_self]),
    zip_flatMap_map scenarios (by simp [hskills, hdays, hvalues]), hnoScenario, List.zip_map_left]
  simp only [List.map_flatMap, List.flatMap_map, List.map_map]
  rfl

end

/-- Looking for a scenario among the repeated rows is looking among the old ones. Induction on the
rows. -/
theorem find?_repeated {scenarios : List String} {scenario : String} (h : scenario ∈ scenarios)
    (label skill : String) {ws : List WrittenRow} (hws : ∀ w ∈ ws, w.scenario = none) :
    ((ws.flatMap fun w => scenarios.map fun s => { w with scenario := some (some s) }).find?
        (WrittenRow.names scenario label skill)).map WrittenRow.value
      = (ws.find? (WrittenRow.names scenario label skill)).map WrittenRow.value := by
  induction ws with
  | nil => rfl
  | cons w ws ih =>
      obtain ⟨hfirst, hrest⟩ := List.forall_mem_cons.mp hws
      have hnames : ∀ s, WrittenRow.names scenario label skill { w with scenario := some (some s) }
          = (s == scenario && w.names scenario label skill) := by
        intro s
        simp [WrittenRow.names, hfirst, Bool.and_assoc]
      rw [List.flatMap_cons, List.find?_append, List.find?_map, List.find?_cons, Option.map_or,
        ih hrest]
      -- if the row names what is looked for, so does its repetition for this scenario, and no other
      -- one of its repetitions
      cases hw : w.names scenario label skill with
      | false =>
          have hmiss : scenarios.find? (WrittenRow.names scenario label skill ∘ fun s =>
              { w with scenario := some (some s) }) = none := by
            rw [List.find?_eq_none]
            intro s _
            rw [Function.comp_apply, hnames, hw, Bool.and_false]
            exact Bool.false_ne_true
          rw [hmiss]
          rfl
      | true =>
          have hhit : (scenarios.find? (WrittenRow.names scenario label skill ∘ fun s =>
              { w with scenario := some (some s) })).isSome = true := by
            rw [List.find?_isSome]
            refine ⟨scenario, h, ?_⟩
            rw [Function.comp_apply, hnames, hw, beq_self_eq_true]
            rfl
          obtain ⟨s, hs⟩ := Option.isSome_iff_exists.mp hhit
          rw [hs]
          rfl

/-! ## Look-ups -/

theorem exists_error_iff {ε α : Type} {x : Except ε α} :
    (∃ e, x = .error e) ↔ ¬ ∃ a, x = .ok a := by
  cases x <;> simp

section

variable {t : Table} (ht : IsDemandTable t) {days : List Value} (hdays : AreLabelled days)
  {scenarios : List String}
include ht hdays

/-- A table is read exactly if its names have texts, and every row for a member asks for a number of
workers. -/
theorem demandOf_succeeds_iff : (∃ es, demandOf t days scenarios = .ok es) ↔
    IsLegible t ∧ ∀ w ∈ writtenRows t, w.IsMatched days → (workers? w.value).isSome = true := by
  have hnone : ∀ e ∈ ([] : List DemandEntry), e.day.IsMember := fun e he =>
    absurd he List.not_mem_nil
  have hrows := addRows_succeed_iff hdays (forall₂_rowsOf ht days scenarios) hnone
  unfold demandOf
  simp only [bind_eq_ok, demandRows_eq_ok ht]
  rw [← hrows]
  constructor
  · rintro ⟨es, rows, ⟨hlegible, rfl⟩, hrun⟩
    exact ⟨hlegible, es, hrun⟩
  · rintro ⟨hlegible, es, hrun⟩
    exact ⟨es, _, ⟨hlegible, rfl⟩, hrun⟩

/-- What is found is what the first row asks for that names it. -/
theorem countFor?_of_demandOf {es : List DemandEntry} (h : demandOf t days scenarios = .ok es)
    {scenario : String} (hscenario : scenario ∈ scenarios) {d : Value} (hd : d ∈ days)
    (skill : String) : countFor? es scenario d skill
      = (((writtenRows t).find? (WrittenRow.names scenario d.label skill)).map
        WrittenRow.value).bind workers? := by
  obtain ⟨rows, hrows, h⟩ := bind_eq_ok.mp h
  obtain ⟨-, rfl⟩ := (demandRows_eq_ok ht).mp hrows
  have hread := forall₂_rowsOf ht days scenarios
  have hcount := countFor?_addRows hdays hread (fun e he => absurd he List.not_mem_nil) h scenario
    hscenario d hd skill
  rw [hcount, Option.bind_map]
  rfl

end

/-- The first of January 2025. -/
def newYear : Date := ⟨739251, by decide⟩

end Rostering.Staffing
